namespace ShownText

inductive Delivery
  | chunk (bytes : List UInt8)
  | interrupted
  | failure (reason : String)
  deriving DecidableEq, Repr

/-- The deliveries of an input in turn. An empty chunk is its end. -/
abbrev Source := List Delivery

namespace Source

def ofBytes (bytes : List UInt8) : Source := [.chunk bytes]

def readToEnd : Source → Except String (List UInt8)
  | [] => .ok []
  | .chunk [] :: _ => .ok []
  | .chunk bytes :: source => (readToEnd source).map (bytes ++ ·)
  | .interrupted :: source => readToEnd source
  | .failure reason :: _ => .error reason

@[simp] theorem readToEnd_ofBytes (bytes : List UInt8) : (ofBytes bytes).readToEnd = .ok bytes := by
  cases bytes with
  | nil => rfl
  | cons b bytes => simp [ofBytes, readToEnd, Except.map]

end Source

end ShownText
