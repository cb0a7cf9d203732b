namespace ShownText.Text

def byteLength (cs : List Char) : Nat := cs.foldr (fun c n ↦ c.utf8Size + n) 0

@[simp] theorem byteLength_nil : byteLength [] = 0 := rfl

@[simp] theorem byteLength_cons (c : Char) (cs : List Char) :
    byteLength (c :: cs) = c.utf8Size + byteLength cs := rfl

@[simp] theorem byteLength_append (xs ys : List Char) :
    byteLength (xs ++ ys) = byteLength xs + byteLength ys := by
  induction xs with
  | nil => exact (Nat.zero_add _).symm
  | cons c xs ih => rw [List.cons_append, byteLength_cons, byteLength_cons, ih, Nat.add_assoc]

structure Cursor where
  offset : Nat
  rest : List Char
  deriving DecidableEq, Repr

namespace Cursor

def ofString (text : String) : Cursor := ⟨0, text.toList⟩

def stop (c : Cursor) : Nat := c.offset + byteLength c.rest

def toEnd (c : Cursor) : Cursor := ⟨c.stop, []⟩

def skipWhile (p : Char → Bool) (c : Cursor) : Cursor :=
  ⟨c.offset + byteLength (c.rest.takeWhile p), c.rest.dropWhile p⟩

def skipOne : Cursor → Cursor
  | ⟨offset, []⟩ => ⟨offset, []⟩
  | ⟨offset, c :: cs⟩ => ⟨offset + c.utf8Size, cs⟩

/-- Moves on by `n` bytes. None if that ends inside a character or past the end. -/
def skipBytes? (n : Nat) (c : Cursor) : Option Cursor :=
  (dropBytes? n c.rest).map (⟨c.offset + n, ·⟩)
where
  dropBytes? : Nat → List Char → Option (List Char)
    | 0, cs => some cs
    | _ + 1, [] => none
    | n + 1, c :: cs => if c.utf8Size ≤ n + 1 then dropBytes? (n + 1 - c.utf8Size) cs else none

theorem length_skipWhile_le (p : Char → Bool) (c : Cursor) :
    (c.skipWhile p).rest.length ≤ c.rest.length :=
  (List.dropWhile_suffix p).length_le

theorem length_skipOne_le (c : Cursor) : c.skipOne.rest.length ≤ c.rest.length := by
  obtain ⟨offset, _ | ⟨c, cs⟩⟩ := c <;> simp [skipOne]

end Cursor

end ShownText.Text
