import ShownText.Proofs.Marks

namespace ShownText.Charset.Utf16

open Text

def units (c : Char) : List ℕ :=
  if c.toNat < 0x10000 then [c.toNat]
  else [0xD800 + (c.toNat - 0x10000) / 0x400, 0xDC00 + (c.toNat - 0x10000) % 0x400]

def ByteOrder.bytes (order : ByteOrder) (unit : ℕ) : List UInt8 :=
  match order with
  | .littleEndian => [UInt8.ofNat (unit % 256), UInt8.ofNat (unit / 256)]
  | .bigEndian => [UInt8.ofNat (unit / 256), UInt8.ofNat (unit % 256)]

def encode (order : ByteOrder) (cs : List Char) : List UInt8 :=
  (cs.flatMap units).flatMap order.bytes

variable {order : ByteOrder}

theorem runFrom_cons (state : State) (b : UInt8) (bytes : List UInt8) :
    (decoder order).runFrom state (b :: bytes) =
      (step order state b).1 ++ (decoder order).runFrom (step order state b).2 bytes :=
  Decoder.runFrom_cons (decoder order) state b bytes

def readNext (high : Option ℕ) (unit : ℕ) : List Place × State :=
  match high with
  | none => readUnit unit
  | some high =>
    if isLowSurrogate unit then ([some (joinSurrogates high unit)], ⟨none, none⟩)
    else (none :: (readUnit unit).1, (readUnit unit).2)

theorem step_step (first second : UInt8) (high : Option ℕ) :
    step order (step order ⟨none, high⟩ first).2 second =
      readNext high (order.unit first second) := by
  cases high <;> rfl

theorem exists_bytes (order : ByteOrder) {unit : ℕ} (h : unit < 0x10000) :
    ∃ first second, order.bytes unit = [first, second] ∧ order.unit first second = unit := by
  have hlow : (UInt8.ofNat (unit % 256)).toNat = unit % 256 :=
    UInt8.toNat_ofNat_of_lt' (Nat.mod_lt _ (by decide))
  have hhigh : (UInt8.ofNat (unit / 256)).toNat = unit / 256 :=
    UInt8.toNat_ofNat_of_lt' (by rw [UInt8.size]; omega)
  cases order
  · refine ⟨_, _, rfl, ?_⟩
    rw [ByteOrder.unit, hlow, hhigh]
    exact Nat.div_add_mod' unit 256
  · refine ⟨_, _, rfl, ?_⟩
    rw [ByteOrder.unit, hlow, hhigh]
    exact Nat.div_add_mod' unit 256

theorem runFrom_unit {unit : ℕ} (h : unit < 0x10000) (high : Option ℕ) (bytes : List UInt8) :
    (decoder order).runFrom (⟨none, high⟩ : State) (order.bytes unit ++ bytes) =
      (readNext high unit).1 ++ (decoder order).runFrom (readNext high unit).2 bytes := by
  obtain ⟨first, second, hbytes, hunit⟩ := exists_bytes order h
  rw [hbytes, List.cons_append, List.singleton_append, runFrom_cons, runFrom_cons, step_step,
    hunit]
  rfl

theorem readNext_character (c : Char) : readNext none c.toNat = ([some c], ⟨none, none⟩) := by
  simp only [readNext, readUnit, isHighSurrogate_toNat, isLowSurrogate_toNat, Char.ofNat_toNat,
    Bool.false_eq_true, if_false]

theorem readNext_high {n : ℕ} (h : n < 0x400) :
    readNext none (0xD800 + n) = ([], ⟨none, some (0xD800 + n)⟩) := by
  have hhigh : isHighSurrogate (0xD800 + n) = true := by
    simp only [isHighSurrogate, Bool.and_eq_true, decide_eq_true_eq]
    omega
  rw [readNext, readUnit, if_pos hhigh]

theorem readNext_low {m n : ℕ} (hn : n < 0x400) :
    readNext (some (0xD800 + m)) (0xDC00 + n) =
      ([some (Char.ofNat (0x10000 + m * 0x400 + n))], ⟨none, none⟩) := by
  have hlow : isLowSurrogate (0xDC00 + n) = true := by
    simp only [isLowSurrogate, Bool.and_eq_true, decide_eq_true_eq]
    omega
  rw [readNext, if_pos hlow, joinSurrogates, Nat.add_sub_cancel_left, Nat.add_sub_cancel_left]

theorem runFrom_units (c : Char) (bytes : List UInt8) :
    (decoder order).runFrom (⟨none, none⟩ : State) ((units c).flatMap order.bytes ++ bytes) =
      some c :: (decoder order).runFrom (⟨none, none⟩ : State) bytes := by
  have hc : c.toNat < 0xD800 ∨ 0xDFFF < c.toNat ∧ c.toNat < 0x110000 := c.valid
  rw [units]
  split_ifs with hplane
  · rw [List.flatMap_singleton, runFrom_unit hplane, readNext_character]
    rfl
  · have hjoin : 0x10000 + (c.toNat - 0x10000) / 0x400 * 0x400 + (c.toNat - 0x10000) % 0x400 =
        c.toNat := by omega
    rw [List.flatMap_cons, List.flatMap_singleton, List.append_assoc, runFrom_unit (by omega),
      readNext_high (by omega), List.nil_append, runFrom_unit (by omega),
      readNext_low (by omega), hjoin, Char.ofNat_toNat]
    rfl

theorem runFrom_encode_append (order : ByteOrder) (cs : List Char) (bytes : List UInt8) :
    (decoder order).runFrom (⟨none, none⟩ : State) (encode order cs ++ bytes) =
      cs.map some ++ (decoder order).runFrom (⟨none, none⟩ : State) bytes := by
  induction cs with
  | nil => rfl
  | cons c cs ih =>
    have hcons : encode order (c :: cs) = (units c).flatMap order.bytes ++ encode order cs := by
      rw [encode, List.flatMap_cons, List.flatMap_append, encode]
    rw [hcons, List.append_assoc, runFrom_units, ih, List.map_cons, List.cons_append]

def ByteOrder.charset : ByteOrder → Charset
  | .littleEndian => .utf16le
  | .bigEndian => .utf16be

theorem isEncoder [LegacyDecoders] (order : ByteOrder) :
    order.charset.IsEncoder (decoder order) (encode order) := by
  cases order with
  | littleEndian =>
    exact ⟨⟨Decoder.runFrom_nil (decoder .littleEndian) ⟨none, none⟩,
      runFrom_encode_append .littleEndian⟩, rfl, by decide⟩
  | bigEndian =>
    exact ⟨⟨Decoder.runFrom_nil (decoder .bigEndian) ⟨none, none⟩,
      runFrom_encode_append .bigEndian⟩, rfl, by decide⟩

end ShownText.Charset.Utf16
