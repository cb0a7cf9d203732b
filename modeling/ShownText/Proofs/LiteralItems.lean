import Mathlib.Algebra.Group.Nat.Defs
import ShownText.Proofs.ScannerAgreement

namespace ShownText.PostScript.Literal

open Text

def isOctalDigit (c : Char) : Bool := '0' ≤ c && c ≤ '7'

inductive Item
  | octal (digits : List Char)
  | lineEnd
  | escaped (c : Char)
  | plain (c : Char)
  deriving DecidableEq, Repr

namespace Item

def spelling : Item → List Char
  | .octal digits => '\\' :: digits
  | .lineEnd => ['\\', '\r', '\n']
  | .escaped c => ['\\', c]
  | .plain c => [c]

def meaning : Item → List Char
  | .octal digits => [Char.ofNat (Nat.ofDigitChars 8 digits 0)]
  | .lineEnd | .escaped '\r' | .escaped '\n' => []
  | .escaped 'n' => ['\n']
  | .escaped 'r' => ['\r']
  | .escaped 't' => ['\t']
  | .escaped 'b' => ['\x08']
  | .escaped 'f' => ['\x0c']
  | .escaped c | .plain c => [c]

def depthAfter (depth : ℕ) : Item → ℕ
  | .plain '(' => depth + 1
  | .plain ')' => depth - 1
  | _ => depth

end Item

/-- The item that a backslash before the characters begins, and what follows it. It takes as many
octal digits as there are, up to three. -/
def escapedItem? : List Char → Option (Item × List Char)
  | [] => none
  | c :: cs =>
    if isOctalDigit c then
      let more := (cs.takeWhile isOctalDigit).take 2
      some (.octal (c :: more), cs.drop more.length)
    else if c = '\r' ∧ cs.head? = some '\n' then some (.lineEnd, cs.tail)
    else some (.escaped c, cs)

def firstItem? : List Char → Option (Item × List Char)
  | [] => none
  | c :: cs => if c = '\\' then escapedItem? cs else some (.plain c, cs)

variable {cs rest : List Char} {item : Item}

theorem eq_append_of_escapedItem? (h : escapedItem? cs = some (item, rest)) :
    '\\' :: cs = item.spelling ++ rest := by
  cases cs with
  | nil => cases h
  | cons c cs =>
    rw [escapedItem?] at h
    split_ifs at h with hoctal hline
    · cases h
      have hmore : (cs.takeWhile isOctalDigit).take 2 <+: cs :=
        (List.take_prefix 2 _).trans (List.takeWhile_prefix isOctalDigit)
      have hcs := List.prefix_iff_eq_append.mp hmore
      exact congrArg (fun cs ↦ '\\' :: c :: cs) hcs.symm
    · cases h
      obtain ⟨rfl, hlf⟩ := hline
      obtain ⟨cs, rfl⟩ := List.head?_eq_some_iff.mp hlf
      rfl
    · cases h
      rfl

theorem eq_append_of_firstItem? (h : firstItem? cs = some (item, rest)) :
    cs = item.spelling ++ rest := by
  cases cs with
  | nil => cases h
  | cons c cs =>
    rw [firstItem?] at h
    split_ifs at h with hc
    · subst hc
      exact eq_append_of_escapedItem? h
    · cases h
      rfl

theorem length_lt_of_firstItem? (h : firstItem? cs = some (item, rest)) :
    rest.length < cs.length := by
  rw [eq_append_of_firstItem? h, List.length_append]
  cases item <;> simp [Item.spelling]

theorem eq_of_firstItem?_eq_none (h : firstItem? cs = none) : cs = [] ∨ cs = ['\\'] := by
  cases cs with
  | nil => exact .inl rfl
  | cons c cs =>
    rw [firstItem?] at h
    split_ifs at h with hc
    subst hc
    cases cs with
    | nil => exact .inr rfl
    | cons c cs =>
      rw [escapedItem?] at h
      split_ifs at h

def items (cs : List Char) : List Item :=
  match _h : firstItem? cs with
  | none => []
  | some (item, rest) => item :: items rest
termination_by cs.length
decreasing_by exact length_lt_of_firstItem? _h

theorem items_of_none (h : firstItem? cs = none) : items cs = [] := by
  rw [items]
  split
  · rfl
  · next h' => rw [h] at h'; cases h'

theorem items_of_some (h : firstItem? cs = some (item, rest)) : items cs = item :: items rest := by
  rw [items]
  split
  · next h' => rw [h] at h'; cases h'
  · next h' => rw [h] at h'; cases h'; rfl

theorem exists_tail_items (cs : List Char) : ∃ tail,
    cs = (items cs).flatMap Item.spelling ++ tail ∧ (tail = [] ∨ tail = ['\\']) := by
  induction cs using items.induct with
  | case1 cs h =>
    refine ⟨cs, ?_, eq_of_firstItem?_eq_none h⟩
    rw [items_of_none h, List.flatMap_nil, List.nil_append]
  | case2 cs item rest h ih =>
    obtain ⟨tail, hrest, htail⟩ := ih
    refine ⟨tail, ?_, htail⟩
    rw [items_of_some h, List.flatMap_cons, List.append_assoc, ← hrest]
    exact eq_append_of_firstItem? h

/-- The item is a plain closing parenthesis, and so far one more of these was read than there are
opening ones, where `depth` were open before the first item. -/
def ClosesAt (depth : ℕ) (its : List Item) (i : ℕ) : Prop :=
  its[i]? = some (.plain ')') ∧
    (its.take (i + 1)).count (.plain ')') = (its.take (i + 1)).count (.plain '(') + depth + 1

instance (depth : ℕ) (its : List Item) : DecidablePred (ClosesAt depth its) := fun _ ↦
  inferInstanceAs (Decidable (_ ∧ _))

variable {depth : ℕ} {its : List Item}

theorem Item.depthAfter_of_ne (hopen : item ≠ .plain '(') (hclose : item ≠ .plain ')') :
    item.depthAfter depth = depth := by
  unfold Item.depthAfter
  split
  · exact absurd rfl hopen
  · exact absurd rfl hclose
  · rfl

theorem closesAt_zero : ClosesAt depth (item :: its) 0 ↔ item = .plain ')' ∧ depth = 0 := by
  simp only [ClosesAt, List.getElem?_cons_zero, Option.some.injEq, Nat.zero_add,
    List.take_succ_cons, List.take_zero]
  constructor
  · rintro ⟨rfl, hcount⟩
    simp at hcount
    exact ⟨rfl, by omega⟩
  · rintro ⟨rfl, rfl⟩
    exact ⟨rfl, rfl⟩

theorem closesAt_succ (h : ¬(item = .plain ')' ∧ depth = 0)) (i : ℕ) :
    ClosesAt depth (item :: its) (i + 1) ↔ ClosesAt (item.depthAfter depth) its i := by
  simp only [ClosesAt, List.getElem?_cons_succ, List.take_succ_cons, List.count_cons]
  refine and_congr_right fun _ ↦ ?_
  by_cases hopen : item = .plain '('
  · subst hopen
    simp [Item.depthAfter]
    omega
  by_cases hclose : item = .plain ')'
  · subst hclose
    have hdepth : depth ≠ 0 := by simpa using h
    simp [Item.depthAfter]
    omega
  · simp [hopen, hclose, Item.depthAfter_of_ne hopen hclose]

variable {offset : ℕ} {value : List Char}

theorem octalDigit?_eq_ite (c : Char) :
    octalDigit? c = if isOctalDigit c then some (c.toNat - '0'.toNat) else none := by
  simp [octalDigit?, isOctalDigit]

theorem close?_octalDigits (code more : ℕ) (cs : List Char) :
    close? ⟨depth, .octal code more, value⟩ offset cs =
      close? ⟨depth, .plain,
          Char.ofNat (Nat.ofDigitChars 8 ((cs.takeWhile isOctalDigit).take more) code) :: value⟩
        (offset + byteLength ((cs.takeWhile isOctalDigit).take more))
        (cs.drop ((cs.takeWhile isOctalDigit).take more).length) := by
  induction more generalizing code offset cs with
  | zero =>
    simp only [List.take_zero, List.length_nil, List.drop_zero]
    exact Scanner.close?_octal (.inl rfl) depth code value
  | succ more ih =>
    cases cs with
    | nil => exact Scanner.close?_octal (.inr rfl) depth code value
    | cons c cs =>
      have hdigit := octalDigit?_eq_ite c
      split_ifs at hdigit with hc
      · rw [Scanner.close?_octal_succ hdigit, ih, List.takeWhile_cons_of_pos hc,
          List.take_succ_cons, Nat.ofDigitChars_cons, byteLength_cons,
          Scanner.utf8Size_of_octalDigit? hdigit, Nat.mul_comm, Nat.add_assoc]
        rfl
      · have hnone : (c :: cs).head?.bind octalDigit? = none := hdigit
        rw [List.takeWhile_cons_of_neg hc]
        exact Scanner.close?_octal (.inr hnone) depth code value

theorem readEscaped_octal {c : Char} {digit : ℕ} (h : octalDigit? c = some digit) (depth : ℕ)
    (value : List Char) :
    Partial.readEscaped ⟨depth, .escape, value⟩ c = ⟨depth, .octal digit 2, value⟩ := by
  unfold Partial.readEscaped
  split
  iterate 7 cases h
  rw [h]

theorem readEscaped_eq {c : Char} (hc : isOctalDigit c = false) (hline : c ≠ '\r')
    (depth : ℕ) (value : List Char) : Partial.readEscaped ⟨depth, .escape, value⟩ c =
      ⟨depth, .plain, (Item.escaped c).meaning.reverse ++ value⟩ := by
  have hdigit := octalDigit?_eq_ite c
  rw [hc, if_neg Bool.false_ne_true] at hdigit
  unfold Partial.readEscaped
  split
  iterate 5 rfl
  · exact absurd rfl hline
  · rfl
  · have hmeaning : (Item.escaped c).meaning = [c] := by
      unfold Item.meaning
      split <;> simp_all
    rw [hdigit, hmeaning]
    rfl

/-- Behind a backslash the item is read that it begins. -/
theorem close?_escapedItem (h : escapedItem? cs = some (item, rest)) :
    close? ⟨depth, .escape, value⟩ (offset + 1) cs =
      close? ⟨item.depthAfter depth, .plain, item.meaning.reverse ++ value⟩
        (offset + byteLength item.spelling) rest := by
  cases cs with
  | nil => cases h
  | cons c cs =>
    have hread : close? ⟨depth, .escape, value⟩ (offset + 1) (c :: cs) =
        close? (Partial.readEscaped ⟨depth, .escape, value⟩ c) (offset + 1 + c.utf8Size) cs := rfl
    rw [escapedItem?] at h
    split_ifs at h with hoctal hline
    · cases h
      have hdigit := octalDigit?_eq_ite c
      rw [if_pos hoctal] at hdigit
      rw [hread, readEscaped_octal hdigit, close?_octalDigits]
      simp only [Item.meaning, Item.spelling, Item.depthAfter, Nat.ofDigitChars_cons,
        byteLength_cons, Nat.add_assoc, Nat.mul_zero, Nat.zero_add]
      rfl
    · cases h
      obtain ⟨rfl, hlf⟩ := hline
      obtain ⟨cs, rfl⟩ := List.head?_eq_some_iff.mp hlf
      rfl
    · cases h
      by_cases hcr : c = '\r'
      · subst hcr
        have hlf : rest.head? ≠ some '\n' := fun hlf ↦ hline ⟨rfl, hlf⟩
        exact Scanner.close?_lineEnd hlf depth value
      · rw [hread, readEscaped_eq (by simpa using hoctal) hcr, Nat.add_assoc]
        rfl

theorem close?_of_no_item (h : firstItem? cs = none) :
    close? ⟨depth, .plain, value⟩ offset cs = none := by
  obtain rfl | rfl := eq_of_firstItem?_eq_none h
  · rfl
  · rfl

theorem close?_of_closing (h : firstItem? cs = some (.plain ')', rest)) :
    close? ⟨0, .plain, value⟩ offset cs =
      some (String.ofList value.reverse, ⟨offset + 1, rest⟩) := by
  rw [eq_append_of_firstItem? h]
  rfl

theorem close?_firstItem (h : firstItem? cs = some (item, rest))
    (hopen : ¬(item = .plain ')' ∧ depth = 0)) :
    close? ⟨depth, .plain, value⟩ offset cs =
      close? ⟨item.depthAfter depth, .plain, item.meaning.reverse ++ value⟩
        (offset + byteLength item.spelling) rest := by
  cases cs with
  | nil => cases h
  | cons c cs =>
    rw [firstItem?] at h
    split_ifs at h with hc
    · subst hc
      exact close?_escapedItem h
    · cases h
      by_cases hspecial : c = '(' ∨ c = ')'
      · rcases hspecial with rfl | rfl
        · rfl
        · have hread : Partial.read ⟨depth, .plain, value⟩ ')' =
              some ⟨depth - 1, .plain, ')' :: value⟩ := if_neg fun hd ↦ hopen ⟨rfl, hd⟩
          rw [close?, hread]
          rfl
      · have hread := read_plain (c := c) (by simp_all) depth value
        have hsame : (Item.plain c).depthAfter depth = depth :=
          Item.depthAfter_of_ne (fun h ↦ hspecial (.inl (Item.plain.inj h)))
            fun h ↦ hspecial (.inr (Item.plain.inj h))
        rw [close?, hread, hsame]
        rfl

theorem close?_of_closesAt {i : ℕ} (hi : ClosesAt depth (items cs) i)
    (hfirst : ∀ j < i, ¬ClosesAt depth (items cs) j) : ∃ rest,
      close? ⟨depth, .plain, value⟩ offset cs =
        some (String.ofList (value.reverse ++ ((items cs).take i).flatMap Item.meaning),
          ⟨offset + byteLength (((items cs).take (i + 1)).flatMap Item.spelling), rest⟩) := by
  induction cs using items.induct generalizing depth value offset i with
  | case1 cs h =>
    rw [items_of_none h] at hi
    cases hi.1
  | case2 cs item rest h ih =>
    rw [items_of_some h] at hi hfirst ⊢
    by_cases hclose : item = .plain ')' ∧ depth = 0
    · have hzero : i = 0 := by
        by_contra hne
        exact hfirst 0 (Nat.pos_of_ne_zero hne) (closesAt_zero.mpr hclose)
      obtain ⟨rfl, rfl⟩ := hclose
      subst hzero
      refine ⟨rest, ?_⟩
      rw [close?_of_closing h, List.take_zero, List.flatMap_nil, List.append_nil]
      rfl
    · cases i with
      | zero => exact absurd (closesAt_zero.mp hi) hclose
      | succ i =>
        have hi' := (closesAt_succ hclose i).mp hi
        have hfirst' : ∀ j < i, ¬ClosesAt (item.depthAfter depth) (items rest) j := by
          intro j hj hat
          exact hfirst (j + 1) (by omega) ((closesAt_succ hclose j).mpr hat)
        obtain ⟨after, hafter⟩ := ih hi' hfirst'
        refine ⟨after, ?_⟩
        rw [close?_firstItem h hclose, hafter]
        simp only [List.reverse_append, List.reverse_reverse, List.append_assoc,
          List.take_succ_cons, List.flatMap_cons, byteLength_append, Nat.add_assoc]

theorem close?_of_not_closesAt (h : ∀ i, ¬ClosesAt depth (items cs) i) :
    close? ⟨depth, .plain, value⟩ offset cs = none := by
  induction cs using items.induct generalizing depth value offset with
  | case1 cs hnone => exact close?_of_no_item hnone
  | case2 cs item rest hsome ih =>
    rw [items_of_some hsome] at h
    have hclose : ¬(item = .plain ')' ∧ depth = 0) := fun hclose ↦ h 0 (closesAt_zero.mpr hclose)
    rw [close?_firstItem hsome hclose]
    exact ih fun i hat ↦ h (i + 1) ((closesAt_succ hclose i).mpr hat)

theorem octal_of_firstItem? {digits : List Char} (h : firstItem? cs = some (.octal digits, rest)) :
    digits.length ≤ 3 ∧ ∀ c ∈ digits, isOctalDigit c = true := by
  cases cs with
  | nil => cases h
  | cons c cs =>
    rw [firstItem?] at h
    split_ifs at h
    · cases cs with
      | nil => cases h
      | cons c cs =>
        rw [escapedItem?] at h
        split_ifs at h with hc
        · cases h
          refine ⟨Nat.succ_le_succ (List.length_take_le 2 _), ?_⟩
          intro d hd
          rcases List.mem_cons.mp hd with rfl | hd
          · exact hc
          · exact List.mem_takeWhile_imp (List.mem_of_mem_take hd)
        · cases h
        · cases h
    · cases h

theorem octal_of_mem_items {digits : List Char} (h : .octal digits ∈ items cs) :
    digits.length ≤ 3 ∧ ∀ c ∈ digits, isOctalDigit c = true := by
  induction cs using items.induct with
  | case1 cs hnone =>
    rw [items_of_none hnone] at h
    cases h
  | case2 cs item rest hsome ih =>
    rw [items_of_some hsome] at h
    rcases List.mem_cons.mp h with rfl | h
    · exact octal_of_firstItem? hsome
    · exact ih h

theorem ofDigitChars_lt {digits : List Char} (h : ∀ c ∈ digits, isOctalDigit c = true)
    (code : ℕ) : Nat.ofDigitChars 8 digits code < 8 ^ digits.length * (code + 1) := by
  induction digits generalizing code with
  | nil => simp
  | cons c digits ih =>
    obtain ⟨hc, hdigits⟩ := List.forall_mem_cons.mp h
    have hdigit : c.toNat - '0'.toNat ≤ 7 := by
      have hle : c ≤ '7' := of_decide_eq_true (Bool.and_eq_true_iff.mp hc).2
      have hcode : c.toNat ≤ '7'.toNat := hle
      exact Nat.sub_le_sub_right hcode _
    calc Nat.ofDigitChars 8 (c :: digits) code
        = Nat.ofDigitChars 8 digits (8 * code + (c.toNat - '0'.toNat)) := Nat.ofDigitChars_cons
      _ < 8 ^ digits.length * (8 * code + (c.toNat - '0'.toNat) + 1) := ih hdigits _
      _ ≤ 8 ^ digits.length * (8 * (code + 1)) := Nat.mul_le_mul_left _ (by omega)
      _ = 8 ^ (digits.length + 1) * (code + 1) := by rw [Nat.pow_succ, Nat.mul_assoc]

theorem meaning_octal {digits : List Char} (h : .octal digits ∈ items cs) : ∃ c,
    (Item.octal digits).meaning = [c] ∧ c.toNat = Nat.ofDigitChars 8 digits 0 ∧
      c.toNat ≤ 0x1FF := by
  obtain ⟨hlength, hdigits⟩ := octal_of_mem_items h
  have hlt := ofDigitChars_lt hdigits 0
  have hpow : 8 ^ digits.length ≤ 8 ^ 3 := Nat.pow_le_pow_right (by omega) hlength
  have hcode : Nat.ofDigitChars 8 digits 0 ≤ 0x1FF := by omega
  have hchar := toNat_ofNat_of_lt (n := Nat.ofDigitChars 8 digits 0) (by omega)
  exact ⟨_, rfl, hchar, by omega⟩

/-- A literal opened before a character boundary is read in items. Its value is what the items
before the closing one mean, and it ends behind that one. If no item closes it, the value is empty
and all of the text is taken. -/
theorem readAt_items (text : String) (opening : ℕ)
    (h : String.Pos.Raw.IsValid text ⟨opening + 1⟩) :
    ∃ before rest, text.toList = before ++ rest ∧ byteLength before = opening + 1 ∧
      (∃ tail, rest = (items rest).flatMap Item.spelling ++ tail ∧ (tail = [] ∨ tail = ['\\'])) ∧
      (∀ digits, .octal digits ∈ items rest → ∃ c, (Item.octal digits).meaning = [c] ∧
        c.toNat = Nat.ofDigitChars 8 digits 0 ∧ c.toNat ≤ 0x1FF) ∧
      (∀ i, ClosesAt 0 (items rest) i → (∀ j < i, ¬ClosesAt 0 (items rest) j) →
        readAt text opening = (String.ofList (((items rest).take i).flatMap Item.meaning),
          opening + 1 + byteLength (((items rest).take (i + 1)).flatMap Item.spelling))) ∧
      ((∀ i, ¬ClosesAt 0 (items rest) i) → readAt text opening = ("", text.utf8ByteSize)) := by
  obtain ⟨rest, hin⟩ := Cursor.exists_isIn h
  have hread : readAt text opening = (read ⟨opening + 1, rest⟩).map id Cursor.offset := by
    rw [readAt, readFrom, hin.skipBytes?]
    rfl
  have hsize := hin.offset_add
  obtain ⟨before, htext, hbefore⟩ := hin
  refine ⟨before, rest, htext, hbefore.symm, exists_tail_items rest, fun _ ↦ meaning_octal, ?_, ?_⟩
  · intro i hi hfirst
    have hclose : ∃ after, close? .start (opening + 1) rest = some (_, ⟨_, after⟩) :=
      close?_of_closesAt hi hfirst
    obtain ⟨after, hafter⟩ := hclose
    rw [hread, read, hafter]
    rfl
  · intro hnone
    rw [hread, read, Partial.start, close?_of_not_closesAt hnone, Cursor.toEnd, Cursor.stop, hsize]
    rfl

theorem readAt_items_of_nested :
    String.Pos.Raw.IsValid "é(\\101(\\))\\53\\\r\n)x" ⟨3⟩ ∧
      readAt "é(\\101(\\))\\53\\\r\n)x" 2 = ("A())+", 18) := by
  have hvalid : String.Pos.Raw.IsValid "é(\\101(\\))\\53\\\r\n)x" ⟨3⟩ := by decide
  obtain ⟨before, rest, htext, hbefore, -, -, hclose, -⟩ := readAt_items _ 2 hvalid
  have hsplit : "é(\\101(\\))\\53\\\r\n)x".toList =
      ['é', '('] ++ "\\101(\\))\\53\\\r\n)x".toList := by rfl
  obtain ⟨-, rfl⟩ := Cursor.append_inj_of_byteLength (htext.symm.trans hsplit) hbefore
  have hitems : items "\\101(\\))\\53\\\r\n)x".toList =
      [.octal ['1', '0', '1'], .plain '(', .escaped ')', .plain ')', .octal ['5', '3'], .lineEnd,
        .plain ')', .plain 'x'] := by
    decide +kernel
  rw [hitems] at hclose
  exact ⟨hvalid, hclose 6 (by decide) (by decide)⟩

end ShownText.PostScript.Literal
