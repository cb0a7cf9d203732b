import Mathlib.Data.List.Basic
import ShownText.Record.Json

namespace ShownText

namespace Json

open Text

def Piece.Stands (piece : Piece) (c : Char) : Prop :=
  piece = .char c ∨ piece = .unit c.toNat ∧ c < ' '

theorem Piece.Stands.joinPieces {piece : Piece} {c : Char} (h : piece.Stands c) (text : List Char)
    (pieces : List Piece) :
    joinPieces text (piece :: pieces) = Json.joinPieces (c :: text) pieces := by
  obtain rfl | ⟨rfl, hc⟩ := h
  · rfl
  · rw [joinPieces.eq_def]
    simp only [isHighSurrogate_toNat, isLowSurrogate_toNat, Bool.false_eq_true, if_false,
      Char.ofNat_toNat]

theorem unit?_hexDigit : ∀ n < 0x20,
    unit? '0' '0' (hexDigit (n / 16)) (hexDigit (n % 16)) = some n := by
  decide

def isVisible (c : Char) : Bool := ' ' ≤ c

theorem visible_hexDigit : ∀ n < 16, isVisible (hexDigit n) = true := by decide

theorem readPieces_escape (c : Char) : ∃ piece : Piece, piece.Stands c ∧
    ∀ read cs, readPieces read (escape c ++ cs) = readPieces (piece :: read) cs := by
  unfold escape
  split
  case h_8 hquote hbackslash _ _ _ _ _ =>
    -- A control character without an escape of its own is written by its number.
    split
    · next hc =>
      refine ⟨.unit c.toNat, .inr ⟨rfl, hc⟩, ?_⟩
      intro read cs
      simp only [List.cons_append, List.nil_append]
      rw [readPieces, unit?_hexDigit c.toNat hc]
    · next hc =>
      refine ⟨.char c, .inl rfl, ?_⟩
      intro read cs
      rw [List.cons_append, List.nil_append, readPieces]
      · rw [if_neg hc]
      · exact hquote
      · intro _ _ _ _ _ h
        exact absurd h hbackslash
      · intro _ _ h
        exact absurd h hbackslash
  all_goals exact ⟨.char _, .inl rfl, fun _ _ ↦ rfl⟩

theorem visible_escape (c : Char) : (escape c).all isVisible = true := by
  unfold escape
  split
  case h_8 =>
    split
    · next hc =>
      have hlt : c.toNat < 0x20 := hc
      have hhigh := visible_hexDigit (c.toNat / 16) (by omega)
      have hlow := visible_hexDigit (c.toNat % 16) (by omega)
      simp only [List.all_cons, hhigh, hlow]
      rfl
    · next hc =>
      have hvisible : isVisible c = true := decide_eq_true (Char.not_lt.mp hc)
      rw [List.all_cons, hvisible]
      rfl
  all_goals rfl

theorem readPieces_flatMap (cs : List Char) : ∃ pieces : List Piece,
    (∀ read rest, readPieces read (cs.flatMap escape ++ '"' :: rest) =
      some (pieces.reverse ++ read, rest)) ∧
    ∀ text, joinPieces text pieces = some (text.reverse ++ cs) := by
  induction cs with
  | nil => exact ⟨[], fun _ _ ↦ rfl, fun text ↦ by simp [joinPieces]⟩
  | cons c cs ih =>
    obtain ⟨pieces, hread, hjoin⟩ := ih
    obtain ⟨piece, hstands, hpiece⟩ := readPieces_escape c
    refine ⟨piece :: pieces, ?_, ?_⟩
    · intro read rest
      rw [List.flatMap_cons, List.append_assoc, hpiece, hread]
      simp
    · intro text
      rw [hstands.joinPieces, hjoin]
      simp

theorem readString_escaped (text : String) (rest : List Char) :
    readString (text.toList.flatMap escape ++ '"' :: rest) = some (some text, rest) := by
  obtain ⟨pieces, hread, hjoin⟩ := readPieces_flatMap text.toList
  rw [readString, hread]
  simp [hjoin]

theorem printText_some (text : String) :
    printText (some text) = '"' :: (text.toList.flatMap escape ++ ['"']) := rfl

theorem visible_printText (text : String) : (printText (some text)).all isVisible = true := by
  have htext : (text.toList.flatMap escape).all isVisible = true := by
    rw [List.all_flatMap, List.all_eq_true]
    exact fun c _ ↦ visible_escape c
  rw [printText_some, List.all_cons, List.all_append, htext]
  rfl

mutual

/-- No part is a number, and all strings are texts. -/
def Textual : Json → Prop
  | .null | .bool _ => True
  | .number _ => False
  | .string text => text.isSome
  | .array items => TextualItems items
  | .object members => TextualMembers members

def TextualItems : List Json → Prop
  | [] => True
  | item :: items => Textual item ∧ TextualItems items

def TextualMembers : List (Option String × Json) → Prop
  | [] => True
  | (name, value) :: members => name.isSome ∧ Textual value ∧ TextualMembers members

end

theorem print_array (item : Json) (items : List Json) :
    print (.array (item :: items)) = '[' :: print item ++ printItems items := rfl

theorem print_object (name : Option String) (value : Json)
    (members : List (Option String × Json)) : print (.object ((name, value) :: members)) =
      '\x7b' :: printText name ++ ':' :: print value ++ printMembers members := rfl

theorem visible_member (name : String) {value members : List Char}
    (hvalue : value.all isVisible = true) (hmembers : members.all isVisible = true) :
    (printText (some name) ++ ':' :: value ++ members).all isVisible = true := by
  rw [List.all_append, List.all_append, List.all_cons, visible_printText, hvalue, hmembers]
  rfl

mutual

theorem visible_print : ∀ v : Json, Textual v → (print v).all isVisible = true
  | .null, _ => rfl
  | .bool true, _ => rfl
  | .bool false, _ => rfl
  | .string (some text), _ => visible_printText text
  | .array [], _ => rfl
  | .array (item :: items), h => by
    have hitem := visible_print item h.1
    have hitems := visible_printItems items h.2
    rw [print_array, List.cons_append, List.all_cons, List.all_append, hitem, hitems]
    rfl
  | .object [], _ => rfl
  | .object ((some name, value) :: members), h => by
    have hvalue := visible_print value h.2.1
    have hmembers := visible_printMembers members h.2.2
    rw [print_object, List.cons_append, List.cons_append, List.all_cons,
      visible_member name hvalue hmembers]
    rfl

theorem visible_printItems : ∀ items : List Json, TextualItems items →
    (printItems items).all isVisible = true
  | [], _ => rfl
  | item :: items, h => by
    have hitem := visible_print item h.1
    have hitems := visible_printItems items h.2
    rw [printItems, List.cons_append, List.all_cons, List.all_append, hitem, hitems]
    rfl

theorem visible_printMembers : ∀ members : List (Option String × Json), TextualMembers members →
    (printMembers members).all isVisible = true
  | [], _ => rfl
  | (some name, value) :: members, h => by
    have hvalue := visible_print value h.2.1
    have hmembers := visible_printMembers members h.2.2
    rw [printMembers, List.cons_append, List.cons_append, List.all_cons,
      visible_member name hvalue hmembers]
    rfl

end

theorem skipBlanks_cons {c : Char} (h : isBlank c = false) (cs : List Char) :
    skipBlanks (c :: cs) = c :: cs := by
  rw [skipBlanks, List.dropWhile_cons, h]
  rfl

/-- The value is read from its text, whatever follows, with fuel for two steps a character. -/
def Rereads (v : Json) : Prop :=
  ∀ fuel rest, 2 * (print v).length ≤ fuel → readValue fuel (print v ++ rest) = some (v, rest)

theorem print_head {v : Json} (h : Textual v) :
    ∃ c cs, print v = c :: cs ∧ isBlank c = false ∧ c ≠ ']' := by
  match v, h with
  | .null, _ => exact ⟨_, _, rfl, by decide⟩
  | .bool true, _ => exact ⟨_, _, rfl, by decide⟩
  | .bool false, _ => exact ⟨_, _, rfl, by decide⟩
  | .string (some _), _ => exact ⟨_, _, rfl, by decide⟩
  | .array [], _ => exact ⟨_, _, rfl, by decide⟩
  | .array (_ :: _), _ => exact ⟨_, _, rfl, by decide⟩
  | .object [], _ => exact ⟨_, _, rfl, by decide⟩
  | .object ((_, _) :: _), _ => exact ⟨_, _, rfl, by decide⟩

theorem readName_printText (name : String) (rest : List Char) :
    readName (printText (some name) ++ ':' :: rest) = some (some name, rest) := by
  rw [printText_some, List.cons_append, List.append_assoc, readName]
  have hread := readString_escaped name (':' :: rest)
  simp only [List.cons_append, List.nil_append, hread, Option.bind_eq_bind, Option.bind_some]
  rfl

theorem print_length_pos {v : Json} (h : Textual v) : 0 < (print v).length := by
  obtain ⟨c, cs, hprint, -⟩ := print_head h
  rw [hprint]
  exact Nat.succ_pos _

theorem rereads_of_succ {v : Json} (h : Textual v) (hread : ∀ fuel rest,
    2 * (print v).length ≤ fuel + 1 → readValue (fuel + 1) (print v ++ rest) = some (v, rest)) :
    Rereads v := by
  intro fuel rest hfuel
  have hpos := print_length_pos h
  obtain ⟨fuel, rfl⟩ := Nat.exists_eq_add_one.mpr (by omega : 0 < fuel)
  exact hread fuel rest hfuel

section Steps

variable {v : Json} {fuel : ℕ}

theorem readItems_last (hv : Rereads v) (hfuel : 2 * (print v).length ≤ fuel) (rest : List Char) :
    readItems (fuel + 1) (print v ++ ']' :: rest) = some ([v], rest) := by
  rw [readItems, hv fuel _ hfuel]
  rfl

theorem readItems_next (hv : Rereads v) (hfuel : 2 * (print v).length ≤ fuel) (rest : List Char) :
    readItems (fuel + 1) (print v ++ ',' :: rest) =
      (readItems fuel rest).map fun r ↦ (v :: r.1, r.2) := by
  rw [readItems, hv fuel _ hfuel, Option.bind_eq_bind, Option.bind_some]
  dsimp only
  rw [skipBlanks_cons (by decide), Option.map_eq_bind]
  rfl

theorem skipBlanks_printText (name : String) (rest : List Char) :
    skipBlanks (printText (some name) ++ rest) = printText (some name) ++ rest := by
  rw [printText_some, List.cons_append, skipBlanks_cons (by decide)]

theorem readMembers_last (name : String) (hv : Rereads v) (hfuel : 2 * (print v).length ≤ fuel)
    (rest : List Char) :
    readMembers (fuel + 1) (printText (some name) ++ ':' :: (print v ++ '\x7d' :: rest)) =
      some ([(some name, v)], rest) := by
  rw [readMembers, skipBlanks_printText, readName_printText, Option.bind_eq_bind,
    Option.bind_some]
  dsimp only
  rw [hv fuel _ hfuel]
  rfl

theorem readMembers_next (name : String) (hv : Rereads v) (hfuel : 2 * (print v).length ≤ fuel)
    (rest : List Char) :
    readMembers (fuel + 1) (printText (some name) ++ ':' :: (print v ++ ',' :: rest)) =
      (readMembers fuel rest).map fun r ↦ ((some name, v) :: r.1, r.2) := by
  rw [readMembers, skipBlanks_printText, readName_printText, Option.bind_eq_bind,
    Option.bind_some]
  dsimp only
  rw [hv fuel _ hfuel, Option.bind_eq_bind, Option.bind_some]
  dsimp only
  rw [skipBlanks_cons (by decide), Option.map_eq_bind]
  rfl

theorem rereads_ofString (text : String) : Rereads (.ofString text) := by
  have htext : Textual (.ofString text) := by rfl
  apply rereads_of_succ htext
  intro fuel rest _
  have hprint : print (.ofString text) = '"' :: (text.toList.flatMap escape ++ ['"']) := rfl
  have hread : readValue (fuel + 1) ('"' :: (text.toList.flatMap escape ++ '"' :: rest)) =
      (readString (text.toList.flatMap escape ++ '"' :: rest)).map fun r ↦ (.string r.1, r.2) := rfl
  rw [hprint, List.cons_append, List.append_assoc, List.singleton_append, hread,
    readString_escaped]
  rfl

theorem readValue_array {c : Char} (hblank : isBlank c = false) (hclose : c ≠ ']')
    (cs : List Char) : readValue (fuel + 1) ('[' :: c :: cs) =
      (readItems fuel (c :: cs)).map fun r ↦ (.array r.1, r.2) := by
  have hopen : skipBlanks ('[' :: c :: cs) = '[' :: c :: cs := skipBlanks_cons rfl _
  have hitem : skipBlanks (c :: cs) = c :: cs := skipBlanks_cons hblank cs
  simp only [readValue, hopen, hitem]
  split
  · next h => exact absurd (List.cons.inj h).1 hclose
  · rfl

theorem readValue_object (cs : List Char) : readValue (fuel + 1) ('\x7b' :: '"' :: cs) =
    (readMembers fuel ('"' :: cs)).map fun r ↦ (.object r.1, r.2) := rfl

end Steps

-- A value, its items and its members at once. Behind the first item the text goes on with
-- `printItems`, which begins with a comma or closes the array, so the first item is read apart.
mutual

theorem rereads : ∀ v : Json, Textual v → Rereads v
  | .null, h => rereads_of_succ h fun _ _ _ ↦ rfl
  | .bool true, h => rereads_of_succ h fun _ _ _ ↦ rfl
  | .bool false, h => rereads_of_succ h fun _ _ _ ↦ rfl
  | .string (some text), _ => rereads_ofString text
  | .array [], h => rereads_of_succ h fun _ _ _ ↦ rfl
  | .array (item :: items), h => by
    have hitems := readItems_print items h.2 item (rereads item h.1)
    obtain ⟨c, cs, hc, hblank, hclose⟩ := print_head h.1
    apply rereads_of_succ h
    intro fuel rest hfuel
    simp only [print_array, List.length_cons, List.length_append] at hfuel
    have hread := hitems fuel rest (by omega)
    simp only [print_array, List.cons_append, List.append_assoc]
    rw [hc, List.cons_append] at hread ⊢
    rw [readValue_array hblank hclose, hread]
    rfl
  | .object [], h => rereads_of_succ h fun _ _ _ ↦ rfl
  | .object ((some name, value) :: members), h => by
    have hmembers := readMembers_print members h.2.2 name value (rereads value h.2.1)
    apply rereads_of_succ h
    intro fuel rest hfuel
    simp only [print_object, List.length_cons, List.length_append] at hfuel
    have hread := hmembers fuel rest (by omega)
    simp only [print_object, List.cons_append, List.append_assoc]
    rw [printText_some, List.cons_append] at hread ⊢
    rw [readValue_object, hread]
    rfl

theorem readItems_print : ∀ items : List Json, TextualItems items →
    ∀ item : Json, Rereads item → ∀ (fuel : ℕ) (rest : List Char),
      2 * ((print item).length + (printItems items).length) ≤ fuel →
      readItems fuel (print item ++ (printItems items ++ rest)) = some (item :: items, rest)
  | [], _ => by
    intro item hitem fuel rest hfuel
    simp only [printItems, List.length_singleton] at hfuel
    obtain ⟨fuel, rfl⟩ := Nat.exists_eq_add_one.mpr (by omega : 0 < fuel)
    exact readItems_last hitem (by omega) rest
  | next :: items, h => by
    intro item hitem fuel rest hfuel
    have hnext := rereads next h.1
    simp only [printItems, List.length_cons, List.length_append] at hfuel
    obtain ⟨fuel, rfl⟩ := Nat.exists_eq_add_one.mpr (by omega : 0 < fuel)
    simp only [printItems, List.cons_append, List.append_assoc]
    rw [readItems_next hitem (by omega),
      readItems_print items h.2 next hnext fuel rest (by omega)]
    rfl

theorem readMembers_print : ∀ members : List (Option String × Json), TextualMembers members →
    ∀ (name : String) (value : Json), Rereads value → ∀ (fuel : ℕ) (rest : List Char),
      2 * ((print value).length + (printMembers members).length) ≤ fuel →
      readMembers fuel (printText (some name) ++ ':' :: (print value ++
        (printMembers members ++ rest))) = some ((some name, value) :: members, rest)
  | [], _ => by
    intro name value hvalue fuel rest hfuel
    simp only [printMembers, List.length_singleton] at hfuel
    obtain ⟨fuel, rfl⟩ := Nat.exists_eq_add_one.mpr (by omega : 0 < fuel)
    exact readMembers_last name hvalue (by omega) rest
  | (some name', value') :: members, h => by
    intro name value hvalue fuel rest hfuel
    have hnext := rereads value' h.2.1
    simp only [printMembers, List.length_cons, List.length_append] at hfuel
    obtain ⟨fuel, rfl⟩ := Nat.exists_eq_add_one.mpr (by omega : 0 < fuel)
    simp only [printMembers, List.cons_append, List.append_assoc]
    rw [readMembers_next name hvalue (by omega),
      readMembers_print members h.2.2 name' value' hnext fuel rest (by omega)]
    rfl

end

/-- A value without numbers, all of whose strings are texts, is read from its text. -/
theorem parse?_render {v : Json} (h : Textual v) : parse? (render v) = some v := by
  have hread := rereads v h (2 * (print v).length + 2) [] (by omega)
  rw [List.append_nil] at hread
  rw [parse?, render, String.toList_ofList, hread]
  rfl

theorem textual_ofStrings (texts : List String) : Textual (ofStrings texts) := by
  change TextualItems (texts.map ofString)
  induction texts with
  | nil => trivial
  | cons text texts ih => exact ⟨rfl, ih⟩

theorem textual_ofMembers {members : List (String × Json)} (h : ∀ m ∈ members, Textual m.2) :
    Textual (ofMembers members) := by
  change TextualMembers (members.map fun m ↦ (some m.1, m.2))
  induction members with
  | nil => trivial
  | cons m members ih =>
    rw [List.forall_mem_cons] at h
    exact ⟨rfl, h.1, ih h.2⟩

end Json

theorem Record.textual_toJson (r : Record) : r.toJson.Textual := by
  apply Json.textual_ofMembers
  rw [List.forall_mem_cons, List.forall_mem_singleton]
  constructor
  · cases r.content with
    | none => trivial
    | some content => rfl
  · apply Json.textual_ofMembers
    intro m hm
    obtain ⟨e, -, rfl⟩ := List.mem_map.mp hm
    exact Json.textual_ofStrings e.2

end ShownText
