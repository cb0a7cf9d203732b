import Mathlib.Data.List.Forall2
import Mathlib.Data.List.TakeWhile
import ShownText.Proofs.Registration

namespace ShownText.Text

variable {p : Char → Bool} {cs front back : List Char} {c : Char}

theorem trim_append (hfront : ∀ c ∈ front, p c = true) (hback : ∀ c ∈ back, p c = true) :
    trim p (front ++ (cs ++ back)) = trim p cs := by
  have hback' : ∀ c ∈ back.reverse, p c = true := fun c hc ↦ hback c (List.mem_reverse.mp hc)
  rw [trim, List.dropWhile_append_of_pos hfront, List.dropWhile_append, trim]
  split
  · next hempty =>
    rw [List.isEmpty_iff.mp hempty, List.dropWhile_eq_nil_iff.mpr hback]
  · rw [List.reverse_append, List.dropWhile_append_of_pos hback']

theorem trim_map {f : Char → Char} (h : ∀ c, p (f c) = p c) (cs : List Char) :
    trim p (cs.map f) = (trim p cs).map f := by
  have hp : p ∘ f = p := funext h
  rw [trim, List.dropWhile_map, ← List.map_reverse, List.dropWhile_map, hp, ← List.map_reverse,
    trim]

theorem dropWhile_eq_trim_append (p : Char → Bool) (cs : List Char) :
    cs.dropWhile p = trim p cs ++ ((cs.dropWhile p).reverse.takeWhile p).reverse := by
  rw [trim, ← List.reverse_append, List.takeWhile_append_dropWhile, List.reverse_reverse]

theorem exists_trim (p : Char → Bool) (cs : List Char) : ∃ front back,
    cs = front ++ (trim p cs ++ back) ∧ (∀ c ∈ front, p c = true) ∧ ∀ c ∈ back, p c = true := by
  refine ⟨cs.takeWhile p, ((cs.dropWhile p).reverse.takeWhile p).reverse, ?_, ?_, ?_⟩
  · rw [← dropWhile_eq_trim_append, List.takeWhile_append_dropWhile]
  · exact fun c hc ↦ List.mem_takeWhile_imp hc
  · exact fun c hc ↦ List.mem_takeWhile_imp (List.mem_reverse.mp hc)

theorem mem_of_mem_trim (h : c ∈ trim p cs) : c ∈ cs := by
  obtain ⟨front, back, hcs, -, -⟩ := exists_trim p cs
  rw [hcs]
  exact List.mem_append_right front (List.mem_append_left back h)

theorem not_of_head?_dropWhile (h : (cs.dropWhile p).head? = some c) : p c = false := by
  have hhead := List.head?_dropWhile_not p cs
  rw [h] at hhead
  exact hhead

theorem not_of_head?_trim (h : (trim p cs).head? = some c) : p c = false := by
  have hhead : (cs.dropWhile p).head? = some c := by
    rw [dropWhile_eq_trim_append, List.head?_append, h, Option.some_or]
  exact not_of_head?_dropWhile hhead

theorem not_of_getLast?_trim (h : (trim p cs).getLast? = some c) : p c = false := by
  rw [trim, List.getLast?_reverse] at h
  exact not_of_head?_dropWhile h

theorem isUpper_iff : c.isUpper = true ↔ 65 ≤ c.toNat ∧ c.toNat ≤ 90 := by
  change decide (c.val ≥ 'A'.val ∧ c.val ≤ 'Z'.val) = true ↔ _
  rw [decide_eq_true_iff]
  exact Iff.rfl

theorem isLower_iff : c.isLower = true ↔ 97 ≤ c.toNat ∧ c.toNat ≤ 122 := by
  change (decide (c.val ≥ 'a'.val) && decide (c.val ≤ 'z'.val)) = true ↔ _
  rw [Bool.and_eq_true, decide_eq_true_iff, decide_eq_true_iff]
  exact Iff.rfl

theorem isAlpha_iff : c.isAlpha = true ↔
    (65 ≤ c.toNat ∧ c.toNat ≤ 90) ∨ (97 ≤ c.toNat ∧ c.toNat ≤ 122) := by
  change (c.isUpper || c.isLower) = true ↔ _
  rw [Bool.or_eq_true, isUpper_iff, isLower_iff]

theorem toNat_toLower (c : Char) :
    c.toLower.toNat = if 65 ≤ c.toNat ∧ c.toNat ≤ 90 then c.toNat + 32 else c.toNat := by
  unfold Char.toLower
  split
  · next h =>
    have hcode : 65 ≤ c.toNat ∧ c.toNat ≤ 90 := h
    have hadd : (c.val + 32).toNat = (c.toNat + 32) % 4294967296 := UInt32.toNat_add _ _
    rw [if_pos hcode]
    exact hadd.trans (by omega)
  · next h => exact (if_neg h).symm

theorem toNat_toUpper (c : Char) :
    c.toUpper.toNat = if 97 ≤ c.toNat ∧ c.toNat ≤ 122 then c.toNat - 32 else c.toNat := by
  unfold Char.toUpper
  split
  · next h =>
    have hcode : 97 ≤ c.toNat ∧ c.toNat ≤ 122 := h
    -- The difference of the two cases is negative and wraps around.
    have hadd : (c.val + 4294967264).toNat = (c.toNat + 4294967264) % 4294967296 :=
      UInt32.toNat_add _ _
    rw [if_pos hcode]
    exact hadd.trans (by omega)
  · next h => exact (if_neg h).symm

theorem toLower_eq_self (h : ¬(65 ≤ c.toNat ∧ c.toNat ≤ 90)) : c.toLower = c := by
  rw [← Char.toNat_inj, toNat_toLower, if_neg h]

theorem isBlank_toLower (c : Char) : isBlank c.toLower = isBlank c := by
  rw [isBlank, isBlank, toNat_toLower]
  split
  · rw [Bool.eq_iff_iff]
    simp only [Bool.or_eq_true, Bool.and_eq_true, beq_iff_eq, decide_eq_true_eq]
    omega
  · rfl

theorem isUpper_toLower (c : Char) : c.toLower.isUpper = false := by
  rw [Bool.eq_false_iff, ne_eq, isUpper_iff, toNat_toLower]
  split <;> omega

theorem eq_of_toLower_eq {d : Char} (hd : d.isAlpha = false) (h : c.toLower = d) : c = d := by
  subst h
  by_cases hc : 65 ≤ c.toNat ∧ c.toNat ≤ 90
  · have halpha : c.toLower.isAlpha = true := by
      rw [isAlpha_iff, toNat_toLower, if_pos hc]
      omega
    rw [hd] at halpha
    cases halpha
  · exact (toLower_eq_self hc).symm

end ShownText.Text

namespace ShownText.MediaType

open Text

/-- The same character, in either case if it is an ASCII letter. -/
def SameLetter (c d : Char) : Prop := d = c ∨ d = c.toLower ∨ d = c.toUpper

/-- A way to write a media type: its characters in either case, between blanks, and behind them
parameters or none. -/
structure Spelling (mime : String) where
  front : List Char
  letters : List Char
  back : List Char
  params : List Char
  bare : ';' ∉ mime.toList
  front_blank : ∀ c ∈ front, isBlank c = true
  recased : List.Forall₂ SameLetter mime.toList letters
  back_blank : ∀ c ∈ back, isBlank c = true
  params_head : params = [] ∨ params.head? = some ';'

def Spelling.text {mime : String} (s : Spelling mime) : String :=
  String.ofList (s.front ++ (s.letters ++ (s.back ++ s.params)))

def SameType (text other : String) : Prop :=
  ∃ mime, (∃ s : Spelling mime, s.text = text) ∧ ∃ s : Spelling mime, s.text = other

structure IsCanonical (text : String) : Prop where
  bare : ';' ∉ text.toList
  lower : ∀ c ∈ text.toList, c.isUpper = false
  head : ∀ c, text.toList.head? = some c → isBlank c = false
  last : ∀ c, text.toList.getLast? = some c → isBlank c = false

variable {mime : String} {c d : Char}

theorem SameLetter.toLower_eq (h : SameLetter c d) : d.toLower = c.toLower := by
  rw [← Char.toNat_inj]
  rcases h with rfl | rfl | rfl
  · rfl
  · grind [toNat_toLower]
  · grind [toNat_toLower, toNat_toUpper]

theorem sameLetter_toLower (c : Char) : SameLetter c.toLower c := by
  by_cases h : 65 ≤ c.toNat ∧ c.toNat ≤ 90
  · refine .inr (.inr ?_)
    rw [← Char.toNat_inj]
    grind [toNat_toLower, toNat_toUpper]
  · exact .inl (toLower_eq_self h).symm

theorem map_toLower_of_recased {xs ys : List Char} (h : List.Forall₂ SameLetter xs ys) :
    ys.map Char.toLower = xs.map Char.toLower := by
  induction h with
  | nil => rfl
  | cons h _ ih => rw [List.map_cons, List.map_cons, h.toLower_eq, ih]

theorem recased_map_toLower (cs : List Char) :
    List.Forall₂ SameLetter (cs.map Char.toLower) cs := by
  induction cs with
  | nil => exact .nil
  | cons c cs ih => exact .cons (sameLetter_toLower c) ih

theorem not_mem_of_recased {xs ys : List Char} (h : List.Forall₂ SameLetter xs ys)
    (hd : d.isAlpha = false) (hxs : d ∉ xs) : d ∉ ys := by
  intro hys
  have hlower : d.toLower ∈ xs.map Char.toLower := by
    rw [← map_toLower_of_recased h]
    exact List.mem_map_of_mem hys
  obtain ⟨c, hc, hcd⟩ := List.mem_map.mp hlower
  have hself : d.toLower = d := toLower_eq_self fun h ↦
    Bool.false_ne_true (hd.symm.trans (isAlpha_iff.mpr (.inl h)))
  exact hxs (eq_of_toLower_eq hd (hcd.trans hself) ▸ hc)

theorem takeWhile_bare (h : ';' ∉ mime.toList) :
    mime.toList.takeWhile (· != ';') = mime.toList := by
  rw [List.takeWhile_eq_self_iff]
  intro c hc
  rw [bne_iff_ne]
  rintro rfl
  exact h hc

namespace Spelling

variable (s : Spelling mime)

theorem takeWhile_text :
    s.text.toList.takeWhile (· != ';') = s.front ++ (s.letters ++ s.back) := by
  have hfront : ';' ∉ s.front := fun h ↦ absurd (s.front_blank _ h) (by decide)
  have hback : ';' ∉ s.back := fun h ↦ absurd (s.back_blank _ h) (by decide)
  have hletters : ';' ∉ s.letters := not_mem_of_recased s.recased (by decide) s.bare
  have hbare : ∀ c ∈ s.front ++ (s.letters ++ s.back), (c != ';') = true := by
    intro c hc
    rw [bne_iff_ne]
    rintro rfl
    simp only [List.mem_append, hfront, hletters, hback, or_self] at hc
  have hparams : s.params.takeWhile (· != ';') = [] := by
    rcases s.params_head with h | h
    · rw [h, List.takeWhile_nil]
    · obtain ⟨params, hp⟩ := List.head?_eq_some_iff.mp h
      rw [hp]
      rfl
  have htext : s.text.toList = (s.front ++ (s.letters ++ s.back)) ++ s.params := by
    rw [text, String.toList_ofList]
    simp only [List.append_assoc]
  rw [htext, List.takeWhile_append_of_pos hbare, hparams, List.append_nil]

theorem canonical_text : canonical s.text = canonical mime := by
  -- No letter is blank, so the case may be forgotten before trimming as well as after it.
  rw [canonical, canonical, s.takeWhile_text, takeWhile_bare s.bare,
    trim_append s.front_blank s.back_blank, ← trim_map isBlank_toLower, ← trim_map isBlank_toLower,
    map_toLower_of_recased s.recased]

end Spelling

theorem toList_canonical (text : String) : (canonical text).toList =
    (trim isBlank (text.toList.takeWhile (· != ';'))).map Char.toLower := String.toList_ofList

theorem isCanonical_canonical (text : String) : IsCanonical (canonical text) := by
  refine ⟨?_, ?_, ?_, ?_⟩
  · rw [toList_canonical]
    intro hmem
    obtain ⟨c, hc, hlower⟩ := List.mem_map.mp hmem
    obtain rfl := eq_of_toLower_eq (by decide) hlower
    exact absurd (List.mem_takeWhile_imp (mem_of_mem_trim hc)) (by decide)
  · rw [toList_canonical]
    intro c hc
    obtain ⟨c, -, rfl⟩ := List.mem_map.mp hc
    exact isUpper_toLower c
  · rw [toList_canonical, List.head?_map]
    intro c hc
    obtain ⟨c, hhead, rfl⟩ := Option.map_eq_some_iff.mp hc
    exact (isBlank_toLower c).trans (not_of_head?_trim hhead)
  · rw [toList_canonical, List.getLast?_map]
    intro c hc
    obtain ⟨c, hlast, rfl⟩ := Option.map_eq_some_iff.mp hc
    exact (isBlank_toLower c).trans (not_of_getLast?_trim hlast)

/-- Every text is a spelling of its canonical form. -/
theorem exists_spelling (text : String) : ∃ s : Spelling (canonical text), s.text = text := by
  obtain ⟨front, back, hbare, hfront, hback⟩ :=
    exists_trim isBlank (text.toList.takeWhile (· != ';'))
  have hparams : text.toList.dropWhile (· != ';') = [] ∨
      (text.toList.dropWhile (· != ';')).head? = some ';' := by
    cases hhead : (text.toList.dropWhile (· != ';')).head? with
    | none => exact .inl (List.head?_eq_none_iff.mp hhead)
    | some c =>
      have hc := not_of_head?_dropWhile hhead
      rw [bne_eq_false_iff_eq] at hc
      exact .inr (congrArg some hc)
  refine ⟨⟨front, _, back, _, (isCanonical_canonical text).bare, hfront,
    toList_canonical text ▸ recased_map_toLower _, hback, hparams⟩, ?_⟩
  have hsplit := List.takeWhile_append_dropWhile (p := (· != ';')) (l := text.toList)
  rw [hbare, List.append_assoc, List.append_assoc] at hsplit
  rw [Spelling.text, hsplit, String.ofList_toList]

theorem sameType_iff (text other : String) :
    SameType text other ↔ canonical text = canonical other := by
  constructor
  · rintro ⟨mime, ⟨s, rfl⟩, t, rfl⟩
    rw [s.canonical_text, t.canonical_text]
  · intro h
    refine ⟨canonical text, exists_spelling text, ?_⟩
    rw [h]
    exact exists_spelling other

theorem canonical_canonical (text : String) : canonical (canonical text) = canonical text := by
  obtain ⟨s, hs⟩ := exists_spelling text
  calc canonical (canonical text) = canonical s.text := s.canonical_text.symm
    _ = canonical text := by rw [hs]

end ShownText.MediaType

namespace ShownText.Registry

open MediaType

variable {entries others : List (String × Extractor)} {text other : String} {r : Registry}

/-- The same extractors in the same order, each for the same media type in any spelling. -/
def Respelled : List (String × Extractor) → List (String × Extractor) → Prop :=
  List.Forall₂ fun entry other ↦ SameType entry.1 other.1 ∧ entry.2 = other.2

theorem add_congr (h : SameType text other) (r : Registry) (e : Extractor) :
    r.add text e = r.add other e := by
  rw [add, (sameType_iff text other).mp h, add]

theorem addAll_congr (h : Respelled entries others) (r : Registry) :
    r.addAll entries = r.addAll others := by
  induction h generalizing r with
  | nil => rfl
  | @cons entry other entries others h _ ih =>
    calc r.addAll (entry :: entries)
        = (r.add entry.1 entry.2).addAll entries := rfl
      _ = (r.add other.1 other.2).addAll others := by rw [add_congr h.1, h.2, ih]

theorem extractorsFor_congr (h : SameType text other) (r : Registry) :
    r.extractorsFor text = r.extractorsFor other := by
  rw [extractorsFor, (sameType_iff text other).mp h, extractorsFor]

theorem mem_extractorsFor_add (r : Registry) (mime : String) (e : Extractor) :
    e ∈ (r.add mime e).extractorsFor mime := by
  rw [extractorsFor, List.mem_mergeSort, add, OrderedMap.get?_upsert, if_pos rfl]
  exact List.mem_append_right _ List.mem_cons_self

theorem tryInTurn_of_ne_nil {es : List Extractor} (h : es ≠ []) (bytes : List UInt8)
    (params : Option Params) (last other : Fault) :
    tryInTurn bytes params last es = tryInTurn bytes params other es := by
  cases es with
  | nil => exact absurd rfl h
  | cons e es => rfl

theorem extract_congr (h : SameType text other) (r : Registry) (hsome : r.extractorsFor text ≠ [])
    (bytes : List UInt8) (params : Option Params) :
    r.extract text bytes params = r.extract other bytes params := by
  rw [extract, extract, ← extractorsFor_congr h]
  exact tryInTurn_of_ne_nil hsome bytes params _ _

theorem extract_of_none (h : r.extractorsFor text = []) (bytes : List UInt8)
    (params : Option Params) : r.extract text bytes params = .fail (.noExtractor text) := by
  rw [extract, h, tryInTurn]

/-- Texts have one canonical form exactly if they are spellings of one media type. Registrations
give the same registry in whatever spellings they are made, and in whatever spelling a registry is
asked, it gives the same extractors, the same preferred one and the same extraction. Only where it
has no extractor does it tell the spelling. -/
theorem spellings_immaterial :
    (∀ text other, SameType text other ↔ canonical text = canonical other) ∧
    (∀ text, IsCanonical (canonical text) ∧ canonical (canonical text) = canonical text) ∧
    (∀ entries others, Respelled entries others → ∀ r : Registry,
      r.addAll entries = r.addAll others) ∧
    ∀ text other, SameType text other → ∀ r : Registry,
      (∀ e, e ∈ (r.add text e).extractorsFor other) ∧
      r.extractorsFor text = r.extractorsFor other ∧
      r.preferred? text = r.preferred? other ∧
      (r.extractorsFor text ≠ [] → ∀ bytes params,
        r.extract text bytes params = r.extract other bytes params) ∧
      (r.extractorsFor text = [] → ∀ bytes params,
        r.extract other bytes params = .fail (.noExtractor other)) := by
  refine ⟨sameType_iff, fun text ↦ ⟨isCanonical_canonical text, canonical_canonical text⟩,
    fun entries others ↦ addAll_congr, fun text other h r ↦ ⟨fun e ↦ ?_,
      extractorsFor_congr h r, ?_, extract_congr h r, fun hnone ↦ ?_⟩⟩
  · rw [add_congr h]
    exact mem_extractorsFor_add r other e
  · rw [preferred?, preferred?, extractorsFor_congr h]
  · rw [extractorsFor_congr h] at hnone
    exact extract_of_none hnone

theorem spellings_immaterial_of_blanks :
    SameType "\u00a0Text/PLAIN\t; a;b" "text/plain" ∧
    (empty.add "\u00a0Text/PLAIN\t; a;b" (.scripted "high" 5 .echo)).extractorsFor "text/plain" ≠
      [] ∧
    empty.addAll [("\u00a0Text/PLAIN\t; a;b", .scripted "high" 5 .echo)] =
      empty.addAll [("text/plain", .scripted "high" 5 .echo)] ∧
    ∀ bytes params,
      (empty.add "\u00a0Text/PLAIN\t; a;b" (.scripted "high" 5 .echo)).extract
          "\u00a0Text/PLAIN\t; a;b" bytes params =
        (empty.add "\u00a0Text/PLAIN\t; a;b" (.scripted "high" 5 .echo)).extract
          "text/plain" bytes params := by
  have htext : canonical "\u00a0Text/PLAIN\t; a;b" = "text/plain" := by decide
  have hother : canonical "text/plain" = "text/plain" := by decide
  have hsame := (spellings_immaterial.1 _ _).mpr (htext.trans hother.symm)
  have hasked := spellings_immaterial.2.2.2 _ _ hsame
  obtain ⟨-, halike, -, hextract, -⟩ :=
    hasked (empty.add "\u00a0Text/PLAIN\t; a;b" (.scripted "high" 5 .echo))
  have hsome := List.ne_nil_of_mem ((hasked empty).1 (.scripted "high" 5 .echo))
  have hrespelled : Respelled [("\u00a0Text/PLAIN\t; a;b", .scripted "high" 5 .echo)]
      [("text/plain", .scripted "high" 5 .echo)] := .cons ⟨hsame, rfl⟩ .nil
  refine ⟨hsame, hsome, spellings_immaterial.2.2.1 _ _ hrespelled empty, hextract ?_⟩
  rw [halike]
  exact hsome

end ShownText.Registry
