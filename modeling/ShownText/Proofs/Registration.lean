import Mathlib.Data.List.Induction
import Mathlib.Data.List.Pairwise
import ShownText.Extraction.Scripted
import ShownText.Proofs.Puts
import ShownText.Registry

namespace ShownText.Registry

def ofWeight (weight : Int) (extractors : List Extractor) : List Extractor :=
  extractors.filter fun e ↦ e.weight = weight

/-- All of the extractors by descending weight. Those of one weight keep their order. -/
structure Ranked (extractors ranked : List Extractor) : Prop where
  perm : ranked.Perm extractors
  descending : ranked.Pairwise fun a b ↦ b.weight ≤ a.weight
  stable : ∀ weight, ofWeight weight ranked = ofWeight weight extractors

def registered (entries : List (String × Extractor)) (mime : String) : List Extractor :=
  (entries.filter fun entry ↦ MediaType.canonical entry.1 = MediaType.canonical mime).map Prod.snd

theorem mem_ofWeight {weight : Int} {es : List Extractor} {e : Extractor} :
    e ∈ ofWeight weight es ↔ e ∈ es ∧ e.weight = weight := by
  simp [ofWeight]

theorem ofWeight_cons (weight : Int) (e : Extractor) (es : List Extractor) :
    ofWeight weight (e :: es) =
      if e.weight = weight then e :: ofWeight weight es else ofWeight weight es := by
  simp [ofWeight, List.filter_cons]

theorem weight_le_of_mem_ofWeight {a b : Extractor} {xs : List Extractor}
    (hx : (a :: xs).Pairwise fun a b ↦ b.weight ≤ a.weight)
    (hb : b ∈ ofWeight b.weight (a :: xs)) : b.weight ≤ a.weight := by
  rcases List.mem_cons.mp (mem_ofWeight.mp hb).1 with rfl | hm
  · exact Int.le_refl _
  · exact List.rel_of_pairwise_cons hx hm

/-- A descending list is determined by its extractors of each weight. -/
theorem eq_of_ofWeight {xs ys : List Extractor} (hx : xs.Pairwise fun a b ↦ b.weight ≤ a.weight)
    (hy : ys.Pairwise fun a b ↦ b.weight ≤ a.weight)
    (h : ∀ weight, ofWeight weight xs = ofWeight weight ys) : xs = ys := by
  induction xs generalizing ys with
  | nil =>
    cases ys with
    | nil => rfl
    | cons b ys => simpa [ofWeight] using h b.weight
  | cons a xs ih =>
    cases ys with
    | nil => simpa [ofWeight] using h a.weight
    | cons b ys =>
      have hab : a.weight ≤ b.weight := by
        apply weight_le_of_mem_ofWeight hy
        rw [← h]
        simp [ofWeight]
      have hba : b.weight ≤ a.weight := by
        apply weight_le_of_mem_ofWeight hx
        rw [h]
        simp [ofWeight]
      have hw : a.weight = b.weight := Int.le_antisymm hab hba
      -- The heads are the first of their weight on both sides.
      have hhead := h a.weight
      rw [ofWeight_cons, ofWeight_cons, if_pos rfl, if_pos hw.symm] at hhead
      obtain ⟨rfl, -⟩ := List.cons.inj hhead
      refine congrArg (a :: ·) (ih hx.of_cons hy.of_cons fun weight ↦ ?_)
      have htail := h weight
      rw [ofWeight_cons, ofWeight_cons] at htail
      split at htail
      · exact (List.cons.inj htail).2
      · exact htail

theorem weight_trans (a b c : Extractor) (hab : decide (b.weight ≤ a.weight) = true)
    (hbc : decide (c.weight ≤ b.weight) = true) : decide (c.weight ≤ a.weight) = true := by
  simp only [decide_eq_true_eq] at hab hbc ⊢
  omega

theorem weight_total (a b : Extractor) :
    (decide (b.weight ≤ a.weight) || decide (a.weight ≤ b.weight)) = true := by
  simp only [Bool.or_eq_true, decide_eq_true_eq]
  omega

/-- Sorting keeps every sublist that is in order already, such as the extractors of one weight. -/
theorem ofWeight_sublist_mergeSort (weight : Int) (es : List Extractor) :
    (ofWeight weight es).Sublist (es.mergeSort fun a b ↦ decide (b.weight ≤ a.weight)) := by
  have hequal : (ofWeight weight es).Pairwise fun a b ↦ decide (b.weight ≤ a.weight) = true := by
    apply List.pairwise_of_forall_mem_list
    intro a ha b hb
    have hweight : b.weight = a.weight := (mem_ofWeight.mp hb).2.trans (mem_ofWeight.mp ha).2.symm
    exact decide_eq_true (Int.le_of_eq hweight)
  exact List.sublist_mergeSort weight_trans weight_total hequal List.filter_sublist

theorem ranked_mergeSort (es : List Extractor) :
    Ranked es (es.mergeSort fun a b ↦ decide (b.weight ≤ a.weight)) := by
  have hperm := es.mergeSort_perm fun a b ↦ decide (b.weight ≤ a.weight)
  refine ⟨hperm, ?_, fun weight ↦ ?_⟩
  · simpa using List.pairwise_mergeSort weight_trans weight_total es
  · have hsub := (ofWeight_sublist_mergeSort weight es).filter fun e ↦ decide (e.weight = weight)
    rw [ofWeight, List.filter_filter] at hsub
    simp only [Bool.and_self] at hsub
    exact (hsub.eq_of_length (hperm.filter _).length_eq.symm).symm

variable (entries : List (String × Extractor)) (mime : String)

theorem addAll_concat (entry : String × Extractor) :
    empty.addAll (entries ++ [entry]) = (empty.addAll entries).add entry.1 entry.2 := by
  rw [addAll, List.foldl_append]
  rfl

theorem registered_concat (entry : String × Extractor) :
    registered (entries ++ [entry]) mime = registered entries mime ++
      if MediaType.canonical entry.1 = MediaType.canonical mime then [entry.2] else [] := by
  rw [registered, List.filter_append, List.map_append, registered]
  split <;> simp [*]

theorem added_addAll :
    ((empty.addAll entries).table.get? (MediaType.canonical mime)).getD [] =
      registered entries mime := by
  induction entries using List.reverseRecOn with
  | nil => rfl
  | append_singleton entries entry ih =>
    rw [addAll_concat, add, OrderedMap.get?_upsert, registered_concat]
    by_cases h : MediaType.canonical entry.1 = MediaType.canonical mime
    · rw [if_pos h.symm, if_pos h, h, ih, Option.getD_some]
    · rw [if_neg (Ne.symm h), if_neg h, ih, List.append_nil]

theorem extractorsFor_ranked :
    Ranked (registered entries mime) ((empty.addAll entries).extractorsFor mime) := by
  rw [extractorsFor, added_addAll]
  exact ranked_mergeSort _

theorem preferred?_eq_none_iff :
    (empty.addAll entries).preferred? mime = none ↔ registered entries mime = [] := by
  rw [preferred?, List.head?_eq_none_iff]
  have hperm := (extractorsFor_ranked entries mime).perm
  constructor
  · intro h
    exact (h ▸ hperm).nil_eq.symm
  · intro h
    exact (h ▸ hperm).eq_nil

theorem table_addAll : (empty.addAll entries).table = (∅ : OrderedMap _ _).putAll
    (entries.map fun entry ↦
      (MediaType.canonical entry.1, fun added ↦ added.getD [] ++ [entry.2])) := by
  rw [OrderedMap.putAll, List.foldl_map, addAll]
  exact (List.foldl_hom Registry.table fun _ _ ↦ rfl).symm

theorem mediaTypes_addAll :
    (empty.addAll entries).mediaTypes =
      (entries.map fun entry ↦ MediaType.canonical entry.1).eraseDups := by
  rw [mediaTypes, table_addAll, OrderedMap.keys_putAll, List.map_map]
  rfl

theorem filter_swap {α : Type} {p : α → Bool} {x y : α} (h : ¬(p x = true ∧ p y = true))
    (before after : List α) : (before ++ x :: y :: after).filter p =
      (before ++ y :: x :: after).filter p := by
  simp only [List.filter_append, List.filter_cons]
  congr 1
  split <;> split <;> simp_all

theorem ofWeight_registered (weight : Int) : ofWeight weight (registered entries mime) =
    (entries.filter fun entry ↦ decide (entry.2.weight = weight) &&
      decide (MediaType.canonical entry.1 = MediaType.canonical mime)).map Prod.snd := by
  rw [ofWeight, registered, List.filter_map, List.filter_filter]
  rfl

variable {x y : String × Extractor}

theorem extractorsFor_swap (h : MediaType.canonical x.1 ≠ MediaType.canonical y.1 ∨
    x.2.weight ≠ y.2.weight) (before after : List (String × Extractor)) (mime : String) :
    (empty.addAll (before ++ x :: y :: after)).extractorsFor mime =
      (empty.addAll (before ++ y :: x :: after)).extractorsFor mime := by
  have hx := extractorsFor_ranked (before ++ x :: y :: after) mime
  have hy := extractorsFor_ranked (before ++ y :: x :: after) mime
  refine eq_of_ofWeight hx.descending hy.descending fun weight ↦ ?_
  rw [hx.stable, hy.stable, ofWeight_registered, ofWeight_registered, filter_swap]
  simp only [Bool.and_eq_true, decide_eq_true_eq]
  rintro ⟨⟨hwx, hmx⟩, hwy, hmy⟩
  rcases h with h | h
  · exact h (hmx.trans hmy.symm)
  · exact h (hwx.trans hwy.symm)

/-- After any registrations the extractors of a media type are those registered under a spelling of
it, ranked by weight, and the preferred one is the first of them. The media types are listed in the
order in which each was first registered. Neighbouring registrations for different types or of
different weights may change places. -/
theorem registrations_ranked (entries : List (String × Extractor)) :
    (∀ mime, Ranked (registered entries mime) ((empty.addAll entries).extractorsFor mime) ∧
      (empty.addAll entries).preferred? mime = ((empty.addAll entries).extractorsFor mime).head? ∧
      ((empty.addAll entries).preferred? mime = none ↔ registered entries mime = [])) ∧
    (empty.addAll entries).mediaTypes =
      (entries.map fun entry ↦ MediaType.canonical entry.1).eraseDups ∧
    ∀ before x y after, entries = before ++ x :: y :: after →
      MediaType.canonical x.1 ≠ MediaType.canonical y.1 ∨ x.2.weight ≠ y.2.weight →
      ∀ mime,
        (empty.addAll (before ++ y :: x :: after)).extractorsFor mime =
          (empty.addAll entries).extractorsFor mime ∧
        (empty.addAll (before ++ y :: x :: after)).preferred? mime =
          (empty.addAll entries).preferred? mime ∧
        ∀ bytes params, (empty.addAll (before ++ y :: x :: after)).extract mime bytes params =
          (empty.addAll entries).extract mime bytes params := by
  refine ⟨fun mime ↦ ⟨extractorsFor_ranked entries mime, rfl, preferred?_eq_none_iff entries mime⟩,
    mediaTypes_addAll entries, ?_⟩
  rintro before x y after rfl hne mime
  have hswap := extractorsFor_swap hne before after mime
  refine ⟨hswap.symm, ?_, fun bytes params ↦ ?_⟩
  · rw [preferred?, preferred?, hswap]
  · rw [extract, extract, hswap]

theorem registrations_ranked_of_weights :
    (Extractor.scripted "low" 1 .echo).weight ≠ (Extractor.scripted "high" 5 .echo).weight ∧
    ∀ mime,
      (empty.addAll [("A/B ;q", .scripted "high" 5 .echo), ("a/b", .scripted "low" 1 .echo)]
        ).extractorsFor mime =
      (empty.addAll [("a/b", .scripted "low" 1 .echo), ("A/B ;q", .scripted "high" 5 .echo)]
        ).extractorsFor mime := by
  have hne : (Extractor.scripted "low" 1 .echo).weight ≠
      (Extractor.scripted "high" 5 .echo).weight := by decide
  refine ⟨hne, fun mime ↦ ?_⟩
  exact ((registrations_ranked _).2.2 [] _ _ [] rfl (.inr hne) mime).1

end ShownText.Registry
