/-
  Foundation/Words.lean --- the words of a list.

  Separators are given by a predicate.
-/
import Mathlib.Data.List.DropRight
import Mathlib.Data.List.Infix

namespace HeimdallDaq.Foundation.Words

open List

variable {α : Type} (p : α → Bool)

def all (l : List α) : List (List α) := (l.splitOnP p).filter fun w => !w.isEmpty

def first (l : List α) : List α := (l.dropWhile p).takeWhile fun a => !p a

def rest (l : List α) : List α := ((l.dropWhile p).dropWhile fun a => !p a).dropWhile p

def last (l : List α) : List α := (l.rdropWhile p).rtakeWhile fun a => !p a

def front (l : List α) : List α := ((l.rdropWhile p).rdropWhile fun a => !p a).rdropWhile p

/-- A word: something, without separators. -/
@[local grind]
structure IsWord (w : List α) : Prop where
  ne_nil : w ≠ []
  separates : ∀ a ∈ w, p a = false

/-- There are no separators at the ends. -/
@[local grind]
structure Trimmed (l : List α) : Prop where
  head : ∀ a ∈ l.head?, p a = false
  last : ∀ a ∈ l.getLast?, p a = false

variable {p} {w l r : List α} {s : α}

/-! ## Trimmed lists -/

lemma Trimmed.dropWhile_eq (h : Trimmed p l) : l.dropWhile p = l := by
  cases l with
  | nil => rfl
  | cons a l => rw [dropWhile_cons, if_neg (by simp [h.head a rfl])]

lemma Trimmed.rdropWhile_eq (h : Trimmed p l) : l.rdropWhile p = l := by
  grind [rdropWhile_eq_self_iff]

lemma IsWord.trimmed (hw : IsWord p w) : Trimmed p w where
  head a ha := hw.separates a (mem_of_mem_head? ha)
  last a ha := hw.separates a (mem_of_getLast? ha)

lemma IsWord.of_prefix {k : List α} (hw : IsWord p w) (hk : k <+: w) : k = [] ∨ IsWord p k := by
  grind

lemma Trimmed.append {a b : List α} (ha : Trimmed p a) (hb : Trimmed p b) (hne : a ≠ [])
    (hne' : b ≠ []) (m : List α) : Trimmed p (a ++ m ++ b) where
  head x hx := ha.head x (by
    rwa [append_assoc, head?_append_of_ne_nil _ hne] at hx)
  last x hx := hb.last x (by rwa [getLast?_append_of_ne_nil _ hne'] at hx)

lemma trimmed_strip (l : List α) : Trimmed p ((l.dropWhile p).rdropWhile p) where
  head a ha := by
    have hhead : a ∈ (l.dropWhile p).head? := by
      obtain ⟨tail, htail⟩ := rdropWhile_prefix p (l.dropWhile p)
      rw [← htail, head?_append, Option.mem_def.mp ha]
      rfl
    have hnot := head?_dropWhile_not p l
    rw [Option.mem_def.mp hhead] at hnot
    simpa using hnot
  last a ha := by
    have hne : (l.dropWhile p).rdropWhile p ≠ [] := by
      rintro hnil
      rw [hnil] at ha
      cases ha
    have hlast := rdropWhile_last_not p (l.dropWhile p) hne
    rw [Option.mem_def, getLast?_eq_some_getLast hne] at ha
    cases ha
    simpa using hlast

/-! ## The first word -/

lemma dropWhile_not_append (hw : ∀ a ∈ w, p a = false) (hs : p s) :
    (w ++ s :: r).dropWhile (fun a => !p a) = s :: r := by
  grind [dropWhile_append_of_pos, dropWhile_cons]

lemma first_append (hw : IsWord p w) (hs : p s) : first p (w ++ s :: r) = w := by
  obtain ⟨a, w', rfl⟩ := exists_cons_of_ne_nil hw.ne_nil
  grind [first, dropWhile_cons, takeWhile_append_of_pos, takeWhile_cons]

lemma rest_append (hw : IsWord p w) (hs : p s) : rest p (w ++ s :: r) = r.dropWhile p := by
  obtain ⟨a, w', rfl⟩ := exists_cons_of_ne_nil hw.ne_nil
  have ha : p a = false := hw.separates a mem_cons_self
  rw [rest, cons_append, dropWhile_cons, if_neg (by simp [ha]), ← cons_append,
    dropWhile_not_append hw.separates hs, dropWhile_cons, if_pos hs]

lemma IsWord.first_eq (hw : IsWord p w) : first p w = w := by
  rw [first, hw.trimmed.dropWhile_eq, takeWhile_eq_self_iff]
  simpa using hw.separates

lemma IsWord.rest_eq (hw : IsWord p w) : rest p w = [] := by
  have hall : w.dropWhile (fun a => !p a) = [] :=
    dropWhile_eq_nil_iff.mpr (by simpa using hw.separates)
  rw [rest, hw.trimmed.dropWhile_eq, hall]
  rfl

lemma word_cases (h : ∀ a ∈ l.head?, p a = false) :
    l = [] ∨ IsWord p l ∨ ∃ w s r, l = w ++ s :: r ∧ IsWord p w ∧ p s := by
  cases l with
  | nil => exact .inl rfl
  | cons a l =>
    right
    have hword : IsWord p ((a :: l).takeWhile fun a => !p a) := by
      refine ⟨?_, fun x hx => by simpa using mem_takeWhile_imp hx⟩
      rw [takeWhile_cons, if_pos (by simp [h a rfl])]
      exact cons_ne_nil _ _
    have hsplit := takeWhile_append_dropWhile (p := fun a => !p a) (l := a :: l)
    cases htail : (a :: l).dropWhile (fun a => !p a) with
    | nil => grind
    | cons s r =>
      have hs : p s := by
        have hnot := head?_dropWhile_not (fun a => !p a) (a :: l)
        grind
      grind

lemma Trimmed.cases (h : Trimmed p l) (hne : l ≠ []) :
    IsWord p l ∨ ∃ w s gap r, l = w ++ s :: (gap ++ r) ∧ IsWord p w ∧ p s ∧
      (∀ a ∈ gap, p a) ∧ Trimmed p r ∧ r ≠ [] := by
  rcases word_cases h.head with hnil | hword | ⟨w, s, tail, rfl, hw, hs⟩
  · exact absurd hnil hne
  · exact .inl hword
  · right
    have htail : tail.takeWhile p ++ tail.dropWhile p = tail := takeWhile_append_dropWhile
    -- the rest ends as the list does, so it is more than separators
    have hrest : tail.dropWhile p ≠ [] := by
      intro hnil
      have hall : ∀ a ∈ s :: tail, p a :=
        forall_mem_cons.mpr ⟨hs, dropWhile_eq_nil_iff.mp hnil⟩
      have hlast := h.last ((s :: tail).getLast (cons_ne_nil _ _)) (by
        rw [getLast?_append_of_ne_nil _ (cons_ne_nil _ _)]
        exact getLast?_eq_some_getLast _)
      grind
    refine ⟨w, s, tail.takeWhile p, tail.dropWhile p, by rw [htail], hw, hs,
      fun a ha => mem_takeWhile_imp ha, ⟨?_, ?_⟩, hrest⟩
    · intro a ha
      have hnot := head?_dropWhile_not p tail
      grind
    all_goals grind

lemma dropWhile_gap {gap : List α} (hgap : ∀ a ∈ gap, p a) (hr : Trimmed p r) :
    (gap ++ r).dropWhile p = r := by rw [dropWhile_append_of_pos hgap, hr.dropWhile_eq]

lemma Trimmed.isWord_first (h : Trimmed p l) (hne : l ≠ []) :
    IsWord p (first p l) := by grind [Trimmed.cases, IsWord.first_eq, first_append]

lemma Trimmed.rest (h : Trimmed p l) (hne : l ≠ []) : Trimmed p (rest p l) := by
  rcases h.cases hne with hword | ⟨w, s, gap, r, rfl, hw, hs, hgap, hr, -⟩
  all_goals grind [IsWord.rest_eq, rest_append, dropWhile_gap]

lemma Trimmed.first_snoc (h : Trimmed p l) (hne : l ≠ []) (hs : p s) :
    first p (l ++ s :: w) = first p l := by
  grind [Trimmed.cases, first_append, IsWord.first_eq]

lemma Trimmed.rest_snoc (h : Trimmed p l) (hne : l ≠ []) (hs : p s) (hw : IsWord p w) :
    Words.rest p (l ++ s :: w) =
      if Words.rest p l = [] then w else Words.rest p l ++ s :: w := by
  rcases h.cases hne with hword | ⟨v, t, gap, r, rfl, hv, ht, hgap, hr, hr'⟩
  · rw [rest_append hword hs, hword.rest_eq, if_pos rfl, hw.trimmed.dropWhile_eq]
  · have hend : Trimmed p (r ++ [s] ++ w) := hr.append hw.trimmed hr' hw.ne_nil [s]
    rw [rest_append hv ht, dropWhile_gap hgap hr, if_neg hr', append_assoc, cons_append,
      rest_append hv ht, append_assoc]
    rw [append_assoc, singleton_append] at hend
    exact dropWhile_gap hgap hend

lemma prefix_append_cases {k a b : List α} (h : k <+: a ++ b) :
    k <+: a ∨ ∃ m, k = a ++ m ∧ m <+: b := by
  obtain ⟨t, ht⟩ := h
  rcases append_eq_append_iff.mp ht with ⟨m, rfl, -⟩ | ⟨m, rfl, rfl⟩
  all_goals grind

lemma Trimmed.prefix_cases {k : List α} (h : Trimmed p l) (hne : l ≠ []) (hk : k <+: l) :
    k <+: first p l ∨ ∃ a ∈ k, p a := by
  rcases h.cases hne with hword | ⟨w, s, gap, r, rfl, hw, hs, -, -, -⟩
  · left
    rwa [hword.first_eq]
  · rw [first_append hw hs]
    rcases prefix_append_cases hk with hk | ⟨m, rfl, hm⟩
    · exact .inl hk
    · cases m with
      | nil => exact .inl (by rw [append_nil])
      | cons a m => grind

/-! ## The last word -/

lemma last_eq_first_reverse (l : List α) : last p l = (first p l.reverse).reverse := by
  simp only [last, first, rtakeWhile, rdropWhile, reverse_reverse]

lemma front_eq_rest_reverse (l : List α) : front p l = (rest p l.reverse).reverse := by
  simp only [front, rest, rdropWhile, reverse_reverse]

lemma IsWord.reverse (hw : IsWord p w) : IsWord p w.reverse where
  ne_nil := by simpa using hw.ne_nil
  separates a ha := hw.separates a (mem_reverse.mp ha)

lemma Trimmed.reverse (h : Trimmed p l) : Trimmed p l.reverse where
  head a ha := h.last a (by rwa [head?_reverse] at ha)
  last a ha := h.head a (by rwa [getLast?_reverse] at ha)

lemma reverse_append_cons (l w : List α) (s : α) :
    (l ++ s :: w).reverse = w.reverse ++ s :: l.reverse := by grind

lemma last_append (hs : p s) (hw : IsWord p w) : last p (l ++ s :: w) = w := by
  rw [last_eq_first_reverse, reverse_append_cons, first_append hw.reverse hs, reverse_reverse]

lemma front_append (hl : Trimmed p l) (hs : p s) (hw : IsWord p w) : front p (l ++ s :: w) = l := by
  rw [front_eq_rest_reverse, reverse_append_cons, rest_append hw.reverse hs,
    hl.reverse.dropWhile_eq, reverse_reverse]

lemma IsWord.last_eq (hw : IsWord p w) : last p w = w := by
  rw [last_eq_first_reverse, hw.reverse.first_eq, reverse_reverse]

lemma IsWord.front_eq (hw : IsWord p w) : front p w = [] := by
  rw [front_eq_rest_reverse, hw.reverse.rest_eq, reverse_nil]

lemma Trimmed.last_rest (h : Trimmed p l) (hne : l ≠ []) (hrest : Words.rest p l ≠ []) :
    Words.last p (Words.rest p l) = Words.last p l := by
  rcases h.cases hne with hword | ⟨w, s, gap, r, rfl, hw, hs, hgap, hr, hr'⟩
  · exact absurd hword.rest_eq hrest
  · -- from the right there is the rest, and then a separator
    obtain ⟨t, u, ht, htu⟩ : ∃ t u, p t ∧ gap.reverse ++ s :: w.reverse = t :: u := by
      cases hg : gap.reverse with
      | nil => exact ⟨s, w.reverse, hs, rfl⟩
      | cons t u => grind [mem_cons_self]
    rw [rest_append hw hs, dropWhile_gap hgap hr, last_eq_first_reverse, last_eq_first_reverse,
      reverse_append_cons, reverse_append, append_assoc, htu,
      hr.reverse.first_snoc (by simpa using hr') ht]

/-! ## All words -/

lemma IsWord.all_eq (hw : IsWord p w) : all p w = [w] := by
  grind [all, splitOnP_eq_singleton]

lemma all_append (hw : IsWord p w) (hs : p s) : all p (w ++ s :: r) = w :: all p r := by
  grind [all, splitOnP_append_cons_of_forall_mem]

end HeimdallDaq.Foundation.Words
