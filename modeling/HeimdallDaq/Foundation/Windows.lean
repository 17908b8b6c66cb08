/-
  Foundation/Windows.lean --- busy time in a sliding window.

  The busy time of the window `[t - w, t]` over finitely many intervals is a piecewise
  linear function of `t`.
-/
import Mathlib.Algebra.Order.Field.Basic
import Mathlib.Algebra.Order.BigOperators.Group.List
import Mathlib.Data.Finset.Max
import Mathlib.Tactic.Linarith
import Mathlib.Tactic.Ring

namespace HeimdallDaq.Foundation

open Finset

variable {K : Type} [Field K] [LinearOrder K]

@[local grind]
def overlap (s d lo hi : K) : K := max 0 (min (s + d) hi - max s lo)

@[local grind]
def busy (w : K) (intervals : List (K × K)) (t : K) : K :=
  (intervals.map fun p => overlap p.1 p.2 (t - w) t).sum

def breakpoints (w : K) (intervals : List (K × K)) : List K :=
  intervals.flatMap fun p => [p.1, p.1 + p.2, p.1 + w, p.1 + p.2 + w]

omit [LinearOrder K] in
lemma breakpoints_cons (w : K) (p : K × K) (rest : List (K × K)) : breakpoints w (p :: rest) =
      [p.1, p.1 + p.2, p.1 + w, p.1 + p.2 + w] ++ breakpoints w rest := by simp [breakpoints]

@[simp] lemma busy_nil (w t : K) : busy w [] t = 0 := rfl

@[simp] lemma busy_cons (w t : K) (p : K × K) (rest : List (K × K)) :
    busy w (p :: rest) t = overlap p.1 p.2 (t - w) t + busy w rest t := by simp [busy]

lemma busy_append (w t : K) (first second : List (K × K)) :
    busy w (first ++ second) t = busy w first t + busy w second t := by simp [busy]

variable {w t : K} {first second : List (K × K)}

lemma busy_perm (h : first.Perm second) : busy w first t = busy w second t := (h.map _).sum_eq

lemma busy_map_filter {α : Type} {f : α → K × K} {items : List α} {keep : α → Bool}
    (hdrop : ∀ a ∈ items, keep a = false → overlap (f a).1 (f a).2 (t - w) t = 0) :
    busy w ((items.filter keep).map f) t = busy w (items.map f) t := by
  induction items with
  | nil => rfl
  | cons a rest ih => grind

variable {intervals : List (K × K)}

lemma busy_eq_zero
    (h : ∀ p ∈ intervals, overlap p.1 p.2 (t - w) t = 0) : busy w intervals t = 0 := by
  induction intervals with
  | nil => rfl
  | cons p rest ih => grind

/-! ## Linear pieces -/

def AffineOn (f : K → K) (l r : K) : Prop := ∃ m c, ∀ t, l ≤ t → t ≤ r → f t = m * t + c

lemma AffineOn.add {f g : K → K} {l r : K} (hf : AffineOn f l r) (hg : AffineOn g l r) :
    AffineOn (fun t => f t + g t) l r := by
  obtain ⟨m, c, hf⟩ := hf
  obtain ⟨m', c', hg⟩ := hg
  refine ⟨m + m', c + c', ?_⟩
  grind

variable [IsStrictOrderedRing K]

lemma overlap_eq_zero_of_le {s d lo hi : K} (h : s + d ≤ lo) : overlap s d lo hi = 0 := by grind

lemma overlap_eq_zero_of_ge {s d lo hi : K} (h : hi ≤ s) : overlap s d lo hi = 0 := by grind

lemma busy_le_of_sublist (h : first.Sublist second) : busy w first t ≤ busy w second t := by
  induction h with
  | slnil => exact le_refl _
  | cons p _ ih => grind
  | cons_cons p _ ih =>
    rw [busy_cons, busy_cons]
    linarith

lemma AffineOn.le {f : K → K} {l r B : K} (h : AffineOn f l r) (hl : f l ≤ B) (hr : f r ≤ B)
    {t : K} (hlt : l ≤ t) (htr : t ≤ r) : f t ≤ B := by
  obtain ⟨m, c, hf⟩ := h
  have hlr : l ≤ r := hlt.trans htr
  rw [hf l le_rfl hlr] at hl
  rw [hf r hlr le_rfl] at hr
  rw [hf t hlt htr]
  rcases le_total 0 m with hm | hm
  · linarith [mul_le_mul_of_nonneg_left htr hm]
  · linarith [mul_le_mul_of_nonpos_left hlt hm]

lemma overlap_affineOn {w s d l r : K} (hw : 0 < w) (hd : 0 ≤ d)
    (hs : r ≤ s ∨ s ≤ l) (he : r ≤ s + d ∨ s + d ≤ l)
    (hsw : r ≤ s + w ∨ s + w ≤ l) (hew : r ≤ s + d + w ∨ s + d + w ≤ l) :
    AffineOn (fun t => overlap s d (t - w) t) l r := by
  rcases hs with hs | hs
  · -- the window has not reached the interval
    refine ⟨0, 0, ?_⟩
    grind
  rcases hew with hew | hew
  swap
  · -- the window has left the interval
    refine ⟨0, 0, ?_⟩
    grind
  rcases he with he | he <;> rcases hsw with hsw | hsw
  · refine ⟨1, -s, ?_⟩
    grind
  · refine ⟨0, w, ?_⟩
    grind
  · refine ⟨0, d, ?_⟩
    grind
  · refine ⟨-1, s + d + w, ?_⟩
    grind

lemma busy_affineOn {w l r : K} (hw : 0 < w) :
    ∀ intervals : List (K × K), (∀ p ∈ intervals, 0 ≤ p.2) →
      (∀ q ∈ breakpoints w intervals, r ≤ q ∨ q ≤ l) → AffineOn (busy w intervals) l r := by
  intro intervals
  induction intervals with
  | nil => intro _ _; exact ⟨0, 0, fun t _ _ => by simp⟩
  | cons p rest ih =>
    intro hdur hbreak
    rw [breakpoints_cons] at hbreak
    have hmem : ∀ q ∈ [p.1, p.1 + p.2, p.1 + w, p.1 + p.2 + w], r ≤ q ∨ q ≤ l :=
      fun q hq => hbreak q (List.mem_append_left _ hq)
    have hhead : AffineOn (fun t => overlap p.1 p.2 (t - w) t) l r :=
      overlap_affineOn hw (hdur p List.mem_cons_self) (hmem _ (by simp)) (hmem _ (by simp))
        (hmem _ (by simp)) (hmem _ (by simp))
    have hrest := ih (fun q hq => hdur q (List.mem_cons_of_mem p hq))
      (fun q hq => hbreak q (List.mem_append_right _ hq))
    obtain ⟨m, c, hsum⟩ := hhead.add hrest
    refine ⟨m, c, ?_⟩
    intro t hl hr
    rw [busy_cons]
    exact hsum t hl hr

/-- A bound at the ends of a range and at the breakpoints inside it bounds every
window that ends in the range. -/
lemma busy_le_of_breakpoints {w a b B : K} (hw : 0 < w)
    (hdur : ∀ p ∈ intervals, 0 ≤ p.2) (ha : busy w intervals a ≤ B) (hb : busy w intervals b ≤ B)
    (hbreak : ∀ q ∈ breakpoints w intervals, a ≤ q → q ≤ b → busy w intervals q ≤ B)
    {t : K} (hat : a ≤ t) (htb : t ≤ b) : busy w intervals t ≤ B := by
  -- the linear piece around `t` runs between neighbouring marks
  let marks : Finset K :=
    (insert a (insert b (breakpoints w intervals).toFinset)).filter fun q => a ≤ q ∧ q ≤ b
  have hbound : ∀ q ∈ marks, busy w intervals q ≤ B := by
    intro q hq
    simp only [marks, mem_filter, mem_insert, List.mem_toFinset] at hq
    rcases hq with ⟨rfl | rfl | hq, hlo, hhi⟩
    · exact ha
    · exact hb
    · exact hbreak q hq hlo hhi
  have hab : a ≤ b := hat.trans htb
  have hbelow : (marks.filter (· ≤ t)).Nonempty :=
    ⟨a, by simp [marks, hab, hat]⟩
  have habove : (marks.filter (t ≤ ·)).Nonempty :=
    ⟨b, by simp [marks, hab, htb]⟩
  obtain ⟨l, hl, hlmax⟩ := exists_max_image _ id hbelow
  obtain ⟨r, hr, hrmin⟩ := exists_min_image _ id habove
  rw [mem_filter] at hl hr
  refine (busy_affineOn hw intervals hdur ?_).le (hbound l hl.1) (hbound r hr.1) hl.2 hr.2
  intro q hq
  by_contra hinside
  rw [not_or, not_le, not_le] at hinside
  have hlr : a ≤ l ∧ r ≤ b := by
    have h1 := hl.1
    have h2 := hr.1
    simp only [marks, mem_filter] at h1 h2
    exact ⟨h1.2.1, h2.2.2⟩
  have hmark : q ∈ marks := by
    simp only [marks, mem_filter, mem_insert, List.mem_toFinset]
    exact ⟨Or.inr (Or.inr hq), hlr.1.trans hinside.2.le, hinside.1.le.trans hlr.2⟩
  rcases le_total q t with hqt | hqt
  · have := hlmax q (mem_filter.mpr ⟨hmark, hqt⟩)
    exact absurd this (not_le.mpr hinside.2)
  · have := hrmin q (mem_filter.mpr ⟨hmark, hqt⟩)
    exact absurd this (not_le.mpr hinside.1)

end HeimdallDaq.Foundation
