/-
  Tx/Duty.lean --- the duty meter.

  `DutyCycleMeter` keeps the bursts that were sent (or committed to a start time) and
  the reservations of issued permits.
-/
import HeimdallDaq.Foundation.Windows
import Mathlib.Data.Real.Basic
import Mathlib.Tactic.Positivity

namespace HeimdallDaq.Tx

open Foundation List

def absTol : ℚ := 1 / 10 ^ 12

def relTol : ℚ := 1 / 10 ^ 9

lemma absTol_pos : 0 < absTol := by norm_num [absTol]

/-- `DutyCycleMeter`; reservations are kept under keys of `κ`.  The constructor
refuses other windows and duties. -/
structure DutyCycleMeter (κ : Type) where
  windowS : ℚ
  dutyMax : ℚ
  window_pos : 0 < windowS
  duty_pos : 0 < dutyMax
  duty_le_one : dutyMax ≤ 1
  bursts : List (ℚ × ℚ) := []
  reserved : List (κ × (ℚ × ℚ)) := []

namespace DutyCycleMeter

variable {κ : Type} [DecidableEq κ] (m : DutyCycleMeter κ)

def intervals (exclude : Option κ) : List (ℚ × ℚ) :=
  m.bursts ++ (m.reserved.filter fun r => decide (some r.1 ≠ exclude)).map (·.2)

/-- The intervals that `max_busy` looks at: those near the proposed burst, and
the burst itself. -/
def near (start durS : ℚ) (exclude : Option κ) : List (ℚ × ℚ) :=
  ((m.intervals exclude).filter fun p =>
    decide (start - m.windowS < p.1 + p.2 ∧ p.1 < start + max 0 durS + m.windowS)) ++
  [(start, max 0 durS)]

def candidates (start durS : ℚ) (exclude : Option κ) : List ℚ :=
  let iv := m.near start durS exclude
  let e0 := start + max 0 durS
  (iv.map (·.1) ++ iv.map (fun p => p.1 + p.2) ++ iv.map (fun p => p.1 + m.windowS) ++
    iv.map (fun p => p.1 + p.2 + m.windowS) ++ [start, e0, e0 + m.windowS]).filter
  fun c => decide (start - absTol ≤ c ∧ c ≤ e0 + m.windowS + absTol)

def maxBusy (start durS : ℚ) (exclude : Option κ) : ℚ :=
  match m.candidates start durS exclude with
  | [] => max 0 durS
  | c :: cs =>
    cs.foldl (fun best c' => max best (busy m.windowS (m.near start durS exclude) c'))
      (busy m.windowS (m.near start durS exclude) c)

def limit : ℚ := m.dutyMax * m.windowS * (1 + relTol) + absTol

def wouldExceed (durS start : ℚ) (exclude : Option κ) : Bool :=
  decide (m.limit < m.maxBusy start durS exclude)

def release (key : κ) : DutyCycleMeter κ :=
  { m with reserved := m.reserved.filter fun r => decide (r.1 ≠ key) }

def reserve (key : κ) (startMono durS : ℚ) : DutyCycleMeter κ :=
  { m with reserved := (m.release key).reserved ++ [(key, (startMono, durS))] }

def releaseAll : DutyCycleMeter κ := { m with reserved := [] }

def prune (now : ℚ) : DutyCycleMeter κ :=
  { m with bursts := m.bursts.filter fun b => decide (now - m.windowS ≤ b.1 + b.2) }

def record (now startMono durS : ℚ) (key : κ) : DutyCycleMeter κ :=
  { m.release key with bursts := m.bursts ++ [(startMono, durS)] }.prune (min startMono now)

/-! ## Real windows -/

def real (l : List (ℚ × ℚ)) : List (ℝ × ℝ) := l.map fun p => ((p.1 : ℝ), (p.2 : ℝ))

lemma real_append (l l' : List (ℚ × ℚ)) : real (l ++ l') = real l ++ real l' := map_append

lemma overlap_cast (s d lo hi : ℚ) :
    overlap (s : ℝ) (d : ℝ) (lo : ℝ) (hi : ℝ) = ((overlap s d lo hi : ℚ) : ℝ) := by
  simp only [overlap]
  push_cast
  rfl

lemma busy_cast (w t : ℚ) (l : List (ℚ × ℚ)) :
    busy (w : ℝ) (real l) (t : ℝ) = ((busy w l t : ℚ) : ℝ) := by
  induction l with
  | nil => simp [real]
  | cons p l ih =>
    have hreal : real (p :: l) = ((p.1 : ℝ), (p.2 : ℝ)) :: real l := rfl
    rw [hreal, busy_cons, busy_cons, ih, Rat.cast_add, ← overlap_cast, Rat.cast_sub]

lemma breakpoints_cast (w : ℚ) (l : List (ℚ × ℚ)) :
    breakpoints (w : ℝ) (real l) = (breakpoints w l).map fun q : ℚ => (q : ℝ) := by
  induction l with
  | nil => rfl
  | cons p l ih =>
    have hreal : real (p :: l) = ((p.1 : ℝ), (p.2 : ℝ)) :: real l := rfl
    rw [hreal, breakpoints_cons, breakpoints_cons, ih]
    simp

variable {t : ℝ}

/-- A bound at the breakpoints of a range and at its two ends bounds every window
that ends in the range, also at an irrational time. -/
lemma busy_real_le {w a b B : ℚ} (hw : 0 < w) {l : List (ℚ × ℚ)} (hdur : ∀ p ∈ l, 0 ≤ p.2)
    (ha : busy w l a ≤ B) (hb : busy w l b ≤ B)
    (hbreak : ∀ q ∈ breakpoints w l, a ≤ q → q ≤ b → busy w l q ≤ B)
    (hlo : (a : ℝ) ≤ t) (hhi : t ≤ (b : ℝ)) : busy (w : ℝ) (real l) t ≤ (B : ℝ) := by
  have hcast : ∀ c : ℚ, busy w l c ≤ B → busy (w : ℝ) (real l) (c : ℝ) ≤ (B : ℝ) := by
    intro c hc
    rw [busy_cast]
    exact Rat.cast_le.mpr hc
  refine busy_le_of_breakpoints (Rat.cast_pos.mpr hw) ?_ (hcast a ha) (hcast b hb) ?_ hlo hhi
  · intro p hp
    obtain ⟨q, hq, rfl⟩ := mem_map.mp hp
    exact Rat.cast_nonneg.mpr (hdur q hq)
  · intro q hq hqlo hqhi
    rw [breakpoints_cast] at hq
    obtain ⟨c, hc, rfl⟩ := mem_map.mp hq
    exact hcast c (hbreak c hc (Rat.cast_le.mp hqlo) (Rat.cast_le.mp hqhi))

/-! ## The maximum over the candidates -/

omit [DecidableEq κ] in
lemma limit_pos : 0 < m.limit := by
  have hprod : 0 < m.dutyMax * m.windowS := mul_pos m.duty_pos m.window_pos
  have hfactor : 0 < m.dutyMax * m.windowS * (1 + relTol) :=
    mul_pos hprod (by norm_num [relTol])
  exact add_pos hfactor absTol_pos

lemma le_foldl_max {α : Type} (f : α → ℚ) : ∀ (l : List α) (b : ℚ),
      b ≤ l.foldl (fun best a => max best (f a)) b ∧
      ∀ a ∈ l, f a ≤ l.foldl (fun best a => max best (f a)) b := by
  intro l
  induction l with
  | nil => intro b; exact ⟨le_refl b, by simp⟩
  | cons a l ih =>
    intro b
    obtain ⟨hstart, helem⟩ := ih (max b (f a))
    refine ⟨(le_max_left b (f a)).trans hstart, ?_⟩
    intro a' ha'
    rcases mem_cons.mp ha' with rfl | ha'
    · exact (le_max_right b (f a')).trans hstart
    · exact helem a' ha'

lemma foldl_max_mem {α : Type} (f : α → ℚ) : ∀ (l : List α) (b : ℚ),
      l.foldl (fun best a => max best (f a)) b = b ∨
      ∃ a ∈ l, l.foldl (fun best a => max best (f a)) b = f a := by
  intro l
  induction l with
  | nil => intro b; exact .inl rfl
  | cons a l ih =>
    intro b
    rcases ih (max b (f a)) with h | ⟨a', ha', h⟩
    · rcases max_cases b (f a) with ⟨hmax, _⟩ | ⟨hmax, _⟩
      · exact .inl (h.trans hmax)
      · exact .inr ⟨a, mem_cons_self, h.trans hmax⟩
    · exact .inr ⟨a', mem_cons_of_mem a ha', h⟩

variable {start durS c : ℚ} {exclude : Option κ}

lemma busy_le_maxBusy_of_mem (hc : c ∈ m.candidates start durS exclude) :
    busy m.windowS (m.near start durS exclude) c ≤ m.maxBusy start durS exclude := by
  unfold maxBusy
  cases hcand : m.candidates start durS exclude with
  | nil => rw [hcand] at hc; simp at hc
  | cons c₀ cs =>
    rw [hcand] at hc
    obtain ⟨hstart, helem⟩ :=
      le_foldl_max (busy m.windowS (m.near start durS exclude)) cs
        (busy m.windowS (m.near start durS exclude) c₀)
    rcases mem_cons.mp hc with rfl | hc
    · exact hstart
    · exact helem c hc

lemma mem_candidates (hc : c = start ∨ c = start + max 0 durS + m.windowS ∨
      c ∈ breakpoints m.windowS (m.near start durS exclude))
    (hlo : start - absTol ≤ c) (hhi : c ≤ start + max 0 durS + m.windowS + absTol) :
    c ∈ m.candidates start durS exclude := by
  simp only [candidates, mem_filter, mem_append, decide_eq_true_eq]
  refine ⟨?_, hlo, hhi⟩
  rcases hc with rfl | rfl | hc
  · simp
  · simp
  · obtain ⟨p, hp, hcp⟩ := mem_flatMap.mp hc
    simp only [mem_cons, not_mem_nil, or_false] at hcp
    rcases hcp with rfl | rfl | rfl | rfl
    · exact .inl (.inl (.inl (.inl (mem_map_of_mem hp))))
    · exact .inl (.inl (.inl (.inr (mem_map_of_mem hp))))
    · exact .inl (.inl (.inr (mem_map_of_mem hp)))
    · exact .inl (.inr (mem_map_of_mem hp))

lemma start_mem_candidates (start durS : ℚ) (exclude : Option κ) :
    start ∈ m.candidates start durS exclude := by
  have hw := m.window_pos
  have hd := le_max_left 0 durS
  have htol := absTol_pos
  exact m.mem_candidates (.inl rfl) (by linarith) (by linarith)

lemma exists_maxBusy_eq (start durS : ℚ) (exclude : Option κ) :
    ∃ c ∈ m.candidates start durS exclude,
      m.maxBusy start durS exclude = busy m.windowS (m.near start durS exclude) c := by
  unfold maxBusy
  have hstart := m.start_mem_candidates start durS exclude
  cases hcand : m.candidates start durS exclude with
  | nil => rw [hcand] at hstart; simp at hstart
  | cons c₀ cs =>
    rcases foldl_max_mem (busy m.windowS (m.near start durS exclude)) cs
        (busy m.windowS (m.near start durS exclude) c₀) with h | ⟨c, hc, h⟩
    · exact ⟨c₀, mem_cons_self, h⟩
    · exact ⟨c, mem_cons_of_mem c₀ hc, h⟩

/-- The busy time that `max_busy` is about: everything recorded and reserved, and
the proposed burst. -/
def proposed (start durS : ℚ) (exclude : Option κ) : List (ℚ × ℚ) :=
  m.intervals exclude ++ [(start, max 0 durS)]

lemma busy_near (hlo : (start : ℝ) ≤ t) (hhi : t ≤ (start + max 0 durS + m.windowS : ℚ)) :
    busy (m.windowS : ℝ) (real (m.near start durS exclude)) t =
      busy (m.windowS : ℝ) (real (m.proposed start durS exclude)) t := by
  rw [near, proposed, real_append, real_append, busy_append, busy_append]
  congr 1
  refine busy_map_filter fun p _ hkeep => ?_
  rw [decide_eq_false_iff_not, not_and_or, not_lt, not_lt] at hkeep
  rcases hkeep with hkeep | hkeep
  · have hcast : ((p.1 + p.2 : ℚ) : ℝ) ≤ ((start - m.windowS : ℚ) : ℝ) := Rat.cast_le.mpr hkeep
    push_cast at hcast
    exact overlap_eq_zero_of_le (by linarith)
  · have hcast : ((start + max 0 durS + m.windowS : ℚ) : ℝ) ≤ (p.1 : ℝ) := Rat.cast_le.mpr hkeep
    exact overlap_eq_zero_of_ge (hhi.trans hcast)

lemma busy_le_maxBusy (hdur : ∀ p ∈ m.intervals exclude, 0 ≤ p.2) (hlo : (start : ℝ) ≤ t)
    (hhi : t ≤ (start + max 0 durS + m.windowS : ℚ)) :
    busy (m.windowS : ℝ) (real (m.proposed start durS exclude)) t ≤
      (m.maxBusy start durS exclude : ℝ) := by
  rw [← m.busy_near hlo hhi]
  have hw := m.window_pos
  have hd := le_max_left 0 durS
  have htol := absTol_pos
  refine busy_real_le hw ?_ (m.busy_le_maxBusy_of_mem (m.start_mem_candidates start durS exclude))
    (m.busy_le_maxBusy_of_mem ?_) (fun c hc hclo hchi => m.busy_le_maxBusy_of_mem ?_) hlo hhi
  · intro p hp
    rcases mem_append.mp hp with hp | hp
    · exact hdur p (mem_filter.mp hp).1
    · rw [mem_singleton.mp hp]
      exact hd
  · exact m.mem_candidates (.inr (.inl rfl)) (by linarith) (by linarith)
  · exact m.mem_candidates (.inr (.inr hc)) (by linarith) (by linarith)

lemma exists_maxBusy_le (start durS : ℚ) (exclude : Option κ) :
    ∃ c : ℚ, start - absTol ≤ c ∧ c ≤ start + max 0 durS + m.windowS + absTol ∧
      m.maxBusy start durS exclude ≤ busy m.windowS (m.proposed start durS exclude) c := by
  obtain ⟨c, hc, hmax⟩ := m.exists_maxBusy_eq start durS exclude
  have hrange := (mem_filter.mp hc).2
  rw [decide_eq_true_eq] at hrange
  refine ⟨c, hrange.1, hrange.2, ?_⟩
  rw [hmax]
  exact busy_le_of_sublist (.append filter_sublist (.refl _))

/-- `max_busy` is at least the busy time of every window that overlaps the proposed
burst, and at most that of some window that ends no more than `1e-12` outside
their range. -/
def Bracketed : Prop :=
  ∀ (start durS : ℚ) (exclude : Option κ),
    (∀ t : ℝ, (start : ℝ) ≤ t → t ≤ (start + max 0 durS + m.windowS : ℚ) →
      busy (m.windowS : ℝ) (real (m.proposed start durS exclude)) t ≤
        (m.maxBusy start durS exclude : ℝ)) ∧
    ∃ c : ℚ, start - absTol ≤ c ∧ c ≤ start + max 0 durS + m.windowS + absTol ∧
      m.maxBusy start durS exclude ≤ busy m.windowS (m.proposed start durS exclude) c

lemma bracketed_of_nonneg (hdur : ∀ exclude, ∀ p ∈ m.intervals exclude, 0 ≤ p.2) : m.Bracketed :=
  fun start durS exclude => ⟨fun _ hlo hhi => m.busy_le_maxBusy (hdur exclude) hlo hhi,
    m.exists_maxBusy_le start durS exclude⟩

end DutyCycleMeter

end HeimdallDaq.Tx
