/-
  Federation/Aligner.lean --- the alignment of the sources of the IQ router.

  Every source has a FIFO.
-/
import HeimdallDaq.Foundation.Runs
import Mathlib.Algebra.Order.BigOperators.Group.List
import Mathlib.Data.List.MinMax
import Mathlib.Data.List.Nodup
import Mathlib.Data.List.TakeWhile
import Mathlib.Data.Prod.Lex
import Mathlib.Data.String.Basic
import Mathlib.Tactic.Linarith

namespace HeimdallDaq.Federation.IqRouter

open Foundation List Function

-- found first, so that the order of the time stamps is computable
local instance (priority := 10000) stampOrder : PartialOrder ℤ := Int.instLinearOrder.toPartialOrder

/-- `_Frame`: its time stamp and what is sent. -/
structure Frame (φ : Type) where
  ts : ℤ
  body : φ
  deriving DecidableEq

/-- A frame handed to `_forward_frame`, or to `push`, and whether it was counted as late. -/
structure Logged (σ φ : Type) where
  source : σ
  frame : Frame φ
  late : Bool
  deriving DecidableEq

/-- `window_sec` and `max_frames`; the command line takes no less than one frame. -/
structure AlignConfig where
  windowSec : ℚ
  maxFrames : ℕ
  maxFrames_pos : 0 < maxFrames

/-- `_Aligner`: `order` has the sources of `fifos` as they were first pushed.  The clock and the
two logs are kept for the statements. -/
structure Aligner (σ φ : Type) where
  order : List σ := []
  fifos : σ → List (Frame φ × ℚ) := fun _ => []
  maxSeen : σ → Option ℤ := fun _ => none
  lastReleasedTs : Option ℤ := none
  lateFrames : ℕ := 0
  forcedReleases : ℕ := 0
  clock : ℚ := 0
  pushed : List (Logged σ φ) := []
  forwarded : List (Logged σ φ) := []

structure Sources (σ : Type) where
  streaming : List σ
  key : σ → String

namespace Aligner

variable {σ φ : Type} [DecidableEq σ] (a : Aligner σ φ)

def heldFrames : ℕ := (a.order.map fun s => (a.fifos s).length).sum

variable (s : σ)

def headTs : Option ℤ := (a.fifos s).head?.map (·.1.ts)

/-- The time up to which every streaming source has been seen: infinite without any, and minus
infinite as long as one has sent nothing. -/
def watermark (streaming : List σ) : WithBot (WithTop ℤ) :=
  streaming.foldr (fun s t => min t ((a.maxSeen s).elim ⊥ fun v => ((v : WithTop ℤ) : WithBot _)))
    ((⊤ : WithTop ℤ) : WithBot _)

variable (cfg : AlignConfig)

def expired (now : ℚ) (q : List (Frame φ × ℚ)) : List ℤ :=
  (q.takeWhile fun p => decide (cfg.windowSec ≤ now - p.2)).map (·.1.ts)

def threshold (a : Aligner σ φ) (streaming : List σ) (now : ℚ)
    (forcedTs : Option ℤ) : WithBot (WithTop ℤ) :=
  (forcedTs.toList ++ a.order.flatMap fun s => expired cfg now (a.fifos s)).foldr
    (fun ts t => max t ((ts : WithTop ℤ) : WithBot _)) (a.watermark streaming)

def due (t : WithBot (WithTop ℤ)) (s : σ) : Bool :=
  match a.headTs s with
  | none => false
  | some ts => decide (((ts : WithTop ℤ) : WithBot _) ≤ t)

def best (t : WithBot (WithTop ℤ)) (key : σ → String) : Option σ :=
  (a.order.filter (a.due t)).argmin fun s => toLex ((a.headTs s).getD 0, key s)

def pop : Aligner σ φ :=
  match a.fifos s with
  | [] => a
  | (frame, _) :: rest =>
    { a with
      fifos := Function.update a.fifos s rest
      lastReleasedTs := some (a.lastReleasedTs.elim frame.ts fun t => max t frame.ts)
      forwarded := a.forwarded ++ [⟨s, frame, false⟩] }

def drain (t : WithBot (WithTop ℤ)) (key : σ → String) : ℕ → Aligner σ φ → Aligner σ φ
  | 0, a => a
  | n + 1, a =>
    match a.best t key with
    | none => a
    | some s => drain t key n (a.pop s)

def release (src : Sources σ) (now : ℚ) (forcedTs : Option ℤ) (a : Aligner σ φ) : Aligner σ φ :=
  drain (a.threshold cfg src.streaming now forcedTs) src.key a.heldFrames a

def isLate (frame : Frame φ) : Bool := a.lastReleasedTs.any fun t => decide (frame.ts < t)

variable (first second : Sources σ)

def makeRoom (now : ℚ) (s : σ) (a : Aligner σ φ) : Aligner σ φ :=
  let a := if cfg.maxFrames ≤ (a.fifos s).length then a.release cfg first now none else a
  match a.fifos s with
  | [] => a
  | head :: rest =>
    if cfg.maxFrames ≤ (head :: rest).length then
      { a with forcedReleases := a.forcedReleases + 1 }.release cfg second now (some head.1.ts)
    else a

def see (frame : Frame φ) : Aligner σ φ :=
  { a with
    maxSeen := Function.update a.maxSeen s
      (some ((a.maxSeen s).elim frame.ts fun t => max t frame.ts)) }

def late (frame : Frame φ) : Aligner σ φ :=
  { a with
    lateFrames := a.lateFrames + 1
    pushed := a.pushed ++ [⟨s, frame, true⟩]
    forwarded := a.forwarded ++ [⟨s, frame, true⟩] }

def setDefault : Aligner σ φ := { a with order := if s ∈ a.order then a.order else a.order ++ [s] }

def append (frame : Frame φ) (now : ℚ) : Aligner σ φ :=
  { a with
    fifos := Function.update a.fifos s (a.fifos s ++ [(frame, now)])
    pushed := a.pushed ++ [⟨s, frame, false⟩] }

def ready (now : ℚ) (s : σ) (frame : Frame φ) (a : Aligner σ φ) : Aligner σ φ :=
  ((a.see s frame).setDefault s).makeRoom cfg first second now s

def push (first second third : Sources σ) (now : ℚ) (s : σ) (frame : Frame φ)
    (a : Aligner σ φ) : Aligner σ φ :=
  if a.isLate frame then (a.see s frame).late s frame
  else ((a.ready cfg first second now s frame).append s frame now).release cfg third now none

end Aligner

/-- The calls, with the time that passed before each, and the sources as each release pass finds
them. -/
inductive AlignOp (σ φ : Type)
  | push (dt : ℚ≥0) (s : σ) (frame : Frame φ) (first second third : Sources σ)
  | release (dt : ℚ≥0) (src : Sources σ)

namespace Aligner

variable {σ φ : Type} [DecidableEq σ]

def wait (a : Aligner σ φ) (dt : ℚ≥0) : Aligner σ φ := { a with clock := a.clock + dt }

variable (cfg : AlignConfig)

def step (a : Aligner σ φ) : AlignOp σ φ → Aligner σ φ
  | .push dt s frame first second third =>
    (a.wait dt).push cfg first second third (a.wait dt).clock s frame
  | .release dt src => (a.wait dt).release cfg src (a.wait dt).clock none

/-! ## A release pass -/

variable {s : σ}

lemma sum_update {l : List σ} (hnodup : l.Nodup) (hs : s ∈ l) (f : σ → ℕ) (n : ℕ) :
    (l.map (Function.update f s n)).sum + f s = (l.map f).sum + n := by
  induction l with
  | nil => cases hs
  | cons x l ih =>
    grind [map_congr_left]

variable {a : Aligner σ φ} {t : WithBot (WithTop ℤ)} {key : σ → String}

omit [DecidableEq σ] in
lemma best_some (h : a.best t key = some s) :
    s ∈ a.order ∧ ∃ frame enq rest, a.fifos s = (frame, enq) :: rest ∧
      ((frame.ts : WithTop ℤ) : WithBot _) ≤ t ∧
      ∀ s' ∈ a.order, a.due t s' → ∀ ts, a.headTs s' = some ts → frame.ts ≤ ts := by
  have hmem := mem_filter.mp (argmin_mem h)
  refine ⟨hmem.1, ?_⟩
  have hdue := hmem.2
  unfold due headTs at hdue
  cases hfifo : a.fifos s with
  | nil => simp [hfifo] at hdue
  | cons p rest =>
    simp only [hfifo, head?_cons, Option.map_some, decide_eq_true_eq] at hdue
    refine ⟨p.1, p.2, rest, rfl, hdue, fun s' hs' hdue' ts hts => ?_⟩
    have hle := le_of_mem_argmin (mem_filter.mpr ⟨hs', hdue'⟩) h
    grind [headTs, Prod.Lex.toLex_le_toLex]

omit [DecidableEq σ] in
lemma best_none (h : a.best t key = none) : ∀ s ∈ a.order, a.due t s = false := by
  intro s hs
  have hnil := argmin_eq_none.mp h
  rw [filter_eq_nil_iff] at hnil
  simpa using hnil s hs

variable (log : List (Logged σ φ))

def ofSource (s : σ) : List (Frame φ) :=
  (log.filter fun x => decide (x.source = s) && !x.late).map (·.frame)

/-- What a release pass does: it takes frames from the front of the FIFOs and forwards them. -/
structure Drained (a b : Aligner σ φ) : Prop where
  order : b.order = a.order
  maxSeen : b.maxSeen = a.maxSeen
  clock : b.clock = a.clock
  pushed : b.pushed = a.pushed
  lateFrames : b.lateFrames = a.lateFrames
  late : b.forwarded.filter (·.late) = a.forwarded.filter (·.late)
  moved : ∀ s, ∃ popped, a.fifos s = popped ++ b.fifos s ∧
    ofSource b.forwarded s = ofSource a.forwarded s ++ popped.map Prod.fst
  count : a.order.Nodup → b.forwarded.length + b.heldFrames = a.forwarded.length + a.heldFrames

lemma Drained.refl (a : Aligner σ φ) : Drained a a :=
  ⟨rfl, rfl, rfl, rfl, rfl, rfl, fun _ => ⟨[], by simp⟩, fun _ => rfl⟩

lemma Drained.trans {a b c : Aligner σ φ} (h : Drained a b) (h' : Drained b c) : Drained a c where
  order := h'.order.trans h.order
  maxSeen := h'.maxSeen.trans h.maxSeen
  clock := h'.clock.trans h.clock
  pushed := h'.pushed.trans h.pushed
  lateFrames := h'.lateFrames.trans h.lateFrames
  late := h'.late.trans h.late
  moved s := by
    obtain ⟨popped, hfifo, hlog⟩ := h.moved s
    obtain ⟨popped', hfifo', hlog'⟩ := h'.moved s
    refine ⟨popped ++ popped', by rw [hfifo, hfifo', append_assoc], ?_⟩
    rw [hlog', hlog, map_append, append_assoc]
  count hnodup := (h'.count (h.order ▸ hnodup)).trans (h.count hnodup)

lemma drained_pop (hs : s ∈ a.order) {frame : Frame φ} {enq : ℚ}
    {rest : List (Frame φ × ℚ)} (hfifo : a.fifos s = (frame, enq) :: rest) :
    Drained a (a.pop s) := by
  have hpop : a.pop s = { a with
      fifos := update a.fifos s rest
      lastReleasedTs := some (a.lastReleasedTs.elim frame.ts fun t => max t frame.ts)
      forwarded := a.forwarded ++ [⟨s, frame, false⟩] } := by
    rw [pop, hfifo]
  rw [hpop]
  refine ⟨rfl, rfl, rfl, rfl, rfl, by simp, fun s' => ?_, fun hnodup => ?_⟩
  · by_cases heq : s' = s
    · subst heq
      exact ⟨[(frame, enq)], by simp [hfifo], by simp [ofSource]⟩
    · exact ⟨[], by simp [update_of_ne heq], by simp [ofSource, Ne.symm heq]⟩
  · have hsum := sum_update hnodup hs (fun s => (a.fifos s).length) rest.length
    have hupdate : (fun x => (update a.fifos s rest x).length) =
        update (fun s => (a.fifos s).length) s rest.length := by
      funext x
      by_cases heq : x = s
      · subst heq; simp
      · simp [heq]
    simp only [heldFrames, hupdate, length_append, length_singleton]
    rw [hfifo, length_cons] at hsum
    omega

lemma drain_induction {P : Aligner σ φ → Prop}
    (hpop : ∀ a s, a.best t key = some s → P a → P (a.pop s)) :
    ∀ n a, P a → P (drain t key n a) := by
  intro n
  induction n with
  | zero => exact fun a h => h
  | succ n ih =>
    intro a h
    rw [drain]
    split
    · exact h
    next s hs => exact ih _ (hpop a s hs h)

variable (t : WithBot (WithTop ℤ)) (key : σ → String)

lemma drained_drain (n : ℕ) (a : Aligner σ φ) : Drained a (drain t key n a) := by
  refine drain_induction (fun b s hbest h => h.trans ?_) n a (.refl a)
  obtain ⟨hs, frame, enq, rest, hfifo, -⟩ := best_some hbest
  exact drained_pop hs hfifo

lemma drain_complete : ∀ n (a : Aligner σ φ), a.order.Nodup → a.heldFrames ≤ n →
      ∀ s ∈ a.order, (drain t key n a).due t s = false := by
  intro n
  induction n with
  | zero =>
    intro a _ hheld s hs
    have hlength : (a.fifos s).length = 0 :=
      Nat.le_zero.mp ((single_le_sum (by simp) _ (mem_map_of_mem hs)).trans hheld)
    simp [drain, due, headTs, length_eq_zero_iff.mp hlength]
  | succ n ih =>
    intro a hnodup hheld s hs
    rw [drain]
    split
    next hnone => exact best_none hnone s hs
    next s' hsome =>
      obtain ⟨hs', frame, enq, rest, hfifo, -⟩ := best_some hsome
      have hpop := drained_pop hs' hfifo
      have hcount := hpop.count hnodup
      have hlonger : (a.pop s').forwarded.length = a.forwarded.length + 1 := by simp [pop, hfifo]
      exact ih _ (hpop.order ▸ hnodup) (by omega) s (hpop.order ▸ hs)

/-! ## What is held -/

/-- Every frame is where it should be, in the order in which it came. -/
@[local grind]
structure Flowing (cfg : AlignConfig) (a : Aligner σ φ) : Prop where
  nodup : a.order.Nodup
  outside : ∀ s, s ∉ a.order → a.fifos s = []
  flow : ∀ s, ofSource a.pushed s = ofSource a.forwarded s ++ (a.fifos s).map Prod.fst
  late : a.pushed.filter (·.late) = a.forwarded.filter (·.late)
  lateFrames : a.lateFrames = (a.forwarded.filter (·.late)).length
  count : a.pushed.length = a.forwarded.length + a.heldFrames
  times : ∀ s, (a.fifos s).Pairwise fun p q => p.2 ≤ q.2
  past : ∀ s, ∀ p ∈ a.fifos s, p.2 ≤ a.clock
  bounded : ∀ s, (a.fifos s).length ≤ cfg.maxFrames

section

variable {cfg : AlignConfig} {b : Aligner σ φ}

lemma Drained.fifos_suffix (h : Drained a b) (s : σ) : b.fifos s <:+ a.fifos s :=
  let ⟨popped, hfifo, _⟩ := h.moved s
  ⟨popped, hfifo.symm⟩

lemma Flowing.drained (h : Flowing cfg a) (hd : Drained a b) : Flowing cfg b where
  nodup := hd.order ▸ h.nodup
  outside s hs := suffix_nil.mp (h.outside s (hd.order ▸ hs) ▸ hd.fifos_suffix s)
  flow s := by
    obtain ⟨popped, hfifo, hlog⟩ := hd.moved s
    rw [hd.pushed, h.flow, hlog, hfifo, map_append, append_assoc]
  late := by rw [hd.pushed, hd.late, h.late]
  lateFrames := by rw [hd.lateFrames, hd.late, h.lateFrames]
  count := by
    have := hd.count h.nodup
    rw [hd.pushed, h.count]
    omega
  times s := (h.times s).sublist (hd.fifos_suffix s).sublist
  past s p hp := hd.clock ▸ h.past s p ((hd.fifos_suffix s).subset hp)
  bounded s := (hd.fifos_suffix s).length_le.trans (h.bounded s)

lemma drained_release (cfg : AlignConfig) (src : Sources σ) (now : ℚ) (forcedTs : Option ℤ)
    (a : Aligner σ φ) : Drained a (a.release cfg src now forcedTs) := drained_drain ..

variable {now : ℚ} {forcedTs : Option ℤ}

omit [DecidableEq σ] in
lemma le_threshold {cfg : AlignConfig} {streaming : List σ} {ts : ℤ}
    (h : ts ∈ forcedTs.toList ++ a.order.flatMap fun s => expired cfg now (a.fifos s)) :
    ((ts : WithTop ℤ) : WithBot (WithTop ℤ)) ≤ a.threshold cfg streaming now forcedTs := by
  unfold threshold
  generalize forcedTs.toList ++ _ = l at h
  induction l with
  | nil => cases h
  | cons x l ih =>
    rcases mem_cons.mp h with rfl | h
    · exact le_max_right _ _
    · exact (ih h).trans (le_max_left _ _)

variable {p : Frame φ × ℚ} {rest : List (Frame φ × ℚ)}

lemma Flowing.lt_of_head (h : Flowing cfg a) {src : Sources σ}
    (hfifo : (a.release cfg src now forcedTs).fifos s = p :: rest) :
    p.1.ts ∉ forcedTs.toList ++ a.order.flatMap fun s => expired cfg now (a.fifos s) := by
  intro hmem
  have hs : s ∈ a.order := by
    by_contra hs
    have hsuffix := (drained_release cfg src now forcedTs a).fifos_suffix s
    rw [h.outside s hs, hfifo] at hsuffix
    exact absurd (suffix_nil.mp hsuffix) (by simp)
  have hdue := drain_complete (a.threshold cfg src.streaming now forcedTs) src.key _ a h.nodup
    le_rfl s hs
  rw [← release, due, headTs, hfifo] at hdue
  simp only [head?_cons, Option.map_some, decide_eq_false_iff_not] at hdue
  exact hdue (le_threshold hmem)

lemma Flowing.release_expired (h : Flowing cfg a) (src : Sources σ) (now : ℚ)
    (forcedTs : Option ℤ) (s : σ) :
    ∀ p ∈ (a.release cfg src now forcedTs).fifos s, now - p.2 < cfg.windowSec := by
  have hd := drained_release cfg src now forcedTs a
  intro p hp
  by_contra hold
  obtain ⟨popped, hfifo, -⟩ := hd.moved s
  obtain ⟨q, rest, hq⟩ := exists_cons_of_ne_nil (ne_nil_of_mem hp)
  -- the head has waited at least as long, and so has all that came before it
  have htimes := h.times s
  have hs : s ∈ a.order := by
    by_contra hs
    rw [h.outside s hs, hq] at hfifo
    simp at hfifo
  rw [hfifo, hq, pairwise_append] at htimes
  have hqp : q.2 ≤ p.2 := by grind [pairwise_cons.mp]
  refine h.lt_of_head hq (mem_append_right _ (mem_flatMap.mpr ⟨s, hs, ?_⟩))
  have hlead : (popped ++ [q]).takeWhile (fun p => decide (cfg.windowSec ≤ now - p.2)) =
      popped ++ [q] := by
    refine takeWhile_eq_self_iff.mpr fun r hr => decide_eq_true ?_
    have hrq : r.2 ≤ q.2 := by grind
    linarith
  rw [expired, hfifo, hq, append_cons, takeWhile_append, hlead, if_pos rfl]
  exact mem_map_of_mem (by simp)

lemma Flowing.length_forced (h : Flowing cfg a) (src : Sources σ) (now : ℚ)
    (hfifo : a.fifos s = p :: rest) :
    ((a.release cfg src now (some p.1.ts)).fifos s).length ≤ rest.length := by
  obtain ⟨popped, hmoved, -⟩ := (drained_release cfg src now (some p.1.ts) a).moved s
  cases popped with
  | nil => exact absurd (by simp) (h.lt_of_head (hmoved.symm.trans hfifo))
  | cons q popped => grind

lemma Flowing.makeRoom (h : Flowing cfg a) (first second : Sources σ) (now : ℚ) (s : σ) :
    Drained a (a.makeRoom cfg first second now s) ∧
      ((a.makeRoom cfg first second now s).fifos s).length < cfg.maxFrames := by
  have hpos := cfg.maxFrames_pos
  have hfirst : ∃ b, Drained a b ∧ (if cfg.maxFrames ≤ (a.fifos s).length then
      a.release cfg first now none else a) = b := by
    split_ifs
    · exact ⟨_, drained_release .., rfl⟩
    · exact ⟨a, .refl a, rfl⟩
  obtain ⟨b, hd, hb⟩ := hfirst
  have hflow := h.drained hd
  simp only [Aligner.makeRoom, hb]
  cases hfifo : b.fifos s with
  | nil => exact ⟨hd, by simpa [hfifo] using hpos⟩
  | cons p rest =>
    simp only
    split_ifs with hfull
    · have hcounted : Flowing cfg { b with forcedReleases := b.forcedReleases + 1 } := { hflow with }
      have hbounded := hflow.bounded s
      rw [hfifo, length_cons] at hbounded
      refine ⟨hd.trans (Drained.trans ?_ (drained_release ..)), ?_⟩
      · exact { Drained.refl b with }
      · exact (hcounted.length_forced second now hfifo).trans_lt (by omega)
    · exact ⟨hd, by rw [hfifo]; omega⟩

lemma makeRoom_induction {P : Aligner σ φ → Prop}
    (hrelease : ∀ b src forcedTs, P b → P (b.release cfg src now forcedTs))
    (hforced : ∀ b n, P b → P { b with forcedReleases := n }) (first second : Sources σ) (s : σ)
    (h : P a) : P (a.makeRoom cfg first second now s) := by
  unfold makeRoom
  have hfirst : P (if cfg.maxFrames ≤ (a.fifos s).length then a.release cfg first now none
      else a) := by
    split_ifs
    · exact hrelease _ _ _ h
    · exact h
  generalize (if cfg.maxFrames ≤ (a.fifos s).length then _ else a) = b at hfirst
  dsimp only
  split
  · exact hfirst
  · split_ifs
    · exact hrelease _ _ _ (hforced _ _ hfirst)
    · exact hfirst

lemma mem_order_setDefault {s s' : σ} (h : s' ∈ a.order ∨ s' = s) :
    s' ∈ (a.setDefault s).order := by
  unfold setDefault
  grind

lemma mem_order_ready (first second : Sources σ) (now : ℚ) (s : σ) (frame : Frame φ) :
    s ∈ (a.ready cfg first second now s frame).order :=
  makeRoom_induction (P := fun b => s ∈ b.order)
    (fun b src forcedTs h => (drained_release cfg src now forcedTs b).order ▸ h) (fun _ _ h => h)
    first second s (mem_order_setDefault (Or.inr rfl))

section

variable (h : Flowing cfg a)
include h

lemma Flowing.wait (dt : ℚ≥0) : Flowing cfg (a.wait dt) :=
  { h with past := fun s p hp => (h.past s p hp).trans (le_add_of_nonneg_right dt.2) }

lemma Flowing.setDefault (s : σ) : Flowing cfg (a.setDefault s) := by
  unfold Aligner.setDefault
  grind [Aligner.heldFrames]

lemma Flowing.append (hs : s ∈ a.order)
    (hroom : (a.fifos s).length < cfg.maxFrames) (frame : Frame φ) (hnow : now = a.clock) :
    Flowing cfg (a.append s frame now) := by
  have hupdate (s' : σ) : (a.append s frame now).fifos s' =
      if s' = s then a.fifos s ++ [(frame, now)] else a.fifos s' := update_apply ..
  refine ⟨h.nodup, fun s' hs' => ?_, fun s' => ?_, by simpa [Aligner.append] using h.late,
    h.lateFrames, ?_, fun s' => ?_, fun s' => ?_, fun s' => ?_⟩
  · rw [hupdate, if_neg (by rintro rfl; exact hs' hs)]
    exact h.outside s' hs'
  · grind [Aligner.ofSource, Aligner.append]
  · have hsum := sum_update h.nodup hs (fun s => (a.fifos s).length) ((a.fifos s).length + 1)
    have hlengths : (fun s' => ((a.append s frame now).fifos s').length) =
        update (fun s => (a.fifos s).length) s ((a.fifos s).length + 1) := by
      funext s'
      rw [hupdate, update_apply]
      split_ifs <;> simp
    grind [Aligner.heldFrames, Aligner.append]
  · grind
  · rw [hupdate]
    split_ifs
    · intro p hp
      rcases mem_append.mp hp with hp | hp
      · exact h.past s p hp
      · rw [mem_singleton.mp hp]
        exact hnow.le
    · exact h.past s'
  · rw [hupdate]
    split_ifs
    · rw [length_append, length_singleton]
      exact hroom
    · exact h.bounded s'

lemma Flowing.pushLate (s : σ) (frame : Frame φ) :
    Flowing cfg (Aligner.late (a.see s frame) s frame) := by
  refine { h with flow := fun s' => ?_, late := ?_, lateFrames := ?_, count := ?_ }
  · simpa [Aligner.late, see, ofSource] using h.flow s'
  · simpa [Aligner.late, see] using h.late
  · simp [Aligner.late, see, h.lateFrames]
  · have hcount := h.count
    simp only [Aligner.late, see, heldFrames, length_append, length_singleton] at hcount ⊢
    omega

lemma Flowing.push (first second third : Sources σ) (s : σ)
    (frame : Frame φ) : Flowing cfg (a.push cfg first second third a.clock s frame) := by
  unfold Aligner.push
  split_ifs
  · exact h.pushLate s frame
  · have hseen : Flowing cfg ((a.see s frame).setDefault s) :=
      Flowing.setDefault ({ h with } : Flowing cfg (a.see s frame)) s
    obtain ⟨hd, hroom⟩ := hseen.makeRoom first second a.clock s
    exact ((hseen.drained hd).append (mem_order_ready ..) hroom frame hd.clock.symm).drained
      (drained_release ..)

lemma Flowing.step (op : AlignOp σ φ) : Flowing cfg (a.step cfg op) := by
  cases op with
  | push dt s frame first second third => exact (h.wait dt).push first second third s frame
  | release dt src => exact (h.wait dt).drained (drained_release ..)

end

lemma flowing_start (cfg : AlignConfig) : Flowing cfg ({} : Aligner σ φ) := by
  constructor <;> simp [heldFrames, ofSource]

end

/-- Whatever is pushed and whenever the aligner releases: the frames of a source that were not
late are forwarded, each once and in the order in which they came, or held; late frames are
forwarded at once; no FIFO is longer than `max_frames`; and no pass leaves a frame behind whose
wait is over. -/
theorem aligner_conserves (cfg : AlignConfig) (ops : List (AlignOp σ φ)) :
    (∀ s, ofSource (run (step cfg) {} ops).pushed s =
        ofSource (run (step cfg) {} ops).forwarded s ++
          ((run (step cfg) {} ops).fifos s).map Prod.fst) ∧
      (run (step cfg) {} ops).pushed.filter (·.late) =
        (run (step cfg) {} ops).forwarded.filter (·.late) ∧ (run (step cfg) {} ops).pushed.length =
        (run (step cfg) {} ops).forwarded.length + (run (step cfg) {} ops).heldFrames ∧
      (∀ s, ((run (step cfg) {} ops).fifos s).length ≤ cfg.maxFrames) ∧
      ∀ dt src s, ∀ p ∈ ((run (step cfg) {} ops).step cfg (.release dt src)).fifos s,
        ((run (step cfg) {} ops).wait dt).clock - p.2 < cfg.windowSec := by
  have h : Flowing cfg (run (step cfg) ({} : Aligner σ φ) ops) :=
    run_of_step _ (fun _ op h => h.step op) ops _ (flowing_start cfg)
  exact ⟨h.flow, h.late, h.count, h.bounded, fun dt src s =>
    (h.wait dt).release_expired src _ none s⟩

/-! ## The order over all sources -/

/-- What a frame has to meet when it is appended: no frame after it was released, nor is one
held of its own source. -/
def Timely (a : Aligner σ φ) : AlignOp σ φ → Prop
  | .push dt s frame first second _ =>
    (a.wait dt).isLate frame ∨
      ((a.wait dt).ready cfg first second (a.wait dt).clock s frame).isLate frame = false ∧
        ∀ p ∈ ((a.wait dt).ready cfg first second (a.wait dt).clock s frame).fifos s,
          p.1.ts ≤ frame.ts
  | .release _ _ => True

instance (cfg : AlignConfig) (a : Aligner σ φ) (op : AlignOp σ φ) : Decidable (a.Timely cfg op) := by
  cases op <;> unfold Timely <;> infer_instance

@[local grind]
def InOrder : Prop := log.Pairwise fun x y => x.late ∨ y.late ∨ x.frame.ts ≤ y.frame.ts

instance (log : List (Logged σ φ)) : Decidable (InOrder log) :=
  inferInstanceAs (Decidable (List.Pairwise _ _))

/-- What is held lies above what was released, each FIFO in its order. -/
@[local grind]
structure Ordered (a : Aligner σ φ) : Prop where
  outside : ∀ s, s ∉ a.order → a.fifos s = []
  sorted : ∀ s, (a.fifos s).Pairwise fun p q => p.1.ts ≤ q.1.ts
  above : ∀ s, ∀ p ∈ a.fifos s, a.isLate p.1 = false
  released : InOrder a.forwarded
  latest : ∀ x ∈ a.forwarded, x.late ∨ ∃ t, a.lastReleasedTs = some t ∧ x.frame.ts ≤ t

section

variable {cfg : AlignConfig} {t : WithBot (WithTop ℤ)} {frame : Frame φ}

section

variable (h : Ordered a)
include h

lemma Ordered.le_held (hdue : ((frame.ts : WithTop ℤ) : WithBot _) ≤ t)
    (hleast : ∀ s ∈ a.order, a.due t s → ∀ ts, a.headTs s = some ts → frame.ts ≤ ts)
    (s : σ) : ∀ p ∈ a.fifos s, frame.ts ≤ p.1.ts := by
  intro p hp
  have hs : s ∈ a.order := by
    by_contra hs
    rw [h.outside s hs] at hp
    cases hp
  obtain ⟨q, rest, hq⟩ := exists_cons_of_ne_nil (ne_nil_of_mem hp)
  have hhead : a.headTs s = some q.1.ts := by simp [headTs, hq]
  have hfirst : frame.ts ≤ q.1.ts := by
    by_cases hd : a.due t s = true
    · exact hleast s hs hd _ hhead
    · simp only [due, hhead, decide_eq_true_eq, not_le] at hd
      exact_mod_cast hdue.trans hd.le
  grind [pairwise_cons]

lemma Ordered.pop {key : σ → String} {s : σ}
    (hbest : a.best t key = some s) : Ordered (a.pop s) := by
  obtain ⟨hs, frame, enq, rest, hfifo, hdue, hleast⟩ := best_some hbest
  have hframe : a.isLate frame = false := h.above s (frame, enq) (hfifo ▸ mem_cons_self)
  -- the time stamp of the frame is the latest one now
  have hmax : a.lastReleasedTs.elim frame.ts (fun t => max t frame.ts) = frame.ts := by
    cases hlast : a.lastReleasedTs with
    | none => rfl
    | some t => simpa [isLate, hlast] using hframe
  have hle : ∀ x ∈ a.forwarded, x.late ∨ x.frame.ts ≤ frame.ts := fun x hx =>
    (h.latest x hx).imp_right fun ⟨t, ht, hxt⟩ => hxt.trans (by simpa [isLate, ht] using hframe)
  have hsublist (s' : σ) : (update a.fifos s rest s').Sublist (a.fifos s') := by grind
  simp only [Aligner.pop, hfifo, hmax]
  refine ⟨fun s' hs' => ?_, fun s' => (h.sorted s').sublist (hsublist s'), fun s' p hp => ?_, ?_,
    fun x hx => ?_⟩
  · exact sublist_nil.mp (h.outside s' hs' ▸ hsublist s')
  · simpa [isLate] using h.le_held hdue hleast s' p ((hsublist s').subset hp)
  all_goals grind

lemma Ordered.release (cfg : AlignConfig) (src : Sources σ) (now : ℚ)
    (forcedTs : Option ℤ) : Ordered (a.release cfg src now forcedTs) :=
  drain_induction (fun _ _ hbest h => h.pop hbest) _ a h

lemma Ordered.ready (first second : Sources σ) (now : ℚ) (s : σ)
    (frame : Frame φ) : Ordered (a.ready cfg first second now s frame) := by
  refine makeRoom_induction (fun _ _ _ h => h.release ..) (fun _ _ h => ?_) first second s ?_
  · exact { h with }
  · exact { h with
      outside := fun s' hs' => h.outside s' fun hmem => hs' (mem_order_setDefault (Or.inl hmem)) }

lemma Ordered.append {s : σ} (hs : s ∈ a.order)
    (hlate : a.isLate frame = false) (hlast : ∀ p ∈ a.fifos s, p.1.ts ≤ frame.ts) (now : ℚ) :
    Ordered (a.append s frame now) := by
  have hupdate (s' : σ) : (a.append s frame now).fifos s' =
      if s' = s then a.fifos s ++ [(frame, now)] else a.fifos s' := update_apply ..
  refine { h with
    outside := fun s' hs' => ?_
    sorted := fun s' => ?_
    above := fun s' p hp => ?_ }
  · rw [hupdate, if_neg (by rintro rfl; exact hs' hs)]
    exact h.outside s' hs'
  · grind
  · rw [hupdate] at hp
    split_ifs at hp
    · rcases mem_append.mp hp with hp | hp
      · exact h.above s p hp
      · exact mem_singleton.mp hp ▸ hlate
    · exact h.above s' p hp

lemma Ordered.late (s : σ) (frame : Frame φ) : Ordered (late (a.see s frame) s frame) := by
  refine { h with released := ?_, latest := fun x hx => ?_ }
  · refine pairwise_append.mpr ⟨h.released, pairwise_singleton _ _, fun x _ y hy => ?_⟩
    rw [mem_singleton.mp hy]
    exact Or.inr (Or.inl rfl)
  · rcases mem_append.mp hx with hx | hx
    · exact h.latest x hx
    · exact Or.inl (mem_singleton.mp hx ▸ rfl)

lemma Ordered.step (op : AlignOp σ φ) (htimely : a.Timely cfg op) : Ordered (a.step cfg op) := by
  cases op with
  | release dt src => exact Ordered.release ({ h with } : Ordered (a.wait dt)) ..
  | push dt s frame first second third =>
    have hwait : Ordered (a.wait dt) := { h with }
    simp only [Aligner.step, push]
    split_ifs with hlate
    · exact hwait.late s frame
    · obtain ⟨hready, hlast⟩ := htimely.resolve_left hlate
      exact ((hwait.ready first second _ s frame).append (mem_order_ready ..) hready hlast _).release ..

end

end

/-- A run in which no frame is older, when it is appended, than one of its source that is held
or than one released in the meantime: then a frame that is forwarded is late and counted, or
not older than any frame released before it. -/
theorem aligner_inOrder (cfg : AlignConfig) (ops : List (AlignOp σ φ))
    (h : Along (step cfg) (Timely cfg) {} ops) : InOrder (run (step cfg) {} ops).forwarded ∧
      (run (step cfg) {} ops).lateFrames =
        ((run (step cfg) {} ops).forwarded.filter (·.late)).length := by
  have hordered : Ordered (run (step cfg) ({} : Aligner σ φ) ops) :=
    run_invariant _ (fun _ op h htimely => h.step op htimely) ops _
      (by constructor <;> simp [InOrder]) h
  have hflow : Flowing cfg (run (step cfg) ({} : Aligner σ φ) ops) :=
    run_of_step _ (fun _ op h => h.step op) ops _ (flowing_start cfg)
  exact ⟨hordered.released, hflow.lateFrames⟩

/-- Two sources, of which the second one has sent nothing: their frames are held until it
leaves. -/
def silent (first second : ℤ) : List (AlignOp Bool Unit) :=
  let both : Sources Bool := ⟨[false, true], fun b => if b then "b" else "a"⟩
  let one : Sources Bool := ⟨[false], both.key⟩
  [.push 0 false ⟨first, ()⟩ both both both, .push 0 false ⟨second, ()⟩ both both both,
    .release 0 one]

def narrow : AlignConfig := ⟨1, 4, by decide⟩

theorem aligner_inOrder_silent : Along (step narrow) (Timely narrow) {} (silent 5 10) ∧
      InOrder (run (step narrow) {} (silent 5 10)).forwarded ∧
      (run (step narrow) {} (silent 5 10)).forwarded.map (·.frame.ts) = [5, 10] :=
  have h : Along (step narrow) (Timely narrow) {} (silent 5 10) := by decide +kernel
  ⟨h, (aligner_inOrder narrow _ h).1, by decide +kernel⟩

/-- A source that sends its own frames out of order has them released out of order. -/
theorem exists_not_inOrder : ¬ InOrder (run (step narrow) {} (silent 10 5)).forwarded ∧
      (run (step narrow) {} (silent 10 5)).lateFrames = 0 := by decide +kernel

end Aligner

end HeimdallDaq.Federation.IqRouter
