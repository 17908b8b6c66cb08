/-
  HwController/RepeatModes.lean --- the order of the entries and the scheduler's states.

  The index of a schedule is its own bound: `currentIndex` is a `Fin`.
-/
import HeimdallDaq.Foundation.Runs
import HeimdallDaq.HwController.Scheduler

namespace HeimdallDaq.HwController

open Foundation

namespace Schedule

def advances (k : ℕ) (p : Schedule × Bool) : Schedule × Bool :=
  (fun q : Schedule × Bool => q.1.advanceIndex q.2)^[k] p

def wave (n k : ℕ) : ℕ :=
  if k % (2 * n - 2) < n then k % (2 * n - 2) else 2 * n - 2 - k % (2 * n - 2)

/-- Where `k` advances lead from a fresh load of `n` entries. -/
structure Reached (s₀ : Schedule) (k : ℕ) (p : Schedule × Bool) : Prop where
  entries : p.1.entries = s₀.entries
  mode : p.1.repeatMode = s₀.repeatMode
  loop : s₀.repeatMode = .loop → p.1.currentIndex.val = k % s₀.entries.length ∧ p.1.active = true
  once : s₀.repeatMode = .once → p.1.currentIndex.val = min k (s₀.entries.length - 1) ∧
    (p.1.active = false ↔ s₀.entries.length ≤ k)
  pingpong : s₀.repeatMode = .pingpong → 2 ≤ s₀.entries.length →
    p.1.currentIndex.val = wave s₀.entries.length k ∧ p.1.active ∧
      (p.2 ↔ k = 0 ∨ (1 ≤ k % (2 * s₀.entries.length - 2) ∧
        k % (2 * s₀.entries.length - 2) ≤ s₀.entries.length - 1))

variable {s₀ s : Schedule} {k : ℕ}

/-- One turn of the wave, and of the remainder that it is made of. -/
lemma succ_mod_cases {n : ℕ} (hn : 2 ≤ n) (k : ℕ) : k % (2 * n - 2) < 2 * n - 2 ∧
      ((k + 1) % (2 * n - 2) = k % (2 * n - 2) + 1 ∨
        (k + 1) % (2 * n - 2) = 0 ∧ k % (2 * n - 2) + 1 = 2 * n - 2) := by
  have hlt := Nat.mod_lt k (show 0 < 2 * n - 2 by omega)
  rw [Nat.add_mod_eq_ite]
  rcases Nat.lt_or_ge 1 (2 * n - 2) with h | h
  · rw [Nat.mod_eq_of_lt h]
    split_ifs <;> omega
  · omega

/-- One advance along the wave; `forward` is the direction before it. -/
lemma wave_succ {n : ℕ} (hn : 2 ≤ n) (k : ℕ) (forward : Bool)
    (hdir : forward ↔ k = 0 ∨ (1 ≤ k % (2 * n - 2) ∧ k % (2 * n - 2) ≤ n - 1)) :
    (if forward then if wave n k + 1 < n then wave n k + 1 else wave n k - 1
      else if wave n k = 0 then 1 else wave n k - 1) = wave n (k + 1) ∧
    ((if forward then wave n k + 1 < n else wave n k = 0) ↔
      1 ≤ (k + 1) % (2 * n - 2) ∧ (k + 1) % (2 * n - 2) ≤ n - 1) := by
  obtain ⟨hlt, hturn⟩ := succ_mod_cases hn k
  have hzero : k = 0 → k % (2 * n - 2) = 0 := fun h => by simp [h]
  unfold wave
  generalize k % (2 * n - 2) = j, (k + 1) % (2 * n - 2) = j' at *
  cases forward <;> simp only [reduceCtorEq, false_iff, true_iff, if_true, if_false] at hdir ⊢ <;>
    split_ifs <;> omega

attribute [local grind] next? prev? moveTo advanceIndex

lemma advanceIndex_keeps (s : Schedule) (forward : Bool) :
    (s.advanceIndex forward).1.entries = s.entries ∧
      (s.advanceIndex forward).1.repeatMode = s.repeatMode := by
  grind

lemma advanceIndex_loop (hm : s.repeatMode = .loop) (forward : Bool) :
    (s.advanceIndex forward).1.currentIndex.val = (s.currentIndex.val + 1) % s.entries.length ∧
      (s.advanceIndex forward).1.active = s.active := by
  grind

lemma advanceIndex_pingpong (hm : s.repeatMode = .pingpong) (hn : 2 ≤ s.entries.length)
    (forward : Bool) :
    (s.advanceIndex forward).1.active = s.active ∧
      (s.advanceIndex forward).1.currentIndex.val = (if forward then
        if s.currentIndex.val + 1 < s.entries.length then s.currentIndex.val + 1
        else s.currentIndex.val - 1
        else if s.currentIndex.val = 0 then 1 else s.currentIndex.val - 1) ∧
      ((s.advanceIndex forward).2 ↔ if forward then
        s.currentIndex.val + 1 < s.entries.length else s.currentIndex.val = 0) := by
  have hlt := s.currentIndex.isLt
  cases forward <;> grind

lemma Reached.step {p : Schedule × Bool} (h : Reached s₀ k p) :
    Reached s₀ (k + 1) (p.1.advanceIndex p.2) := by
  obtain ⟨s, forward⟩ := p
  obtain ⟨hentries, hmode, hloop, honce, hping⟩ := h
  dsimp only at hentries hmode hloop honce hping ⊢
  have hkeep := advanceIndex_keeps s forward
  rw [hentries, hmode] at hkeep
  refine ⟨hkeep.1, hkeep.2, fun hm => ?_, fun hm => ?_, fun hm hn => ?_⟩
  · obtain ⟨hi, ha⟩ := hloop hm
    obtain ⟨hindex, hactive⟩ := advanceIndex_loop (hmode.trans hm) forward
    rw [hactive, hindex, hi, hentries, Nat.mod_add_mod]
    exact ⟨rfl, ha⟩
  · obtain ⟨hi, ha⟩ := honce hm
    have hlt := s.currentIndex.isLt
    grind
  · obtain ⟨hi, ha, hdir⟩ := hping hm hn
    obtain ⟨hactive, hindex, hforward⟩ :=
      advanceIndex_pingpong (hmode.trans hm) (hentries ▸ hn) forward
    obtain ⟨hwave, hnext⟩ := wave_succ hn k forward hdir
    rw [hi, hentries] at hindex hforward
    rw [hactive, hindex, hwave, hforward, hnext]
    exact ⟨rfl, ha, by simp⟩

lemma reached_advances (hi : s₀.currentIndex.val = 0) (ha : s₀.active) (k : ℕ) :
    Reached s₀ k (advances k (s₀, true)) := by
  induction k with
  | zero =>
    have hlt := s₀.currentIndex.isLt
    exact ⟨rfl, rfl, by simp [advances, hi, ha],
      fun _ => ⟨by simp [advances, hi], by simp [advances, ha]; grind⟩,
      fun _ hn => ⟨by simp [advances, hi, wave, show 0 < s₀.entries.length by omega], ha,
        by simp [advances]⟩⟩
  | succ k ih =>
    rw [advances, Function.iterate_succ_apply']
    exact ih.step

end Schedule

namespace Scheduler

lemma loadSchedule_fresh (doc : ScheduleDoc) (s : Scheduler)
    (hne : doc.entries ≠ []) (hdb : s.db = none ∨ s.db = some none) :
    (s.loadSchedule doc).pingpongForward ∧
      ∃ sched, (s.loadSchedule doc).schedule = some sched ∧ sched.currentIndex.val = 0 ∧
        sched.active ∧ sched.entries.length = doc.entries.length ∧
        sched.repeatMode = doc.repeatMode := by
  have hresume (sched : Schedule) : s.resumeIndex sched = none := by
    unfold resumeIndex
    grind
  rw [loadSchedule_schedule, loadSchedule_pingpongForward, activate]
  split
  next hdoc => exact absurd hdoc hne
  next first rest hdoc =>
    simp only [hresume]
    exact ⟨trivial, _, rfl, rfl, rfl, by rw [hdoc], rfl⟩

end Scheduler

/-- From a load that resumes nothing, `k` advances lead to entry `k mod n` of a loop, to
entry `min k (n - 1)` of a schedule that runs once and ends with the `n`-th advance, and
along the triangular wave in pingpong mode. -/
theorem repeat_modes (doc : ScheduleDoc) (s : Scheduler) (hne : doc.entries ≠ [])
    (hdb : s.db = none ∨ s.db = some none) :
    ∃ sched, (s.loadSchedule doc).schedule = some sched ∧
      sched.entries.length = doc.entries.length ∧ sched.repeatMode = doc.repeatMode ∧
      ∀ k, let n := doc.entries.length
        let p := Schedule.advances k (sched, (s.loadSchedule doc).pingpongForward)
        (doc.repeatMode = .loop → p.1.currentIndex.val = k % n) ∧
        (doc.repeatMode = .once → p.1.currentIndex.val = min k (n - 1) ∧
          (p.1.active = false ↔ n ≤ k)) ∧
        (doc.repeatMode = .pingpong → 2 ≤ n →
          p.1.currentIndex.val = Schedule.wave n k ∧ p.1.active) := by
  obtain ⟨hforward, sched, hload, hi, ha, hlen, hmode⟩ := s.loadSchedule_fresh doc hne hdb
  refine ⟨sched, hload, hlen, hmode, fun k => ?_⟩
  obtain ⟨-, -, hloop, honce, hping⟩ := Schedule.reached_advances hi ha k
  rw [hforward, ← hlen, ← hmode]
  exact ⟨fun h => (hloop h).1, honce, fun h hn => ⟨(hping h hn).1, (hping h hn).2.1⟩⟩

theorem repeat_modes_twoEntries :
    ∃ sched, (({} : Scheduler).loadSchedule ⟨.str "", [{ frequency := 1 }, { frequency := 2 }],
        .pingpong, none⟩).schedule = some sched ∧
      (Schedule.advances 2 (sched, true)).1.currentIndex.val = 0 := by
  obtain ⟨sched, hload, -, -, h⟩ := repeat_modes
    ⟨.str "", [{ frequency := 1 }, { frequency := 2 }], .pingpong, none⟩ {} (by simp) (.inl rfl)
  exact ⟨sched, hload, ((h 2).2.2 rfl le_rfl).1⟩

namespace Scheduler

inductive Call
  | load (doc : ScheduleDoc)
  | clear
  | skip
  | tick (M : ℕ) (hdr : IqHeader M)

def call (s : Scheduler) : Call → Scheduler
  | .load doc => s.loadSchedule doc
  | .clear => s.clearSchedule
  | .skip => s.skipToNext
  | .tick _ hdr => (s.tick hdr).1

def Settled (s : Scheduler) : Prop :=
  (∀ sched ∈ s.schedule, sched.currentIndex.val < sched.entries.length) ∧
    (s.state = .idle ↔ ∀ sched ∈ s.schedule, sched.active = false)

def SkipsInside (s : Scheduler) : Call → Prop
  | .skip => ∀ sched ∈ s.schedule, sched.active →
      (sched.advanceIndex s.pingpongForward).1.active = true
  | _ => True

variable {s : Scheduler}

lemma doTransition_idle (sched : Schedule) (s : Scheduler) :
    (s.doTransition sched).1.state = .idle ↔
      ∀ sched' ∈ (s.doTransition sched).1.schedule, sched'.active = false := by
  unfold doTransition
  dsimp only
  split_ifs with h <;> simp [h]

lemma settled_call (c : Call) (h : s.Settled) (hc : s.SkipsInside c) : (s.call c).Settled := by
  refine ⟨fun sched _ => sched.currentIndex.isLt, ?_⟩
  have hidle := h.2
  cases c with
  | load doc =>
    simp only [call, loadSchedule_schedule, loadSchedule_state, activate]
    split
    · exact hidle
    · split <;> simp
  | clear => simp [call, clearSchedule]
  | skip =>
    simp only [call, skipToNext]
    simp only [SkipsInside] at hc
    split
    · exact hidle
    · split_ifs <;> simp_all
  | tick M hdr =>
    cases hs : s.schedule with
    | none => simpa [call, tick, hs] using hidle
    | some sched =>
      simp only [call, tick, hs]
      -- a branch either transitions, returns at once or keeps an active schedule
      split_ifs <;> (try split) <;> first
        | exact doTransition_idle _ _
        | exact hidle
        | simp_all

/-- In every run in which no skip ends a schedule. -/
theorem scheduler_settled (db : Option (Option Persisted)) (wait : ℤ) (calls : List Call)
    (h : Along call SkipsInside { db := db, maxCalWaitFrames := wait } calls) :
    (run call { db := db, maxCalWaitFrames := wait } calls).Settled := by
  have hstep (s : Scheduler) (c : Call) (hs : s.Settled) (hc : s.SkipsInside c) :=
    settled_call c hs hc
  exact run_invariant call hstep calls _ ⟨nofun, by simp⟩ h

theorem scheduler_settled_skip :
    (run call {} [.load ⟨.str "", [{ frequency := 1 }], .loop, none⟩, .skip]).Settled :=
  scheduler_settled none 500 _ ⟨trivial, by simp [SkipsInside, call, activate, resumeIndex,
    Schedule.advanceIndex], trivial⟩

/-- A skip at the end leaves the scheduler waiting for a calibration. -/
theorem skip_past_the_end : ¬ (run call {}
    [.load ⟨.str "", [{ frequency := 1 }], .once, none⟩, .skip]).Settled := by
  simp [Settled, call, activate, resumeIndex, skipToNext, Schedule.advanceIndex, Schedule.next?,
    Schedule.moveTo]

end Scheduler

end HeimdallDaq.HwController
