/-
  Federation/Breaker.lean --- the circuit breaker of one member.

  After `breaker_failures` failed sessions a member is left alone for
  `breaker_open_sec`; then one session, the probe, may try it again.
-/
import HeimdallDaq.Foundation.Runs
import Mathlib.Algebra.Order.Ring.Unbundled.Rat

namespace HeimdallDaq.Federation

open Foundation

/-! ## The breaker -/

/-- The settings of the breaker, as `validate` accepts them. -/
structure BreakerSettings where
  breakerFailures : ℕ := 3
  breakerOpenSec : ℚ := 10
  positive : 1 ≤ breakerFailures := by decide

structure Breaker where
  failures : ℕ := 0
  openUntil : ℚ := 0
  probing : Bool := false

/-- What `_breaker_check` answers. -/
inductive Admission
  /-- `breaker_open`, with `retry_in_sec` before it is rounded -/
  | blocked (retryInSec : ℚ)
  | pass (probe : Bool)

namespace Breaker

variable (cfg : BreakerSettings) (now : ℚ)

@[local grind]
def check : Option Breaker → Option Breaker × Admission
  | none => (none, .pass false)
  | some b =>
    if b.failures < cfg.breakerFailures then (some b, .pass false)
    else if now < b.openUntil then (some b, .blocked (b.openUntil - now))
    else if b.probing then (some b, .blocked cfg.breakerOpenSec)
    else (some { b with probing := true }, .pass true)

def count (success : Bool) (b : Breaker) : Breaker :=
  if success then { b with failures := 0, openUntil := 0 }
  else if cfg.breakerFailures ≤ b.failures + 1 then
    { b with failures := b.failures + 1, openUntil := now + cfg.breakerOpenSec }
  else { b with failures := b.failures + 1 }

def record (success probe : Bool) (entry : Option Breaker) : Option Breaker :=
  let b := entry.getD {}
  some (count cfg now success (if probe then { b with probing := false } else b))

variable (entry : Option Breaker)

def unprobe : Option Breaker := entry.map fun b => { b with probing := false }

@[local grind]
def flag : Bool := (entry.map probing).getD false

@[local grind]
def isOpen : Option Breaker → Bool
  | none => false
  | some b => decide (cfg.breakerFailures ≤ b.failures)

lemma check_cases (entry : Option Breaker) : ((check cfg now entry).1 = entry ∧
        ((∃ retry, (check cfg now entry).2 = .blocked retry) ∨
          (check cfg now entry).2 = .pass false ∧ isOpen cfg entry = false)) ∨
      flag entry = false ∧ flag (check cfg now entry).1 ∧ (check cfg now entry).2 = .pass true ∧
        isOpen cfg (check cfg now entry).1 = isOpen cfg entry := by
  cases entry with
  | none => exact .inl ⟨rfl, .inr ⟨rfl, rfl⟩⟩
  | some b => grind

@[simp] lemma probing_count (success : Bool) (b : Breaker) :
    (count cfg now success b).probing = b.probing := by
  unfold count
  split_ifs <;> rfl

lemma flag_record (success probe : Bool) (entry : Option Breaker) :
    flag (record cfg now success probe entry) = (!probe && flag entry) := by
  cases probe <;> cases entry <;> simp [record, flag]

@[simp] lemma flag_unprobe : flag (unprobe entry) = false := by
  cases entry <;> rfl

end Breaker

/-! ## Sessions -/

inductive SessionStage
  | fresh
  | admitted
  | locked
  | linked
  /-- `open` failed or the caller is done -/
  | returned
  /-- in `close`, the member lock given back -/
  | released
  | closed
  deriving DecidableEq

/-- `_HwcSession`, as far as the breaker sees it. -/
structure HwcSession where
  stage : SessionStage := .fresh
  probe : Bool := false
  /-- `mode` is known, the member has answered XACK -/
  mode : Bool := false
  transportFailed : Bool := false

namespace HwcSession

variable (s : HwcSession)

def Open : Prop := s.stage ≠ .fresh ∧ s.stage ≠ .closed

def Pending : Prop := s.stage = .admitted ∨ s.stage = .locked

def MayHold : Prop := s.stage = .locked ∨ s.stage = .linked ∨ s.stage = .returned

end HwcSession

structure MemberLine (S : Type) where
  breaker : Option Breaker := none
  lock : Option S := none
  session : S → HwcSession := fun _ => {}

inductive SessionAct (S : Type)
  /-- `_breaker_check`, with the time it reads -/
  | check (i : S) (now : ℚ)
  /-- a return of `open` or of the caller, or an exception -/
  | leave (i : S)
  | acquire (i : S)
  /-- `_connect`, which may raise `OSError` -/
  | connect (i : S) (ok : Bool)
  | xack (i : S) (ok : Bool)
  | command (i : S) (timeout : Bool)
  /-- the first part of `close` -/
  | release (i : S)
  /-- the second part of `close`, with the time it reads -/
  | record (i : S) (now : ℚ)

open MemberLine

namespace MemberLine

variable {S : Type} [DecidableEq S] (cfg : BreakerSettings) (w : MemberLine S)

def put (i : S) (s : HwcSession) : MemberLine S :=
  { w with session := Function.update w.session i s }

def check (i : S) (now : ℚ) : MemberLine S :=
  let s := w.session i
  let r := Breaker.check cfg now w.breaker
  { w with breaker := r.1 }.put i
    (match r.2 with
      | .blocked _ => { s with stage := .returned }
      | .pass probe => { s with stage := .admitted, probe := probe })

def reported (s : HwcSession) (now : ℚ) (entry : Option Breaker) : Option Breaker :=
  if s.mode || s.transportFailed then
    Breaker.record cfg now (!s.transportFailed) s.probe entry
  else if s.probe then Breaker.unprobe entry
  else entry

def step : SessionAct S → MemberLine S
  | .check i now => if (w.session i).stage = .fresh then w.check cfg i now else w
  | .leave i =>
    if (w.session i).stage = .released ∨ (w.session i).stage = .closed then w
    else w.put i { w.session i with stage := .returned }
  | .acquire i =>
    if (w.session i).stage = .admitted ∧ w.lock = none then
      { w with lock := some i }.put i { w.session i with stage := .locked }
    else w
  | .connect i ok =>
    if (w.session i).stage = .locked then
      w.put i (if ok then { w.session i with stage := .linked }
        else { w.session i with stage := .returned, transportFailed := true })
    else w
  | .xack i ok =>
    if (w.session i).stage = .linked ∧ (w.session i).mode = false then
      w.put i (if ok then { w.session i with mode := true }
        else { w.session i with stage := .returned, transportFailed := true })
    else w
  | .command i timeout =>
    if (w.session i).stage = .linked ∧ (w.session i).mode ∧ timeout = true then
      w.put i { w.session i with transportFailed := true }
    else w
  | .release i =>
    if (w.session i).stage = .returned then
      { w with lock := if w.lock = some i then none else w.lock }.put i
        { w.session i with stage := .released }
    else w
  | .record i now =>
    if (w.session i).stage = .released then
      { w with breaker := reported cfg (w.session i) now w.breaker }.put i
        { w.session i with stage := .closed, probe := false }
    else w

/-! ## The probe -/

def Probes (i : S) : Prop := (w.session i).Open ∧ (w.session i).probe

/-- The probe is held by at most one open session, and the flag says whether it is
held. -/
structure ProbeOnce (w : MemberLine S) : Prop where
  unique : ∀ i j, w.Probes i → w.Probes j → i = j
  flag : Breaker.flag w.breaker ↔ ∃ i, w.Probes i

def Guarded : SessionAct S → Prop
  | .connect i _ => (w.session i).stage = .locked → Breaker.isOpen cfg w.breaker →
      (w.session i).probe = true
  | _ => True

instance (w : MemberLine S) : ∀ act, Decidable (w.Guarded cfg act)
  | .connect _ _ => inferInstanceAs (Decidable (_ → _ → _))
  | .check _ _ | .leave _ | .acquire _ | .xack _ _ | .command _ _ | .release _
  | .record _ _ => inferInstanceAs (Decidable True)

/-- A record that leaves the breaker open finds no session but the probe between its
check and its connection. -/
@[local grind]
def Clear : SessionAct S → Prop
  | .record i now => Breaker.isOpen cfg (w.step cfg (.record i now)).breaker →
      ∀ j, (w.session j).Pending → (w.session j).probe = true
  | _ => True

/-- What every section keeps: the probe, and the stages that go with it and with the
member lock. -/
@[local grind]
structure Inv (w : MemberLine S) : Prop where
  unique : ∀ i j, (w.session i).probe → (w.session j).probe → i = j
  flag : Breaker.flag w.breaker ↔ ∃ i, (w.session i).probe = true
  live : ∀ i, (w.session i).probe → (w.session i).Open
  held : ∀ i, w.lock = some i → (w.session i).MayHold

namespace Inv

variable {w : MemberLine S}

omit [DecidableEq S] in
lemma initial : Inv ({} : MemberLine S) where
  unique := by simp
  flag := by simp [Breaker.flag]
  live := by simp
  held := by simp

omit [DecidableEq S] in
lemma probeOnce (h : w.Inv) : w.ProbeOnce where
  unique i j hi hj := h.unique i j hi.2 hj.2
  flag := by
    rw [h.flag]
    exact ⟨fun ⟨i, hi⟩ => ⟨i, h.live i hi, hi⟩, fun ⟨i, hi⟩ => ⟨i, hi.2⟩⟩

variable {i : S}

lemma moved (h : w.Inv) {s : HwcSession} {lock : Option S}
    (hprobe : s.probe = (w.session i).probe) (hlive : s.probe → s.Open)
    (hheld : ∀ k, lock = some k → (k = i ∧ s.MayHold) ∨ (k ≠ i ∧ w.lock = some k)) :
    Inv ({ w with lock := lock }.put i s) := by
  have hsame : ∀ j, (Function.update w.session i s j).probe = (w.session j).probe := by
    intro j
    by_cases hj : j = i
    · subst hj; simpa using hprobe
    · simp [hj]
  refine ⟨?_, ?_, ?_, ?_⟩
  · intro j k hj hk
    exact h.unique j k ((hsame j).symm.trans hj) ((hsame k).symm.trans hk)
  · simp only [put, hsame]
    exact h.flag
  · intro j hj
    by_cases hji : j = i
    · subst hji
      simp only [put, Function.update_self] at hj ⊢
      exact hlive hj
    · simp only [put, Function.update_of_ne hji] at hj ⊢
      exact h.live j hj
  · intro k hk
    rcases hheld k hk with ⟨rfl, hstage⟩ | ⟨hne, hlock⟩
    · simpa [put] using hstage
    · simpa [put, hne] using h.held k hlock

lemma stays (h : w.Inv) {s : HwcSession} (hprobe : s.probe = (w.session i).probe)
    (hlive : s.probe → s.Open) (hhold : w.lock = some i → s.MayHold) : Inv (w.put i s) := by
  refine h.moved hprobe hlive ?_
  grind

omit [DecidableEq S] in
lemma probe_eq_false (h : w.Inv) (hi : ¬ (w.session i).Open) : (w.session i).probe = false := by
  cases hp : (w.session i).probe with
  | false => rfl
  | true => exact absurd (h.live i hp) hi

omit [DecidableEq S] in
lemma lock_ne (h : w.Inv) (hi : ¬ (w.session i).MayHold) : w.lock ≠ some i :=
  fun hl => hi (h.held i hl)

lemma check (h : w.Inv) (cfg : BreakerSettings) (now : ℚ)
    (hi : (w.session i).stage = .fresh) : Inv (w.check cfg i now) := by
  have hfree : (w.session i).probe = false := h.probe_eq_false (by simp [HwcSession.Open, hi])
  have hlock : w.lock ≠ some i := h.lock_ne (by simp [HwcSession.MayHold, hi])
  rcases Breaker.check_cases cfg now w.breaker with ⟨hsame, hans⟩ | ⟨hflag, hset, hans, -⟩
  · grind [MemberLine.check, stays]
  · -- the probe was free, so no other session holds it
    have hnone : ∀ j, (w.session j).probe = false := by grind
    have hprobe : ∀ j, ((w.check cfg i now).session j).probe ↔ j = i := by
      intro j
      by_cases hj : j = i
      · subst hj; simp [MemberLine.check, put, hans]
      · simp [MemberLine.check, put, hj, hnone]
    refine ⟨?_, ?_, ?_, ?_⟩
    · intro j k hj hk
      rw [(hprobe j).mp hj, (hprobe k).mp hk]
    · exact iff_of_true hset ⟨i, (hprobe i).mpr rfl⟩
    · intro j hj
      rw [(hprobe j).mp hj]
      simp [MemberLine.check, put, hans, HwcSession.Open]
    · intro k hk
      have hki : k ≠ i := fun e => hlock (e ▸ hk)
      simpa [MemberLine.check, put, hki] using h.held k hk

lemma record (h : w.Inv) (cfg : BreakerSettings) (now : ℚ)
    (hi : (w.session i).stage = .released) :
    Inv ({ w with breaker := reported cfg (w.session i) now w.breaker }.put i
      { w.session i with stage := .closed, probe := false }) := by
  have hflag : Breaker.flag (reported cfg (w.session i) now w.breaker) =
      (!(w.session i).probe && Breaker.flag w.breaker) := by
    unfold reported
    split
    · exact Breaker.flag_record _ _ _ _ _
    · split <;> simp_all
  refine ⟨?_, ?_, ?_, ?_⟩
  · intro j k hj hk
    have hji : j ≠ i := by rintro rfl; simp [put] at hj
    have hki : k ≠ i := by rintro rfl; simp [put] at hk
    exact h.unique j k (by simpa [put, hji] using hj) (by simpa [put, hki] using hk)
  · change Breaker.flag (reported cfg (w.session i) now w.breaker) ↔ _
    rw [hflag]
    constructor
    · intro hset
      obtain ⟨hnot, hset⟩ := Bool.and_eq_true_iff.mp hset
      obtain ⟨j, hj⟩ := h.flag.mp hset
      have hji : j ≠ i := by rintro rfl; simp [hj] at hnot
      exact ⟨j, by simpa [put, hji] using hj⟩
    · rintro ⟨j, hj⟩
      have hji : j ≠ i := by rintro rfl; simp [put] at hj
      have hjp : (w.session j).probe := by simpa [put, hji] using hj
      grind
  · intro j hj
    have hji : j ≠ i := by rintro rfl; simp [put] at hj
    have hjp : (w.session j).probe := by simpa [put, hji] using hj
    simpa [put, hji] using h.live j hjp
  · intro k hk
    have hki : k ≠ i := fun e => h.lock_ne (i := i) (by simp [HwcSession.MayHold, hi]) (e ▸ hk)
    simpa [put, hki] using h.held k hk

attribute [local grind] HwcSession.Open HwcSession.MayHold

lemma step (h : w.Inv) (cfg : BreakerSettings) (act : SessionAct S) : Inv (w.step cfg act) := by
  cases act with
  | check i now =>
    simp only [MemberLine.step]
    split
    case isTrue hi => exact h.check cfg now hi
    case isFalse => exact h
  | leave i => grind [step, stays]
  | acquire i =>
    grind [step, moved]
  | connect i ok =>
    grind [step, stays]
  | xack i ok => grind [step, stays]
  | command i timeout =>
    grind [step, stays]
  | release i => grind [step, moved]
  | record i now =>
    simp only [MemberLine.step]
    split
    case isTrue hi => exact h.record cfg now hi
    case isFalse => exact h

end Inv

/-! ## Who connects -/

@[local grind]
def Waits (j : S) : Prop := (w.session j).Pending ∧ (w.session j).probe = false

def Safe : Prop := ∀ j, w.Waits j → Breaker.isOpen cfg w.breaker = false

variable {cfg} {w : MemberLine S}

omit [DecidableEq S] in
lemma Safe.guarded (h : w.Safe cfg) (act : SessionAct S) : w.Guarded cfg act := by
  cases act with
  | connect i ok =>
    intro hi hopen
    cases hp : (w.session i).probe with
    | true => rfl
    | false => rw [h i ⟨Or.inr hi, hp⟩] at hopen; cases hopen
  | _ => exact trivial

lemma waits_put {i j : S} {s : HwcSession} {entry : Option Breaker} {lock : Option S}
    (hs : s.Pending → s.probe = (w.session i).probe ∧ (w.session i).Pending)
    (hj : Waits (MemberLine.put ⟨entry, lock, w.session⟩ i s) j) : w.Waits j := by
  by_cases hji : j = i
  · subst hji
    simp only [Waits, put, Function.update_self] at hj
    obtain ⟨hprobe, hpend⟩ := hs hj.1
    exact ⟨hpend, hprobe.symm.trans hj.2⟩
  · simpa [Waits, put, hji] using hj

lemma Safe.check (h : w.Safe cfg) (i : S) (now : ℚ) : Safe cfg (w.check cfg i now) := by
  intro j hj
  change Breaker.isOpen cfg (Breaker.check cfg now w.breaker).1 = false
  rcases Breaker.check_cases cfg now w.breaker with
    ⟨hsame, ⟨retry, hans⟩ | ⟨-, hclosed⟩⟩ | ⟨-, -, hans, hopen⟩
  · rw [hsame]
    simp only [MemberLine.check, hans] at hj
    exact h j (waits_put (by simp [HwcSession.Pending]) hj)
  · rw [hsame, hclosed]
  · rw [hopen]
    by_cases hji : j = i
    · subst hji
      simp [MemberLine.check, Waits, put, hans] at hj
    · refine h j ?_
      simpa [MemberLine.check, Waits, put, hji] using hj

/-- Every section keeps the breaker closed to sessions on their way, if none is caught
by a record. -/
lemma Safe.step (h : w.Safe cfg) {act : SessionAct S} (hclear : w.Clear cfg act) :
    Safe cfg (w.step cfg act) := by
  cases act with
  | check i now =>
    simp only [MemberLine.step]
    split
    · exact h.check i now
    · exact h
  | leave i =>
    simp only [MemberLine.step]
    split
    · exact h
    · exact fun j hj => h j (waits_put (by simp [HwcSession.Pending]) hj)
  | acquire i =>
    simp only [MemberLine.step]
    split
    case isTrue hi =>
      intro j hj
      refine h j (waits_put ?_ hj)
      exact fun _ => ⟨rfl, .inl hi.1⟩
    case isFalse => exact h
  | connect i ok =>
    simp only [MemberLine.step]
    split
    · exact fun j hj => h j (waits_put (by cases ok <;> simp [HwcSession.Pending]) hj)
    · exact h
  | xack i ok =>
    simp only [MemberLine.step]
    split
    case isTrue hi =>
      exact fun j hj => h j (waits_put (by cases ok <;> simp [HwcSession.Pending, hi.1]) hj)
    case isFalse => exact h
  | command i timeout =>
    simp only [MemberLine.step]
    split
    case isTrue hi =>
      exact fun j hj => h j (waits_put (by simp [HwcSession.Pending, hi.1]) hj)
    case isFalse => exact h
  | release i =>
    simp only [MemberLine.step]
    split
    · exact fun j hj => h j (waits_put (by simp [HwcSession.Pending]) hj)
    · exact h
  | record i now =>
    intro j hj
    have hwaits : w.Waits j := by
      simp only [MemberLine.step] at hj
      split at hj
      · exact waits_put (by simp [HwcSession.Pending]) hj
      · exact hj
    grind

lemma Inv.exists_unguarded (h : w.Inv) {j : S} (hj : w.Waits j)
    (hopen : Breaker.isOpen cfg w.breaker) :
    ∃ acts, ¬ Along (MemberLine.step cfg) (Guarded cfg) w acts := by
  obtain ⟨hstage | hstage, hprobe⟩ := hj
  · cases hlock : w.lock with
    | none =>
      refine ⟨[.acquire j, .connect j true], fun hrun => ?_⟩
      have hg := hrun.2.1
      simp [Guarded, MemberLine.step, put, hstage, hlock, hopen, hprobe] at hg
    | some k =>
      -- the holder returns and gives the lock back; it has nothing recorded yet
      have hkj : j ≠ k := by grind [HwcSession.MayHold]
      have hk : ¬ ((w.session k).stage = .released ∨ (w.session k).stage = .closed) := by
        rcases h.held k hlock with e | e | e <;> simp [e]
      refine ⟨[.leave k, .release k, .acquire j, .connect j true], fun hrun => ?_⟩
      have hg := hrun.2.2.2.1
      simp [Guarded, MemberLine.step, put, hk, hkj, hstage, hlock, hopen, hprobe] at hg
  · refine ⟨[.connect j true], fun hrun => ?_⟩
    have hg := hrun.1 hstage hopen
    rw [hprobe] at hg
    cases hg

variable (cfg)

/-- In every interleaving of sessions the probe is held at most once and the flag says
whether it is held.  No session but the probe connects while the breaker is open, as
long as no record opens it before the eyes of a session on its way; and whenever one
does, the session can go on to connect. -/
theorem probe_once_and_guarded (acts : List (SessionAct S)) :
    ProbeOnce (run (MemberLine.step cfg) {} acts) ∧
      (Along (MemberLine.step cfg) (Clear cfg) {} acts →
        Along (MemberLine.step cfg) (Guarded cfg) {} acts) ∧
      ∀ act, ¬ Clear cfg (run (MemberLine.step cfg) {} acts) act →
        ∃ more, ¬ Along (MemberLine.step cfg) (Guarded cfg) {} (acts ++ act :: more) := by
  have hstep : ∀ (w : MemberLine S) (act : SessionAct S), w.Inv → (w.step cfg act).Inv :=
    fun w act h => h.step cfg act
  have hinv : ∀ acts : List (SessionAct S), Inv (run (step cfg) {} acts) :=
    fun acts => run_of_step (step cfg) hstep acts {} Inv.initial
  refine ⟨(hinv acts).probeOnce, ?_, ?_⟩
  · refine along_invariant (step cfg) (fun _ _ (hsafe : Safe cfg _) hclear => hsafe.step hclear)
      (fun _ act hsafe _ => hsafe.guarded act) acts _ ?_
    rintro j ⟨hpend | hpend, -⟩ <;> cases hpend
  · intro act hcaught
    have hmid := hinv (acts ++ [act])
    rw [run_append] at hmid
    cases act with
    | record i now =>
      simp only [Clear, not_forall] at hcaught
      obtain ⟨hopen, j, hpend, hnot⟩ := hcaught
      have hprobe := Bool.eq_false_iff.mpr hnot
      have hwaits : Waits (step cfg (run (step cfg) {} acts)
          (.record i now)) j := by
        simp only [step]
        split
        case isTrue hi =>
          have hji : j ≠ i := by
            rintro rfl
            simp [HwcSession.Pending, hi] at hpend
          simpa [Waits, put, hji] using ⟨hpend, hprobe⟩
        case isFalse => exact ⟨hpend, hprobe⟩
      obtain ⟨more, hmore⟩ := hmid.exists_unguarded hwaits hopen
      refine ⟨more, fun hrun => hmore ?_⟩
      rw [along_append] at hrun
      exact hrun.2.2
    | _ => exact absurd trivial hcaught

def failed (i : Fin 4) : List (SessionAct (Fin 4)) :=
  [.acquire i, .connect i false, .release i, .record i 0]

/-- Two sessions fail one after the other; of the next two, both past the breaker, the
first fails as well, and the other one gets the lock after it. -/
def lateConnect : List (SessionAct (Fin 4)) :=
  [.check 0 0] ++ failed 0 ++ [.check 1 0] ++ failed 1 ++ [.check 2 0, .check 3 0] ++ failed 2 ++
    [.acquire 3, .connect 3 true]

/-- The last session is connected although the breaker was open when it got the lock,
and it is not the probe. -/
theorem connected_while_open :
    let w := run (MemberLine.step {}) ({} : MemberLine (Fin 4)) lateConnect
    Breaker.isOpen {} w.breaker ∧ (w.session 3).stage = .linked ∧ (w.session 3).probe = false ∧
      ¬ Along (MemberLine.step {}) (Guarded {}) ({} : MemberLine (Fin 4)) lateConnect := by decide

end MemberLine

end HeimdallDaq.Federation
