/-
  Active/Retune.lean --- `active_timing.retune` and the coherence generation.

  A retune tunes RX and TX without a bump of the generation each, waits for the LOs to
  lock and then bumps once if one of the tunes asks for it.
-/
import HeimdallDaq.Active.Backend

namespace HeimdallDaq.Active

open Foundation List Backend

variable {δ : Type} [DecidableEq δ]

/-- `direction` of a retune. -/
inductive Which
  | rx | tx | both
  deriving DecidableEq

/-- The fields of a `CoherencePlan` that a retune reads. -/
structure Plan where
  timedTune : Bool
  commandLeadS : ℚ

structure RetuneAnswer (δ : Type) where
  txBlocked : Option Bool := some false
  /-- `time_now` of the master, for the command time -/
  timeNow : Option ℚ := some 0
  setCommand : Bool := true
  tunes : Direction → Backend.TuneAnswer δ
  clearCommand : Bool := true
  /-- `lo_locked` of the sensors in each poll -/
  locked : ℕ → δ → Option Bool := fun _ _ => some true
  elsewhere : ℕ := 0
  rxStop : Bool := true
  /-- `time_now` of the master, for the restart -/
  restartTime : Bool := true
  rxStart : Bool := true

inductive RetuneError
  | early (stop : Stop)
  | restart (stop : Stop)
  deriving DecidableEq

structure Tuned (δ : Type) where
  backend : Backend δ
  reports : List (Backend.TuneReport δ)
  stop : Option Stop

/-- The outcome of a retune; `performed` are the reports of the tunes that were done. -/
structure Retuned (δ : Type) where
  backend : Backend δ
  performed : List (Backend.TuneReport δ)
  result : Except RetuneError (List (Backend.TuneReport δ))

section Definitions

variable (cfg : Config δ) (plan : Plan) (freq lo : PyFloat) (a : RetuneAnswer δ)

def tuneAll (timed : Bool) : List Direction → Backend δ → Tuned δ
  | [], b => ⟨b, [], none⟩
  | dir :: dirs, b =>
    let c := b.tune cfg dir freq lo timed false (a.tunes dir)
    match c.result with
    | .error stop => ⟨c.backend, [], some stop⟩
    | .ok report =>
      let rest := tuneAll timed dirs c.backend
      ⟨rest.backend, report :: rest.reports, rest.stop⟩

variable (dirs : List Direction)

def tuneInWindow (b : Backend δ) : Tuned δ :=
  if b.reached cfg .open = false then ⟨b, [], some .backend⟩
  else
    match a.timeNow with
    | none => ⟨b, [], some .hook⟩
    | some now =>
      let w := b.setCommandTime cfg (now + plan.commandLeadS) none a.setCommand
      match w.result with
      | .error stop => ⟨w.backend, [], some stop⟩
      | .ok () =>
        let t := tuneAll cfg freq lo a true dirs w.backend
        let c := t.backend.clearCommandTime cfg none a.clearCommand
        match c.result with
        | .error stop => ⟨c.backend, t.reports, some stop⟩
        | .ok () => ⟨c.backend, t.reports, t.stop⟩

def tunePart (b : Backend δ) : Tuned δ :=
  if dirs ≠ [] ∧ plan.timedTune = true then tuneInWindow cfg plan freq lo a dirs b
  else tuneAll cfg freq lo a false dirs b

variable (reports : List (Backend.TuneReport δ))

def unlocked : List δ :=
  (reports.flatMap fun r =>
    ((r.refs.zip r.loLocked).filter fun c => c.2 = false).map (·.1)).dedup

def stillUnlocked (locked : δ → Option Bool) : List δ → Except Stop (List δ)
  | [] => .ok []
  | d :: devices =>
    match locked d with
    | none => .error .hook
    | some l => (stillUnlocked locked devices).map fun rest => if l then rest else d :: rest

def lockPolls : ℕ := 100

def pollLocks (locked : ℕ → δ → Option Bool) : ℕ → ℕ → List δ → Except Stop (List δ)
  | 0, _, devices => .ok devices
  | polls + 1, i, devices =>
    match stillUnlocked (locked i) devices with
    | .error stop => .error stop
    | .ok [] => .ok []
    | .ok (d :: rest) => pollLocks locked polls (i + 1) (d :: rest)

def lockPart : Option Stop :=
  if reports.all fun r => r.loLocked.all (· = true) then none
  else
    match pollLocks a.locked lockPolls 0 (unlocked reports) with
    | .error stop => some stop
    | .ok [] => none
    | .ok (_ :: _) => some .loLock

def bumpPart (gen0 : ℕ) (reports : List (Backend.TuneReport δ)) (b : Backend δ) : Backend δ :=
  let band := reports.any (·.bandChange)
  let need := reports.any Backend.tuneNeedsBump
  if (need || band) && decide (b.generation = gen0) then b.bump else b

def restartPart (b : Backend δ) : Called δ Unit :=
  if b.phase cfg = .streaming ∧ reports.any (fun r => r.dir = .rx) = true then
    let c := b.rxStop a.rxStop
    match c.result with
    | .error stop => ⟨c.backend, [], .error stop⟩
    | .ok () =>
      if a.restartTime then c.backend.rxStart cfg true a.rxStart else c.backend.refuse .hook
  else ⟨b, [], .ok ()⟩

def untunedTx : Backend.TuneReport δ where
  dir := .tx
  refs := cfg.refs .tx
  timed := false
  phaseState := .untuned
  loLocked := []
  bandChange := false
  phaseClassChanged := false

def directions (which : Which) : List Direction :=
  [Direction.rx, .tx].filter fun dir =>
    (match which, dir with
      | .both, _ => true
      | .rx, .rx => true
      | .tx, .tx => true
      | _, _ => false) && !(cfg.refs dir).isEmpty

def retuneFrom (dirs : List Direction) (b : Backend δ) : Retuned δ :=
  let t := tunePart cfg plan freq lo a dirs b
  let now := { t.backend with generation := t.backend.generation + a.elsewhere }
  match t.stop with
  | some stop => ⟨now, t.reports, .error (.early stop)⟩
  | none =>
    match lockPart a t.reports with
    | some stop => ⟨now, t.reports, .error (.early stop)⟩
    | none =>
      let c := restartPart cfg a t.reports (bumpPart b.generation t.reports now)
      match c.result with
      | .error stop => ⟨c.backend, t.reports, .error (.restart stop)⟩
      | .ok () => ⟨c.backend, t.reports, .ok (reports ++ t.reports)⟩

@[local grind]
def retune (which : Which) (b : Backend δ) : Retuned δ :=
  let dirs := directions cfg which
  if Direction.tx ∈ dirs then
    match a.txBlocked with
    | none => ⟨b, [], .error (.early .hook)⟩
    | some true => retuneFrom cfg plan freq lo a [untunedTx cfg] (dirs.filter (· ≠ .tx)) b
    | some false => retuneFrom cfg plan freq lo a [] dirs b
  else retuneFrom cfg plan freq lo a [] dirs b

end Definitions

/-! ## When every step before the bump succeeds -/

namespace RetuneAnswer

/-- The tune of a direction is let through and its hook reports. -/
def Tunes (a : RetuneAnswer δ) (dir : Direction) : Prop :=
  (dir = .tx → (a.tunes dir).quiet = true) ∧ (a.tunes dir).hook.isSome

/-- The LO of a device is seen locked in one of the polls, and its sensors can be read until
then. -/
def Locks (a : RetuneAnswer δ) (d : δ) : Prop :=
  ∃ i < lockPolls, a.locked i d = some true ∧ ∀ j < i, a.locked j d = some false

/-- What is still to come after the first tune answers: the other tunes, the end of the command
window, and the sensors of the devices whose LO a tune reported unlocked. -/
def Completes (a : RetuneAnswer δ) (plan : Plan) (dirs : List Direction) : Prop :=
  (∀ dir ∈ dirs, a.Tunes dir) ∧ (plan.timedTune = true → a.clearCommand = true) ∧
    ∀ dir ∈ dirs, ∀ raw ∈ (a.tunes dir).hook, ∀ d,
      (d, false) ∈ raw.refs.zip raw.loLocked → a.Locks d

end RetuneAnswer

/-- What the calls of a retune before the bump leave alone. -/
structure Untouched (b b' : Backend δ) : Prop where
  generation : b'.generation = b.generation
  isOpen : b'.isOpen = b.isOpen
  streaming : b'.streaming = b.streaming
  clockSet : b'.clockSet = b.clockSet
  timeSrcSet : b'.timeSrcSet = b.timeSrcSet

section Steps

variable (cfg : Config δ) (plan : Plan) (freq lo : PyFloat) (a : RetuneAnswer δ) {b b' : Backend δ}

omit [DecidableEq δ] in
lemma Untouched.refl (b : Backend δ) : Untouched b b := ⟨rfl, rfl, rfl, rfl, rfl⟩

omit [DecidableEq δ] in
lemma Untouched.trans {b'' : Backend δ} (h : Untouched b b') (h' : Untouched b' b'') :
    Untouched b b'' :=
  ⟨h'.1.trans h.1, h'.2.trans h.2, h'.3.trans h.3, h'.4.trans h.4, h'.5.trans h.5⟩

lemma reached_open : b.reached cfg .open = b.isOpen := by
  unfold reached phase
  cases b.isOpen <;> cases b.streaming <;> simp [Phase.rank]
  split_ifs <;> simp

lemma reached_refsSet : b.reached cfg .refsSet = (b.isOpen && (b.streaming || b.refsOk cfg)) := by
  unfold reached phase
  cases b.isOpen <;> cases b.streaming <;> cases b.refsOk cfg <;> simp [Phase.rank]
  split_ifs <;> simp

lemma Untouched.refsSet (h : Untouched b b') :
    b'.reached cfg .refsSet = b.reached cfg .refsSet := by
  simp only [reached_refsSet, refsOk, h.isOpen, h.streaming, h.clockSet, h.timeSrcSet]

lemma setCommandTime_untouched (t : ℚ) (device : Option δ) (hook : Bool) :
    Untouched b (b.setCommandTime cfg t device hook).backend := by
  unfold setCommandTime
  repeat' split
  all_goals exact ⟨rfl, rfl, rfl, rfl, rfl⟩

lemma clearCommandTime_untouched (device : Option δ) (hook : Bool) :
    Untouched b (b.clearCommandTime cfg device hook).backend := by
  unfold clearCommandTime
  repeat' split
  all_goals exact ⟨rfl, rfl, rfl, rfl, rfl⟩

lemma tune_untouched (dir : Direction) (timed : Bool) (answer : Backend.TuneAnswer δ) :
    Untouched b (b.tune cfg dir freq lo timed false answer).backend := by
  unfold tune
  repeat' split
  all_goals exact ⟨rfl, rfl, rfl, rfl, rfl⟩

lemma tune_ok_iff (dir : Direction) (timed : Bool) :
    (∃ report, (b.tune cfg dir freq lo timed false (a.tunes dir)).result = .ok report) ↔
      a.Tunes dir ∧ b.reached cfg .refsSet ∧ (Backend.usableFreq freq lo).isSome := by
  unfold tune RetuneAnswer.Tunes
  split_ifs with hquiet hready
  · refine iff_of_false (fun ⟨_, h⟩ => nomatch h) fun h => ?_
    have hloud := h.1.1 hquiet.1
    rw [hquiet.2] at hloud
    cases hloud
  · simp [refuse, hready]
  · cases usableFreq freq lo <;> cases (a.tunes dir).hook <;> simp_all [refuse]

lemma tune_report {dir : Direction} {timed : Bool} {report : Backend.TuneReport δ}
    (h : (b.tune cfg dir freq lo timed false (a.tunes dir)).result = .ok report) :
    ∃ raw, (a.tunes dir).hook = some raw ∧ report.refs = raw.refs ∧
      report.loLocked = raw.loLocked := by
  unfold tune at h
  split_ifs at h
  · cases h
  · cases h
  · split at h
    · cases h
    split at h
    · cases h
    next raw hraw =>
      cases h
      exact ⟨raw, hraw, rfl, rfl⟩

lemma tuneAll_untouched (timed : Bool) (dirs : List Direction) :
    ∀ b : Backend δ, Untouched b (tuneAll cfg freq lo a timed dirs b).backend := by
  induction dirs with
  | nil => exact Untouched.refl
  | cons dir dirs ih =>
    intro b
    have htune := tune_untouched (b := b) cfg freq lo dir timed (a.tunes dir)
    unfold tuneAll
    simp only
    split
    · exact htune
    · exact htune.trans (ih _)

lemma tuneAll_stop (hfreq : (Backend.usableFreq freq lo).isSome) (timed : Bool)
    (dirs : List Direction) : ∀ b : Backend δ, b.reached cfg .refsSet →
      ((tuneAll cfg freq lo a timed dirs b).stop = none ↔ ∀ dir ∈ dirs, a.Tunes dir) := by
  induction dirs with
  | nil => exact fun _ _ => ⟨fun _ => nofun, fun _ => rfl⟩
  | cons dir dirs ih =>
    intro b hready
    have hok := tune_ok_iff (b := b) cfg freq lo a dir timed
    have hkept := tune_untouched (b := b) cfg freq lo dir timed (a.tunes dir)
    rw [and_iff_left ⟨hready, hfreq⟩] at hok
    rw [forall_mem_cons, ← hok]
    unfold tuneAll
    simp only
    cases hresult : (b.tune cfg dir freq lo timed false (a.tunes dir)).result with
    | error stop => simp
    | ok report =>
      rw [← hkept.refsSet cfg] at hready
      simpa using ih _ hready

/-- A tune was done: the backend has its references and the frequency is usable. -/
lemma ready_of_tuneAll {timed : Bool} {dirs : List Direction}
    (h : (tuneAll cfg freq lo a timed dirs b).reports ≠ []) :
    b.reached cfg .refsSet ∧ (Backend.usableFreq freq lo).isSome := by
  cases dirs with
  | nil => exact absurd rfl h
  | cons dir dirs =>
    unfold tuneAll at h
    cases hresult : (b.tune cfg dir freq lo timed false (a.tunes dir)).result with
    | error stop => simp [hresult] at h
    | ok report => exact ((tune_ok_iff cfg freq lo a dir timed).mp ⟨report, hresult⟩).2

variable {reports : List (Backend.TuneReport δ)} {d : δ}

lemma mem_unlocked : d ∈ unlocked reports ↔ ∃ r ∈ reports, (d, false) ∈ r.refs.zip r.loLocked := by
  simp [unlocked]

lemma tuneAll_unlocked (timed : Bool) (dirs : List Direction) : ∀ b : Backend δ,
    (tuneAll cfg freq lo a timed dirs b).stop = none →
      (d ∈ unlocked (tuneAll cfg freq lo a timed dirs b).reports ↔
        ∃ dir ∈ dirs, ∃ raw ∈ (a.tunes dir).hook, (d, false) ∈ raw.refs.zip raw.loLocked) := by
  simp only [mem_unlocked]
  induction dirs with
  | nil => exact fun _ _ => by simp [tuneAll]
  | cons dir dirs ih =>
    intro b hstop
    unfold tuneAll at hstop ⊢
    cases hresult : (b.tune cfg dir freq lo timed false (a.tunes dir)).result with
    | error stop => simp [hresult] at hstop
    | ok report =>
      obtain ⟨raw, hraw, hrefs, hlocked⟩ := tune_report cfg freq lo a hresult
      simp only [hresult] at hstop ⊢
      rw [exists_mem_cons_iff, exists_mem_cons_iff, ih _ hstop, hraw, hrefs, hlocked]
      simp

lemma tuneInWindow_eq {dirs : List Direction} {b : Backend δ}
    (h : (tuneInWindow cfg plan freq lo a dirs b).reports ≠ []) :
    ∃ b', (tuneInWindow cfg plan freq lo a dirs b).reports =
        (tuneAll cfg freq lo a true dirs b').reports ∧
      ((tuneInWindow cfg plan freq lo a dirs b).stop = none ↔
        (tuneAll cfg freq lo a true dirs b').stop = none ∧ a.clearCommand = true) := by
  unfold tuneInWindow at h ⊢
  split at h
  · exact absurd rfl h
  next hopen =>
    rw [if_neg hopen]
    cases hnow : a.timeNow with
    | none => simp [hnow] at h
    | some now =>
      simp only [hnow] at h ⊢
      have hset := setCommandTime_untouched (b := b) cfg (now + plan.commandLeadS) none a.setCommand
      cases hw : (b.setCommandTime cfg (now + plan.commandLeadS) none a.setCommand).result with
      | error stop => simp [hw] at h
      | ok u =>
        set w := (b.setCommandTime cfg (now + plan.commandLeadS) none a.setCommand).backend
        have hall := hset.trans (tuneAll_untouched cfg freq lo a true dirs w)
        have hreached : (tuneAll cfg freq lo a true dirs w).backend.reached cfg .open = true := by
          rw [reached_open, hall.isOpen, ← reached_open cfg]
          simpa using hopen
        refine ⟨w, ?_⟩
        cases hclear : a.clearCommand <;> simp [clearCommandTime, hreached, Config.devs, refuse]

lemma tuneInWindow_untouched (dirs : List Direction) (b : Backend δ) :
    Untouched b (tuneInWindow cfg plan freq lo a dirs b).backend := by
  unfold tuneInWindow
  split
  · exact .refl b
  split
  · exact .refl b
  next now _ =>
    have hset := setCommandTime_untouched (b := b) cfg (now + plan.commandLeadS) none a.setCommand
    simp only
    split
    · exact hset
    · have hall := hset.trans (tuneAll_untouched cfg freq lo a true dirs _)
      split <;> exact hall.trans (clearCommandTime_untouched cfg none a.clearCommand)

lemma tunePart_generation (dirs : List Direction) (b : Backend δ) :
    (tunePart cfg plan freq lo a dirs b).backend.generation = b.generation := by
  unfold tunePart
  split
  · exact (tuneInWindow_untouched cfg plan freq lo a dirs b).generation
  · exact (tuneAll_untouched cfg freq lo a false dirs b).generation

omit [DecidableEq δ] in
lemma stillUnlocked_eq (locked : δ → Option Bool) (devices : List δ) :
    stillUnlocked locked devices = if ∀ d ∈ devices, (locked d).isSome then
      .ok (devices.filter fun d => locked d = some false) else .error .hook := by
  induction devices with
  | nil => rfl
  | cons d devices ih =>
    rw [stillUnlocked, ih]
    cases hd : locked d with
    | none => simp [hd]
    | some l =>
      by_cases h : ∀ d ∈ devices, (locked d).isSome
      · rw [if_pos h, if_pos (forall_mem_cons.mpr ⟨by simp [hd], h⟩)]
        cases l <;> simp [Except.map, hd]
      · rw [if_neg h, if_neg fun hall => h (forall_mem_cons.mp hall).2]
        rfl

omit [DecidableEq δ] in
lemma pollLocks_nil (locked : ℕ → δ → Option Bool) (polls i : ℕ) :
    pollLocks locked polls i [] = .ok [] := by cases polls <;> rfl

omit [DecidableEq δ] in
lemma pollLocks_iff (locked : ℕ → δ → Option Bool) (polls : ℕ) : ∀ (i : ℕ) (devices : List δ),
    pollLocks locked polls i devices = .ok [] ↔
      ∀ d ∈ devices, ∃ j < polls, locked (i + j) d = some true ∧
        ∀ k < j, locked (i + k) d = some false := by
  induction polls with
  | zero =>
    intro i devices
    cases devices with
    | nil => simp [pollLocks]
    | cons d devices => exact iff_of_false (fun h => nomatch h) fun h => by simpa using h d mem_cons_self
  | succ polls ih =>
    intro i devices
    -- what the first of the polls sees of a device
    have hfirst : ∀ d, (∃ j < polls + 1, locked (i + j) d = some true ∧
        ∀ k < j, locked (i + k) d = some false) ↔ locked i d = some true ∨
          locked i d = some false ∧ ∃ j < polls, locked (i + 1 + j) d = some true ∧
            ∀ k < j, locked (i + 1 + k) d = some false := by
      intro d
      simp only [Nat.exists_lt_succ_left, Nat.forall_lt_succ_left, Nat.not_lt_zero, false_imp_iff,
        implies_true, and_true, Nat.add_zero, Nat.add_assoc, Nat.add_comm 1]
      grind
    simp only [hfirst, pollLocks, stillUnlocked_eq]
    by_cases hseen : ∀ d ∈ devices, (locked i d).isSome
    · have hagain := ih (i + 1) (devices.filter fun d => locked i d = some false)
      simp only [mem_filter, decide_eq_true_eq] at hagain
      rw [if_pos hseen]
      trans pollLocks locked polls (i + 1) (devices.filter fun d => locked i d = some false) = .ok []
      · generalize devices.filter _ = rest
        cases rest with
        | nil => exact iff_of_true rfl (pollLocks_nil ..)
        | cons d rest => exact Iff.rfl
      · refine hagain.trans (forall_congr' fun d => ?_)
        have hsome := hseen d
        cases hd : locked i d with
        | none => simpa [hd] using hsome
        | some l => cases l <;> simp
    · rw [if_neg hseen]
      refine iff_of_false (fun h => nomatch h) fun h => hseen fun d hd => ?_
      rcases h d hd with hd | ⟨hd, -⟩ <;> simp [hd]

lemma lockPart_eq_none : lockPart a reports = none ↔ ∀ d ∈ unlocked reports, a.Locks d := by
  have hpolls := pollLocks_iff a.locked lockPolls 0 (unlocked reports)
  simp only [Nat.zero_add] at hpolls
  unfold lockPart RetuneAnswer.Locks
  rw [← hpolls]
  split
  next hlocked =>
    refine iff_of_true rfl (hpolls.mpr fun d hd => ?_)
    obtain ⟨r, hr, hpair⟩ := mem_unlocked.mp hd
    have hall := all_eq_true.mp (all_eq_true.mp hlocked r hr) _ (of_mem_zip hpair).2
    cases hall
  · cases pollLocks a.locked lockPolls 0 (unlocked reports) with
    | error stop => simp
    | ok devices => cases devices <;> simp

end Steps

/-! ## The generation -/

section Generation

variable (cfg : Config δ) (plan : Plan) (freq lo : PyFloat) (a : RetuneAnswer δ) (b : Backend δ)
variable (dirs : List Direction) (reports : List (Backend.TuneReport δ))

/-- After a tune, nothing raises before the bump exactly when all later answers are there. -/
lemma completes_iff (h : (tunePart cfg plan freq lo a dirs b).reports ≠ []) :
    (tunePart cfg plan freq lo a dirs b).stop = none ∧
        lockPart a (tunePart cfg plan freq lo a dirs b).reports = none ↔
      a.Completes plan dirs := by
  have hall : ∀ timed b', (tuneAll cfg freq lo a timed dirs b').reports ≠ [] →
      ((tuneAll cfg freq lo a timed dirs b').stop = none ∧
          lockPart a (tuneAll cfg freq lo a timed dirs b').reports = none ↔
        (∀ dir ∈ dirs, a.Tunes dir) ∧ ∀ dir ∈ dirs, ∀ raw ∈ (a.tunes dir).hook, ∀ d,
          (d, false) ∈ raw.refs.zip raw.loLocked → a.Locks d) := by
    intro timed b' hreports
    obtain ⟨hready, hfreq⟩ := ready_of_tuneAll cfg freq lo a hreports
    have hstop := tuneAll_stop cfg freq lo a hfreq timed dirs b' hready
    rw [hstop, lockPart_eq_none]
    refine and_congr_right fun htunes => ?_
    have hunlocked := fun d =>
      tuneAll_unlocked (d := d) cfg freq lo a timed dirs b' (hstop.mpr htunes)
    simp only [hunlocked]
    grind
  unfold tunePart at h ⊢
  unfold RetuneAnswer.Completes
  split at h
  next htimed =>
    obtain ⟨b', hreports, hstop⟩ := tuneInWindow_eq cfg plan freq lo a h
    rw [if_pos htimed, hreports, hstop]
    have := hall true b' (hreports ▸ h)
    grind
  next huntimed =>
    rw [if_neg huntimed, hall false b h]
    have hne : dirs ≠ [] := by
      rintro rfl
      exact h rfl
    grind

lemma restartPart_generation (b : Backend δ) :
    (restartPart cfg a reports b).backend.generation = b.generation := by
  have hstop : (b.rxStop a.rxStop).backend.generation = b.generation := by
    unfold rxStop
    split <;> rfl
  have hstart : ∀ b' : Backend δ, (b'.rxStart cfg true a.rxStart).backend.generation =
      b'.generation := by
    intro b'
    unfold rxStart
    split
    · rfl
    · split <;> rfl
  unfold restartPart
  split
  · simp only
    split
    · exact hstop
    · split
      · exact (hstart _).trans hstop
      · exact hstop
  · rfl

omit [DecidableEq δ] in
lemma lt_bumpPart {reports : List (Backend.TuneReport δ)} {b : Backend δ} {gen0 : ℕ}
    (hge : gen0 ≤ b.generation) (hneed : ∃ r ∈ reports, Backend.tuneNeedsBump r) :
    gen0 < (bumpPart gen0 reports b).generation := by
  have hany : reports.any tuneNeedsBump := any_eq_true.mpr hneed
  unfold bumpPart
  simp only [hany, Bool.true_or, Bool.true_and, decide_eq_true_eq]
  split
  · next hsame => exact hsame ▸ Nat.lt_succ_self _
  · next hother => omega

def Retuned.Needs (r : Retuned δ) : Prop := ∃ t ∈ r.performed, Backend.tuneNeedsBump t

lemma retuneFrom_bumps_iff (h : (retuneFrom cfg plan freq lo a reports dirs b).Needs) :
    b.generation < (retuneFrom cfg plan freq lo a reports dirs b).backend.generation ↔
      a.Completes plan dirs ∨ 0 < a.elsewhere := by
  have hgen := tunePart_generation cfg plan freq lo a dirs b
  have hperformed : (retuneFrom cfg plan freq lo a reports dirs b).performed =
      (tunePart cfg plan freq lo a dirs b).reports := by
    unfold retuneFrom
    simp only
    repeat' split
    all_goals rfl
  unfold Retuned.Needs at h
  rw [hperformed] at h
  obtain ⟨r, hr, -⟩ := id h
  rw [← completes_iff cfg plan freq lo a b dirs (ne_nil_of_mem hr)]
  unfold retuneFrom
  generalize tunePart cfg plan freq lo a dirs b = t at hgen h ⊢
  simp only
  cases hstop : t.stop with
  | some stop => simp [hgen]
  | none =>
    cases hlock : lockPart a t.reports with
    | some stop => simp [hgen]
    | none =>
      simp only [and_self, true_or, iff_true]
      have hbump := lt_bumpPart (b := { t.backend with
        generation := t.backend.generation + a.elsewhere }) (hgen.ge.trans (Nat.le_add_right _ _)) h
      have hrestart := restartPart_generation cfg a t.reports (bumpPart b.generation t.reports
        { t.backend with generation := t.backend.generation + a.elsewhere })
      split <;> exact hrestart ▸ hbump

/-- The directions a retune tunes: TX is left out when the policy blocks it. -/
def tunedDirections (which : Which) : List Direction :=
  if a.txBlocked = some true then (directions cfg which).filter (· ≠ .tx)
  else directions cfg which

/-- A retune with a tune that asks for a bump leaves a greater generation behind if and
only if everything between that tune and step 6 answers, or another thread bumped meanwhile. -/
theorem retune_bumps_iff (which : Which) (b : Backend δ) :
    ((retune cfg plan freq lo a which b).Needs →
        b.generation < (retune cfg plan freq lo a which b).backend.generation) ↔
      ((retune cfg plan freq lo a which b).Needs →
        a.Completes plan (tunedDirections cfg a which) ∨ 0 < a.elsewhere) := by
  refine forall_congr' fun hneed => ?_
  unfold retune at hneed ⊢
  unfold tunedDirections
  by_cases htx : Direction.tx ∈ directions cfg which
  · simp only [htx, if_true] at hneed ⊢
    cases hblocked : a.txBlocked with
    | none =>
      simp only [hblocked] at hneed
      obtain ⟨r, hr, -⟩ := hneed
      cases hr
    | some blocked =>
      cases blocked <;> simp only [hblocked] at hneed ⊢ <;>
        exact retuneFrom_bumps_iff cfg plan freq lo a b _ _ hneed
  · have hsame : (directions cfg which).filter (· ≠ .tx) = directions cfg which :=
      filter_eq_self.mpr fun dir hdir => decide_eq_true fun h => htx (h ▸ hdir)
    simp only [htx, if_false, hsame, ite_self] at hneed ⊢
    exact retuneFrom_bumps_iff cfg plan freq lo a b _ _ hneed

end Generation

@[local grind]
def transceiver : Config ℕ where
  devices := [{ name := 0, txChannels := 1 }]
  centerFreqHz := 915000000

def referenced : Backend ℕ where
  isOpen := true
  everOpened := true
  clockSet := {0}
  timeSrcSet := {0}

def lockedReport : Backend.RawReport ℕ where
  refs := [0]
  timed := false
  loLocked := [true]
  bandChange := false
  actualRfHz := []
  actualDspHz := []
  actualCenterHz := []

/-- RX is tuned, then the hook of the TX tune raises: the relative phases are new and the
generation is the old one. -/
theorem rx_tuned_without_bump :
    let r := retune transceiver ⟨false, 0⟩ (.fin 868000000) (.fin 0)
      { tunes := fun
          | .rx => { hook := some lockedReport }
          | .tx => { hook := none } } .both referenced
    r.result = .error (.early .hook) ∧ (r.performed.map tuneNeedsBump) = [true] ∧
      r.backend.generation = referenced.generation := by decide

end HeimdallDaq.Active
