/-
  HwController/Scheduler.lean --- the dynamic signal scheduler.

  `SignalScheduler` steps through the entries of a schedule: it waits for the
  calibration of the current frequency, dwells there for a number of DATA frames and
  then moves on.
-/
import HeimdallDaq.Foundation.Floats
import Mathlib.Data.Fin.Basic

namespace HeimdallDaq.HwController

open Foundation (Json PyError PyFloat)

/-- `FRAME_TYPE_DATA` .. `FRAME_TYPE_TRIGW`, and any other value. -/
inductive FrameType
  | data
  | dummy
  | ramp
  | cal
  | trigw
  | other
  deriving DecidableEq

/-- The header fields hw_controller reads, for `M` channels. -/
structure IqHeader (M : ℕ) where
  frameType : FrameType
  noiseSourceState : ℕ
  syncState : ℕ
  rfCenterFreq : ℕ
  ifGains : Fin M → ℤ
  adcOverdriveFlags : ℕ

/-! ## Schedules -/

structure ScheduleEntry where
  frequency : ℤ
  /-- Tenths of dB per channel, as the document has them; `none` for no change. -/
  gains : Option Json := none
  dwellFrames : ℤ := 100
  requireCal : Bool := true

/-- `repeat_mode`; any other text leaves the index where it is. -/
inductive RepeatMode
  | loop
  | once
  | pingpong
  | other
  deriving DecidableEq

/-- What `ScheduleParser.from_json` reads, with the document's `gen` and the dwell times
already in frames: `load_schedule` converts them before it touches the scheduler. -/
structure ScheduleDoc where
  name : Json
  entries : List ScheduleEntry
  repeatMode : RepeatMode := .loop
  gen : Option ℕ := none

/-- The log line of `load_schedule` formats the name, which raises unless it is a text. -/
def ScheduleDoc.logged (doc : ScheduleDoc) : Bool := doc.name.formatText.isOk

/-- `Schedule` once it was loaded. -/
structure Schedule where
  name : Json
  entries : List ScheduleEntry
  repeatMode : RepeatMode
  active : Bool
  currentIndex : Fin entries.length
  framesAtCurrent : ℤ

variable (s : Schedule)

def Schedule.entry : ScheduleEntry := s.entries.get s.currentIndex

/-- `STATE_IDLE`, `STATE_DWELLING`, `STATE_WAITING_CAL`. -/
inductive SchedulerState
  | idle
  | dwelling
  | waitingCal
  deriving DecidableEq

/-- The state in the database; its name is null when there is no schedule. -/
structure Persisted where
  name : Json
  currentIndex : ℤ
  active : Bool

/-- The timing `frames_for_seconds` converts with. -/
structure Timing where
  sampleRate : ℕ := 2400000
  cpiSize : ℕ := 1048576
  decimationRatio : ℕ := 1

/-- `SignalScheduler`; `max_cal_wait_frames` is a setting of the ini file. -/
structure Scheduler where
  schedule : Option Schedule := none
  state : SchedulerState := .idle
  calWaitCounter : ℕ := 0
  pingpongForward : Bool := true
  pendingRetune : Bool := false
  db : Option (Option Persisted) := none
  maxCalWaitFrames : ℤ := 500

namespace Timing

def frameTime (t : Timing) : Except PyError PyFloat := do
  let rate ← PyFloat.ofInt t.sampleRate
  let samples ← PyFloat.ofInt (t.cpiSize * t.decimationRatio)
  samples.div rate

def framesForSeconds (t : Timing) (seconds : PyFloat) : Except PyError ℤ := do
  let frameTime ← t.frameTime
  let frames ← seconds.div frameTime
  let n ← frames.roundToInt
  pure (max 1 n)

end Timing

namespace Scheduler

variable (s : Scheduler)

def persistState : Scheduler :=
  match s.db with
  | none => s
  | some _ =>
    let position : Persisted :=
      match s.schedule with
      | none => ⟨.null, 0, false⟩
      | some sched => ⟨sched.name, sched.currentIndex, sched.active⟩
    { s with db := some (some position) }

/-- The index `_restore_state` resumes at: that of an active schedule of the same
name, if it is still in range. -/
def resumeIndex (sched : Schedule) : Option (Fin sched.entries.length) :=
  match s.db with
  | some (some p) =>
    if p.name.same sched.name ∧ p.active ∧ 0 ≤ p.currentIndex then
      if h : p.currentIndex.toNat < sched.entries.length then some ⟨_, h⟩ else none
    else none
  | _ => none

/-- `load_schedule` up to its log line. -/
def activate (doc : ScheduleDoc) (s : Scheduler) : Scheduler :=
  match doc.entries with
  | [] => s
  | first :: rest =>
    let sched : Schedule :=
      { name := doc.name
        entries := first :: rest
        repeatMode := doc.repeatMode
        active := true
        currentIndex := ⟨0, by simp⟩
        framesAtCurrent := 0 }
    let s' : Scheduler :=
      { s with
        schedule := some sched
        state := .waitingCal
        calWaitCounter := 0
        pingpongForward := true
        pendingRetune := false }
    match s.resumeIndex sched with
    | some i => { s' with schedule := some { sched with currentIndex := i }, pendingRetune := true }
    | none => s'

/-- `load_schedule`.  Where the log line raises, the schedule is active and not persisted. -/
def loadSchedule (doc : ScheduleDoc) (s : Scheduler) : Scheduler :=
  if doc.entries ≠ [] ∧ doc.logged then (s.activate doc).persistState else s.activate doc

@[simp] lemma persistState_schedule : s.persistState.schedule = s.schedule := by
  unfold persistState
  split <;> rfl

@[simp] lemma persistState_state : s.persistState.state = s.state := by
  unfold persistState
  split <;> rfl

@[simp] lemma persistState_pendingRetune : s.persistState.pendingRetune = s.pendingRetune := by
  unfold persistState
  split <;> rfl

@[simp] lemma persistState_pingpongForward :
    s.persistState.pingpongForward = s.pingpongForward := by
  unfold persistState
  split <;> rfl

variable (doc : ScheduleDoc)

@[simp] lemma loadSchedule_schedule :
    (s.loadSchedule doc).schedule = (s.activate doc).schedule := by
  unfold loadSchedule
  split <;> simp

@[simp] lemma loadSchedule_state : (s.loadSchedule doc).state = (s.activate doc).state := by
  unfold loadSchedule
  split <;> simp

@[simp] lemma loadSchedule_pendingRetune :
    (s.loadSchedule doc).pendingRetune = (s.activate doc).pendingRetune := by
  unfold loadSchedule
  split <;> simp

@[simp] lemma loadSchedule_pingpongForward :
    (s.loadSchedule doc).pingpongForward = (s.activate doc).pingpongForward := by
  unfold loadSchedule
  split <;> simp

def clearSchedule : Scheduler :=
  { s with schedule := none, state := .idle, calWaitCounter := 0, pendingRetune := false }.persistState

end Scheduler

def Schedule.next? : Option (Fin s.entries.length) :=
  if h : s.currentIndex.val + 1 < s.entries.length then some ⟨_, h⟩ else none

def Schedule.prev? : Option (Fin s.entries.length) :=
  if s.currentIndex.val = 0 then none else
    some ⟨s.currentIndex.val - 1, lt_of_le_of_lt (Nat.sub_le _ _) s.currentIndex.isLt⟩

def Schedule.moveTo : Option (Fin s.entries.length) → Schedule
  | some i => { s with currentIndex := i }
  | none => { s with active := false }

def Schedule.advanceIndex (forward : Bool) : Schedule × Bool :=
  match s.repeatMode with
  | .loop =>
    ({ s with currentIndex := ⟨(s.currentIndex.val + 1) % s.entries.length,
        Nat.mod_lt _ (lt_of_le_of_lt (Nat.zero_le _) s.currentIndex.isLt)⟩ }, forward)
  | .once => (s.moveTo s.next?, forward)
  | .pingpong =>
    if forward then
      match s.next? with
      | some i => (s.moveTo (some i), true)
      | none => (s.moveTo s.prev?, false)
    else
      match s.prev? with
      | some i => (s.moveTo (some i), false)
      | none => (s.moveTo s.next?, true)
  | .other => (s, forward)

namespace Scheduler

def skipToNext (s : Scheduler) : Scheduler :=
  match s.schedule with
  | none => s
  | some sched =>
    if sched.active then
      let r := sched.advanceIndex s.pingpongForward
      { s with
        schedule := some { r.1 with framesAtCurrent := 0 }
        pingpongForward := r.2
        state := .waitingCal
        calWaitCounter := 0 }.persistState
    else s

/-- `_do_transition`: the scheduler afterwards and the frequency to tune to, if
the schedule goes on. -/
def doTransition (sched : Schedule) (s : Scheduler) : Scheduler × Option ℤ :=
  let r := sched.advanceIndex s.pingpongForward
  if r.1.active then
    ({ s with
        schedule := some { r.1 with framesAtCurrent := 0 }
        pingpongForward := r.2
        state := .waitingCal
        calWaitCounter := 0 }.persistState, some r.1.entry.frequency)
  else
    ({ s with schedule := some r.1, pingpongForward := r.2, state := .idle }.persistState, none)

def tick {M : ℕ} (hdr : IqHeader M) (s : Scheduler) : Scheduler × Option ℤ :=
  match s.schedule with
  | none => (s, none)
  | some sched =>
    if sched.active = false ∨ s.state = .idle then (s, none)
    -- no transition during an active calibration burst, as the header has it
    else if hdr.noiseSourceState = 1 then (s, none)
    else if s.pendingRetune then
      ({ s with
          pendingRetune := false
          schedule := some { sched with framesAtCurrent := 0 }
          state := .waitingCal
          calWaitCounter := 0 }, some sched.entry.frequency)
    else
      match s.state with
      | .waitingCal =>
        if sched.entry.requireCal = false ∨ 6 ≤ hdr.syncState then
          ({ s with
              state := .dwelling
              schedule := some { sched with framesAtCurrent := 0 }
              calWaitCounter := 0 }, none)
        else if s.maxCalWaitFrames ≤ s.calWaitCounter + 1 then
          doTransition sched { s with calWaitCounter := s.calWaitCounter + 1 }
        else ({ s with calWaitCounter := s.calWaitCounter + 1 }, none)
      | .dwelling =>
        let sched' : Schedule :=
          if hdr.frameType = .data then
            { sched with framesAtCurrent := sched.framesAtCurrent + 1 } else sched
        if sched.entry.dwellFrames ≤ sched'.framesAtCurrent then
          doTransition sched' { s with schedule := some sched' }
        else ({ s with schedule := some sched' }, none)
      | .idle => (s, none)

def getPendingGain (s : Scheduler) : Option Json :=
  match s.schedule with
  | none => none
  | some sched => if sched.active then sched.entry.gains else none

end Scheduler

end HeimdallDaq.HwController
