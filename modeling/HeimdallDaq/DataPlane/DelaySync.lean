/-
  DataPlane/DelaySync.lean --- the calibration FSM of delay_sync.py.

  Each frame is handled in one of eight states and handed on with two flags.
-/
import HeimdallDaq.HwController.Scheduler
import HeimdallDaq.Foundation.Runs

namespace HeimdallDaq.DataPlane.DelaySync

open Foundation
open HwController (FrameType)

structure Config where
  enIqCal : Bool
  calTrackMode : ℕ
  trackDecimation : ℕ
  maxSyncFails : ℤ
  invalidateOnOverrun : Bool
  framesAfterOverrun : ℕ

inductive State
  | init
  | sampleCal
  | syncWait
  | fracSampleCal
  | fracSyncWait
  | iqCal
  | trackLock
  | track
  deriving DecidableEq

/-- A frame from the decimator, with what is measured on it and what happens while it
is handled. -/
structure Frame where
  frameType : FrameType
  rfCenterFreq : ℕ
  cpiIndex : ℕ := 0
  bufferOverrunCnt : ℕ := 0
  recalRequest : Bool := false
  /-- the sample delay of each channel but the reference one, `none` where the dynamic
  range of the correlation peak is insufficient -/
  delays : List (Option ℤ) := []
  fracOutOfTolerance : Bool := false
  /-- `calc_iq_sync` finds a dynamic range below the minimum -/
  lowDynRange : Bool := false
  iqOutOfTolerance : Bool := false
  /-- and so they are relative to `iq_diff_ref` -/
  trackOutOfTolerance : Bool := false
  confirmed : Bool := true

structure Verdict where
  sampleSyncFlag : Bool := false
  iqSyncFlag : Bool := false
  syncState : ℕ := 0

structure Emitted where
  frameType : FrameType
  rfCenterFreq : ℕ
  delaySyncFlag : Bool
  iqSyncFlag : Bool
  syncState : ℕ
  calibratedRf : Option ℕ

structure Synchronizer where
  currentState : State := .init
  syncFailedCntr : ℤ := 0
  lastUpdateInd : ℤ := -3
  lastRf : ℕ := 0
  trackCheckCounter : ℕ := 0
  trackLastFlags : Bool × Bool := (true, true)
  prevOverrunCnt : Option ℕ := none
  overrunInvalidateLeft : ℕ := 0
  calibratedRf : Option ℕ := none
  emitted : List Emitted := []

namespace Synchronizer

variable (cfg : Config)

/-! ## The states -/

@[local grind]
def initStep (d : Synchronizer) (f : Frame) : Synchronizer × Verdict :=
  (if f.frameType = .cal then { d with currentState := .sampleCal } else d, ⟨false, false, 1⟩)

/-- The loop over the channels: whether all are in sync and whether a delay is to be
corrected.  An insufficient dynamic range ends it. -/
def checkDelays : List (Option ℤ) → Bool × Bool → Bool × Bool
  | [], flags => flags
  | none :: _, _ => (false, false)
  | some delay :: rest, flags => checkDelays rest (if 1 ≤ |delay| then (false, true) else flags)

variable (d : Synchronizer) (f : Frame)

/-- The sampling rates are tuned; without an answer of rtl_daq the state stays and
tries again. -/
@[local grind]
def tune (next : State) : Synchronizer :=
  if f.confirmed then { d with lastUpdateInd := f.cpiIndex, currentState := next } else d

@[local grind]
def sampleCalStep : Synchronizer × Verdict :=
  let (sampleSyncFlag, delayUpdateFlag) := checkDelays f.delays (true, false)
  let d := if delayUpdateFlag then d.tune f .syncWait else d
  (if sampleSyncFlag then { d with currentState := .fracSampleCal } else d,
    ⟨sampleSyncFlag, false, 2⟩)

@[local grind]
def waitStep : Synchronizer × Verdict :=
  (if d.lastUpdateInd + 1 = f.cpiIndex then { d with lastUpdateInd := d.lastUpdateInd + 1 } else d,
    ⟨false, false, 3⟩)

@[local grind]
def fracSampleCalStep : Synchronizer × Verdict :=
  (if f.fracOutOfTolerance then d.tune f .fracSyncWait else { d with currentState := .iqCal },
    ⟨false, false, 3⟩)

@[local grind]
def iqCalStep : Synchronizer × Verdict :=
  let sampleSyncFlag := !(cfg.enIqCal && f.lowDynRange)
  let iqCorrUpdateFlag := cfg.enIqCal && !f.lowDynRange && f.iqOutOfTolerance
  let iqSyncFlag := sampleSyncFlag && !iqCorrUpdateFlag
  (if iqSyncFlag then { d with currentState := .trackLock, calibratedRf := some f.rfCenterFreq }
    else if sampleSyncFlag then d
    else { d with currentState := .sampleCal },
    ⟨sampleSyncFlag, iqSyncFlag, 4⟩)

@[local grind]
def trackLockStep : Synchronizer × Verdict :=
  (if f.frameType = .data then
      { d with
        currentState := .track
        lastRf := f.rfCenterFreq
        trackCheckCounter := 0
        trackLastFlags := (true, true) }
    else d,
    ⟨true, true, 5⟩)

@[local grind]
def settleCounter (d : Synchronizer) (cntr : ℤ) : Synchronizer :=
  if cntr = cfg.maxSyncFails then { d with currentState := .init, syncFailedCntr := 0 }
  else if cntr < 0 then { d with syncFailedCntr := 0 }
  else { d with syncFailedCntr := cntr }

@[local grind]
def checkTrack (d : Synchronizer) (f : Frame) : Synchronizer × Verdict :=
  let sampleSyncFlag := !f.lowDynRange
  let iqSyncFlag := cfg.enIqCal && !f.trackOutOfTolerance
  let cntr :=
    if !sampleSyncFlag || (cfg.enIqCal && !iqSyncFlag) then d.syncFailedCntr + 1
    else d.syncFailedCntr - 1
  ({ d.settleCounter cfg cntr with trackLastFlags := (sampleSyncFlag, iqSyncFlag) },
    ⟨sampleSyncFlag, iqSyncFlag, 6⟩)

def trackCheck (f : Frame) : Bool :=
  cfg.calTrackMode = 1 || (cfg.calTrackMode = 2 && f.frameType = .cal)

def decimated (f : Frame) : Bool :=
  trackCheck cfg f && cfg.calTrackMode = 1 && decide (1 < cfg.trackDecimation) &&
    f.frameType = .data

variable (d : Synchronizer)

def runCheck (f : Frame) : Bool :=
  if decimated cfg f then decide (d.trackCheckCounter % cfg.trackDecimation = 0)
  else trackCheck cfg f

@[local grind]
def countCheck (f : Frame) : Synchronizer :=
  if decimated cfg f then { d with trackCheckCounter := d.trackCheckCounter + 1 } else d

@[local grind]
def trackFlags (f : Frame) : Synchronizer × Verdict :=
  if d.runCheck cfg f then (d.countCheck cfg f).checkTrack cfg f
  else if trackCheck cfg f then
    (d.countCheck cfg f, ⟨d.trackLastFlags.1, d.trackLastFlags.2, 6⟩)
  else (d.countCheck cfg f, ⟨true, true, 6⟩)

@[local grind]
def trackStep (f : Frame) : Synchronizer × Verdict :=
  let (d, v) := trackFlags cfg d f
  if d.lastRf = f.rfCenterFreq then (d, v)
  else ({ d with syncFailedCntr := 0, currentState := .init }, ⟨false, false, v.syncState⟩)

@[local grind]
def dummyStep : Synchronizer × Verdict :=
  ({ d with
      syncFailedCntr := 0
      currentState :=
        match d.currentState with
        | .syncWait => .sampleCal
        | .fracSyncWait => .fracSampleCal
        | state => state },
    {})

@[local grind]
def fsmStep (f : Frame) : Synchronizer × Verdict :=
  if f.frameType = .dummy then d.dummyStep
  else
    match d.currentState with
    | .init => d.initStep f
    | .sampleCal => d.sampleCalStep f
    | .syncWait => d.waitStep f
    | .fracSampleCal => d.fracSampleCalStep f
    | .fracSyncWait => d.waitStep f
    | .iqCal => d.iqCalStep cfg f
    | .trackLock => d.trackLockStep f
    | .track => d.trackStep cfg f

/-! ## A frame of the main loop -/

@[local grind]
def updateContinuity (f : Frame) : Synchronizer :=
  if cfg.invalidateOnOverrun then
    { d with
      prevOverrunCnt := some f.bufferOverrunCnt
      overrunInvalidateLeft :=
        if d.prevOverrunCnt.any (· < f.bufferOverrunCnt) then 1 + cfg.framesAfterOverrun
        else d.overrunInvalidateLeft }
  else d

@[local grind]
def applyWireRecal (f : Frame) : Synchronizer :=
  if f.recalRequest then { d with currentState := .init, syncFailedCntr := 0 } else d

@[local grind]
def finalizeHeader (f : Frame) (v : Verdict) : Synchronizer :=
  let valid := decide (d.overrunInvalidateLeft = 0)
  { d with
    overrunInvalidateLeft := d.overrunInvalidateLeft - 1
    emitted :=
      ⟨f.frameType, f.rfCenterFreq, v.sampleSyncFlag && valid, v.iqSyncFlag && valid, v.syncState,
        d.calibratedRf⟩ :: d.emitted }

@[local grind]
def receive (f : Frame) : Synchronizer := (d.updateContinuity cfg f).applyWireRecal f

@[local grind]
def step (f : Frame) : Synchronizer :=
  let (d, v) := (d.receive cfg f).fsmStep cfg f
  d.finalizeHeader f v

/-! ## The frequency of synchronised frames -/

@[local grind]
def Tracked : Prop := d.currentState = .track → d.calibratedRf = some d.lastRf

/-- What the FSM owes for a frame: the frames sent before are left alone, STATE_TRACK is
entered and kept on the calibrated frequency, and a frame with the flag set is on it. -/
@[local grind]
structure Sound (d : Synchronizer) (f : Frame) (result : Synchronizer × Verdict) : Prop where
  emitted : result.1.emitted = d.emitted
  tracked : result.1.Tracked
  flagged : result.2.iqSyncFlag → result.1.calibratedRf = some f.rfCenterFreq

variable {cfg} {d : Synchronizer} {f : Frame}

@[local grind]
def LockedOnCalibrated (d : Synchronizer) (f : Frame) : Prop :=
  d.currentState = .trackLock → f.recalRequest = false → f.frameType ≠ .dummy →
    d.calibratedRf = some f.rfCenterFreq

instance decidableLockedOnCalibrated (d : Synchronizer) (f : Frame) :
    Decidable (LockedOnCalibrated d f) := inferInstanceAs (Decidable (_ → _ → _ → _))

/-- Every frame sent with the flag set is on the calibrated frequency. -/
@[local grind]
structure OnCalibrated (d : Synchronizer) : Prop where
  tracked : d.Tracked
  emitted : ∀ e ∈ d.emitted, e.iqSyncFlag → e.calibratedRf = some e.rfCenterFreq

lemma receive_keeps (cfg : Config) (d : Synchronizer) (f : Frame) :
    (d.receive cfg f).emitted = d.emitted ∧ (d.receive cfg f).lastRf = d.lastRf ∧
      (d.receive cfg f).calibratedRf = d.calibratedRf ∧
      (d.receive cfg f).currentState = if f.recalRequest then .init else d.currentState := by grind

lemma onCalibrated_step (h : d.OnCalibrated) (hlocked : LockedOnCalibrated d f) :
    (d.step cfg f).OnCalibrated := by
  obtain ⟨hemitted, hrf, hkept, hstate⟩ := receive_keeps cfg d f
  have hsound : Sound (d.receive cfg f) f ((d.receive cfg f).fsmStep cfg f) := by grind
  grind

end Synchronizer

/-- In every run in which the frames of STATE_TRACK_LOCK are on the calibrated
frequency, so is every frame that is sent with `iq_sync_flag` set. -/
theorem synchronised_on_calibrated (cfg : Config) (frames : List Frame)
    (hlocked : Along (Synchronizer.step cfg) Synchronizer.LockedOnCalibrated {} frames) :
    ∀ e ∈ (run (Synchronizer.step cfg) {} frames).emitted, e.iqSyncFlag →
      e.calibratedRf = some e.rfCenterFreq := by
  have hstep : ∀ (d : Synchronizer) (f : Frame), d.OnCalibrated → d.LockedOnCalibrated f →
      (d.step cfg f).OnCalibrated :=
    fun _ _ h hlocked => Synchronizer.onCalibrated_step h hlocked
  have hrun := run_invariant (Synchronizer.step cfg) hstep frames {} ⟨nofun, nofun⟩ hlocked
  exact hrun.emitted

def defaults : Config := ⟨true, 0, 1, 3, false, 1⟩

def calibration (rf : ℕ) : List Frame := List.replicate 4 { frameType := .cal, rfCenterFreq := rf }

def data (rf : ℕ) : Frame := { frameType := .data, rfCenterFreq := rf }

/-- Data frames on the calibrated frequency, then one on another. -/
theorem synchronised_on_calibrated_track :
    (run (Synchronizer.step defaults) {} (calibration 100 ++ [data 100, data 100, data 200])).emitted.map
        (fun e => e.iqSyncFlag) = [false, true, true, true, false, false, false] ∧
      ∀ e ∈ (run (Synchronizer.step defaults) {}
          (calibration 100 ++ [data 100, data 100, data 200])).emitted,
        e.iqSyncFlag → e.calibratedRf = some e.rfCenterFreq :=
  ⟨by decide +kernel, synchronised_on_calibrated defaults _ (by decide +kernel)⟩

/-- The frequency changes in STATE_TRACK_LOCK: the data frames on the new one keep the
flag, in that state and then in STATE_TRACK. -/
theorem synchronised_on_other_frequency : ((run (Synchronizer.step defaults) {}
        (calibration 100 ++ [data 200, data 200])).emitted.take 2).map
        (fun e => (e.iqSyncFlag, e.rfCenterFreq, e.calibratedRf)) =
      [(true, 200, some 100), (true, 200, some 100)] := by decide +kernel

end HeimdallDaq.DataPlane.DelaySync
