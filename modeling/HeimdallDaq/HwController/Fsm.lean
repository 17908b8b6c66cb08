/-
  HwController/Fsm.lean --- one frame of the main loop.

  `frameStep` is the body of `HWC.start` between the arrival of a frame and the
  drain of the control requests: the five-state FSM, with the noise source control
  and the scheduler step inside STATE_IQ_CAL.
-/
import HeimdallDaq.HwController.Hwc
import HeimdallDaq.Foundation.Runs
import Mathlib

namespace HeimdallDaq.HwController

structure FrameInputs where
  /-- `_track_lock_approved`. -/
  approved : Bool := true
  freq : Verdicts := {}
  gain : Verdicts := {}

namespace Hwc

variable {M : ℕ} (cfg : Config)

def gainCtrReady (h : Hwc M) : Bool := decide (∀ m, validGains (h.gains m) = h.iqHeader.ifGains m)

def tuneGain (h : Hwc M) (m : Fin M) : Hwc M :=
  let stop (h : Hwc M) : Hwc M :=
    { h with gainTuneStates := if cfg.unifiedGainControl then fun _ => false
        else Function.update h.gainTuneStates m false }
  let h₁ :=
    if h.iqHeader.adcOverdriveFlags.testBit m then
      stop (if h.gains m = 0 then h
        else { h with gains := Function.update h.gains m (h.gains m - 1) })
    else h
  if h₁.gainTuneStates m then
    if (h₁.gains m).val < 28 then
      { h₁ with gains := Function.update h₁.gains m (h₁.gains m + 1) }
    else stop h₁
  else h₁

def tuneGains (h : Hwc M) : Hwc M :=
  if h.gainCtrReady then ((List.finRange M).foldl (tuneGain cfg) h).changeGains cfg .fsm else h

def controlNoiseSource (on : Bool) (h : Hwc M) : Hwc M :=
  if on then
    let h₁ := changeGains cfg .fsm
      { h with
        lastAgc := h.agc
        agc := false
        lastGains := h.gains
        gains := fun _ => calGain h.iqHeader.rfCenterFreq }
    { h₁.send .fsm (.noiseSource true) with noiseSourceState := true, currentState := .noiseCtrWait }
  else
    let h₁ := { h.send .fsm (.noiseSource false) with noiseSourceState := false }
    let h₂ := changeGains cfg .fsm { h₁ with gains := h₁.lastGains }
    { enableAgc .fsm { h₂ with agc := h₂.lastAgc } with currentState := .noiseCtrWait }

def trackNoise (approved : Bool) (h : Hwc M) : Hwc M :=
  if cfg.calTrackMode = 0 ∨ cfg.calTrackMode = 1 ∨
      (cfg.calTrackMode = 2 ∧ h.calFrameCntr < cfg.calFrameInterval) then
    if h.iqHeader.syncState < 5 then
      if h.iqHeader.noiseSourceState = 0 then controlNoiseSource cfg true h else h
    else if h.iqHeader.noiseSourceState = 1 ∧ (cfg.requireTrackLock → approved) then
      controlNoiseSource cfg false h
    else h
  else h

def burstNoise (h : Hwc M) : Hwc M :=
  if cfg.calTrackMode = 2 then
    if h.iqHeader.syncState = 6 then
      let h₁ := { h with calFrameCntr := h.calFrameCntr + 1 }
      if h₁.calFrameCntr = cfg.calFrameInterval then controlNoiseSource cfg true h₁
      else if h₁.calFrameCntr = cfg.calFrameInterval + cfg.calFrameBurstSize then
        { controlNoiseSource cfg false h₁ with calFrameCntr := 0 }
      else h₁
    else { h with calFrameCntr := 0 }
  else h

def noiseControl (approved : Bool) (h : Hwc M) : Hwc M := burstNoise cfg (trackNoise cfg approved h)

/-- The scheduler step of STATE_IQ_CAL.  An exception of the `GAIN` handler is not
caught there and ends the main loop. -/
def schedulerStep (inp : FrameInputs) (h : Hwc M) : Hwc M :=
  match h.scheduler with
  | none => h
  | some s =>
    match s.tick h.iqHeader with
    | (s', none) => { h with scheduler := some s' }
    | (s', some hz) =>
      let h₁ := ({ h with scheduler := some s' }.handleFreq inp.freq .scheduler hz).1
      let h₂ := { h₁ with calFrameCntr := 0 }
      match s'.getPendingGain with
      | none => h₂
      | some params =>
        let r := h₂.handleGain cfg inp.gain .scheduler params
        { r.1 with crashed := r.1.crashed || !r.2.isOk }

def frameStep (hdr : IqHeader M) (inp : FrameInputs) (old : Hwc M) : Hwc M :=
  let h := { old with iqHeader := hdr }
  if hdr.frameType = .dummy then h
  else
    match h.currentState with
    | .init =>
      let h₁ := (h.changeGains cfg .fsm).send .fsm (.noiseSource false)
      { h₁ with currentState := if ∃ m, h₁.gainTuneStates m = true then .gainCtrWait else .iqCal }
    | .gainCtrWait => if h.gainCtrReady then { h with currentState := .gainTune } else h
    | .gainTune =>
      if hdr.adcOverdriveFlags ≠ 0 ∨ ∃ m, h.gainTuneStates m = true then
        { tuneGains cfg h with currentState := .gainCtrWait, gainLockCntr := 0 }
      else if h.gainLockCntr = cfg.gainLockInterval then
        { h with currentState := .iqCal, gainLockCntr := 0 }
      else { h with gainLockCntr := h.gainLockCntr + 1 }
    | .iqCal => schedulerStep cfg inp (noiseControl cfg inp.approved h)
    | .noiseCtrWait =>
      if (if h.noiseSourceState then 1 else 0) = hdr.noiseSourceState ∧ h.gainCtrReady = true then
        { h with currentState := .iqCal }
      else h

end Hwc

end HeimdallDaq.HwController
