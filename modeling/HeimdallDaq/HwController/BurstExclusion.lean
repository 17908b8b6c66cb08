/-
  HwController/BurstExclusion.lean --- scheduler commands and the noise source.

  The scheduler skips a frame whose header says that the noise source is on.
-/
import HeimdallDaq.HwController.Fsm

namespace HeimdallDaq.HwController

open Foundation

variable {M : ℕ} (cfg : Config)

/-- What the main loop does between two points at which it waits: a frame, or a
command of the control server. -/
inductive LoopAction (M : ℕ)
  | frame (hdr : IqHeader M) (inp : FrameInputs)
  | command (cmd : Command) (v : Verdicts)

namespace Hwc

def loopStep (h : Hwc M) : LoopAction M → Hwc M
  | .frame hdr inp => if h.crashed then h else frameStep cfg hdr inp h
  | .command cmd v => if h.crashed then h else (h.handleControlReqest cfg v .wire cmd).1

@[local grind]
def schedulerSent (h : Hwc M) : List Sent := h.sent.filter fun m => m.sender = .scheduler

/-! ## The noise source of a frame -/

variable (approved : Bool)

def trackSwitch (h : Hwc M) : Option Bool :=
  if cfg.calTrackMode = 0 ∨ cfg.calTrackMode = 1 ∨
      (cfg.calTrackMode = 2 ∧ h.calFrameCntr < cfg.calFrameInterval) then
    if h.iqHeader.syncState < 5 then
      if h.iqHeader.noiseSourceState = 0 then some true else none
    else if h.iqHeader.noiseSourceState = 1 ∧ (cfg.requireTrackLock → approved) then
      some false
    else none
  else none

def burstSwitch (h : Hwc M) : Option Bool :=
  if cfg.calTrackMode = 2 ∧ h.iqHeader.syncState = 6 then
    if h.calFrameCntr + 1 = cfg.calFrameInterval then some true
    else if h.calFrameCntr + 1 = cfg.calFrameInterval + cfg.calFrameBurstSize then some false
    else none
  else none

/-- The commanded state of the noise source when the scheduler step of a frame in
STATE_IQ_CAL runs: that of the last command of the frame, or else that before it. -/
def noiseAhead (h : Hwc M) : Bool :=
  ((burstSwitch cfg h).or (trackSwitch cfg approved h)).getD h.noiseSourceState

/-- What the noise source control leaves alone, and the state it commands. -/
@[local grind]
structure Switched (h h' : Hwc M) (command : Option Bool) : Prop where
  noise : h'.noiseSourceState = command.getD h.noiseSourceState
  iqHeader : h'.iqHeader = h.iqHeader
  scheduler : h'.scheduler = h.scheduler
  schedulerSent : h'.schedulerSent = h.schedulerSent

lemma Switched.refl (h : Hwc M) : h.Switched h none := ⟨rfl, rfl, rfl, rfl⟩

lemma Switched.trans {h h' h'' : Hwc M} {first second : Option Bool}
    (hfirst : h.Switched h' first) (hsecond : h'.Switched h'' second) :
    h.Switched h'' (second.or first) where
  noise := by
    rw [hsecond.noise, hfirst.noise]
    cases second <;> rfl
  iqHeader := hsecond.iqHeader.trans hfirst.iqHeader
  scheduler := hsecond.scheduler.trans hfirst.scheduler
  schedulerSent := hsecond.schedulerSent.trans hfirst.schedulerSent

@[local grind]
def SentBy (sender : Sender) (h h' : Hwc M) : Prop :=
  ∃ new, h'.sent = new ++ h.sent ∧ ∀ m ∈ new, m.sender = sender

variable {sender : Sender} {h h' : Hwc M}

lemma sentBy_same (hsent : h'.sent = h.sent) : SentBy sender h h' := ⟨[], hsent, by simp⟩

lemma sentBy_send (sender : Sender) (msg : Message) (hsent : h'.sent = h.sent) :
    SentBy sender h (h'.send sender msg) :=
  ⟨[⟨msg, sender, h'.noiseSourceState⟩], by simp [send, hsent], by simp⟩

lemma SentBy.schedulerSent (hsent : SentBy sender h h')
    (hs : sender ≠ .scheduler) : h'.schedulerSent = h.schedulerSent := by
  grind [List.filter_eq_nil_iff]

lemma sentBy_enableAgc (sender : Sender) (h : Hwc M) : SentBy sender h (h.enableAgc sender) := by
  unfold enableAgc
  split
  · exact sentBy_send sender _ rfl
  · exact sentBy_same rfl

lemma enableAgc_fields (sender : Sender) (h : Hwc M) :
    (h.enableAgc sender).noiseSourceState = h.noiseSourceState ∧
      (h.enableAgc sender).iqHeader = h.iqHeader ∧ (h.enableAgc sender).scheduler = h.scheduler ∧
      (h.enableAgc sender).calFrameCntr = h.calFrameCntr := by
  unfold enableAgc
  split <;> exact ⟨rfl, rfl, rfl, rfl⟩

lemma controlNoiseSource_switched (on : Bool) (h : Hwc M) :
    h.Switched (controlNoiseSource cfg on h) (some on) := by
  cases on with
  | true => exact ⟨rfl, rfl, rfl, rfl⟩
  | false =>
    let restored := changeGains cfg .fsm
      { h.send .fsm (.noiseSource false) with noiseSourceState := false, gains := h.lastGains }
    obtain ⟨hnoise, hhdr, hsched, -⟩ :=
      enableAgc_fields .fsm { restored with agc := restored.lastAgc }
    exact ⟨hnoise, hhdr, hsched, (sentBy_enableAgc .fsm _).schedulerSent (by decide)⟩

lemma controlNoiseSource_calFrameCntr (on : Bool) (h : Hwc M) :
    (controlNoiseSource cfg on h).calFrameCntr = h.calFrameCntr := by
  cases on with
  | true => rfl
  | false => exact (enableAgc_fields .fsm _).2.2.2

lemma trackNoise_switched (h : Hwc M) :
    h.Switched (trackNoise cfg approved h) (trackSwitch cfg approved h) := by
  unfold trackNoise trackSwitch
  split_ifs
  all_goals first
    | exact controlNoiseSource_switched cfg _ h
    | exact Switched.refl h

lemma trackNoise_calFrameCntr (h : Hwc M) :
    (trackNoise cfg approved h).calFrameCntr = h.calFrameCntr := by
  unfold trackNoise
  split_ifs
  all_goals first
    | exact controlNoiseSource_calFrameCntr cfg _ h
    | rfl

lemma burstNoise_switched (h : Hwc M) : h.Switched (burstNoise cfg h) (burstSwitch cfg h) := by
  have hcount : h.Switched { h with calFrameCntr := h.calFrameCntr + 1 } none :=
    ⟨rfl, rfl, rfl, rfl⟩
  unfold burstNoise burstSwitch
  by_cases hmode : cfg.calTrackMode = 2
  all_goals grind [controlNoiseSource_switched]

lemma noiseControl_switched (h : Hwc M) : h.Switched (noiseControl cfg approved h)
      ((burstSwitch cfg h).or (trackSwitch cfg approved h)) := by
  have htrack := trackNoise_switched cfg approved h
  have hburst := burstNoise_switched cfg (trackNoise cfg approved h)
  have hsame : burstSwitch cfg (trackNoise cfg approved h) = burstSwitch cfg h := by
    simp only [burstSwitch, htrack.iqHeader, trackNoise_calFrameCntr]
  rw [hsame] at hburst
  exact htrack.trans hburst

/-! ## The scheduler step -/

@[local grind]
def Retunes (h : Hwc M) : Prop :=
  ∃ s hz, h.scheduler = some s ∧ (s.tick h.iqHeader).2 = some hz ∧ 0 < hz ∧ hz < 2 ^ 32

@[local grind]
def SilentBursts (h : Hwc M) : Prop := ∀ m ∈ h.schedulerSent, m.noise = false

lemma silent_send_scheduler (msg : Message) (h : Hwc M) :
    (h.send .scheduler msg).SilentBursts ↔ h.noiseSourceState = false ∧ h.SilentBursts := by
  simp [SilentBursts, schedulerSent, send]

lemma silent_handleFreq (v : Verdicts) (hz : ℤ) (h : Hwc M) :
    (h.handleFreq v .scheduler hz).1.SilentBursts ↔
      ((0 < hz ∧ hz < 2 ^ 32) → h.noiseSourceState = false) ∧ h.SilentBursts := by
  grind [silent_send_scheduler, handleFreq]

lemma silent_handleGain (v : Verdicts) (params : Json) (h : Hwc M) :
    (h.handleGain cfg v .scheduler params).1.SilentBursts ↔ h.SilentBursts := by
  grind [handleGain, changeGains, silent_send_scheduler]

lemma retunes_iff {h : Hwc M} {s : Scheduler} (hsched : h.scheduler = some s) :
    h.Retunes ↔ ∃ hz, (s.tick h.iqHeader).2 = some hz ∧ 0 < hz ∧ hz < 2 ^ 32 := by grind

lemma silent_schedulerStep (inp : FrameInputs) (h : Hwc M) :
    (schedulerStep cfg inp h).SilentBursts ↔
      (h.Retunes → h.noiseSourceState = false) ∧ h.SilentBursts := by
  unfold schedulerStep
  split
  · grind
  · rename_i s hsched
    rw [retunes_iff hsched]
    split
    all_goals grind [silent_handleFreq, silent_handleGain]

/-! ## Runs -/

/-- A frame in STATE_IQ_CAL whose scheduler step retunes finds the noise source
off and does not switch it on. -/
@[local grind]
def Excludes (h : Hwc M) : LoopAction M → Prop
  | .frame hdr inp =>
    let h' := { h with iqHeader := hdr }
    h.crashed = false → hdr.frameType ≠ .dummy → h.currentState = .iqCal →
      h'.Retunes → noiseAhead cfg inp.approved h' = false
  | .command _ _ => True

section Wire

variable (v : Verdicts) (sender : Sender) (h : Hwc M)

lemma sentBy_handleFreq (hz : ℤ) : SentBy sender h (h.handleFreq v sender hz).1 := by
  unfold handleFreq
  split
  · dsimp only
    split <;> exact sentBy_send sender (.tune hz) rfl
  · exact sentBy_same rfl

lemma sentBy_handleGain (params : Json) : SentBy sender h (h.handleGain cfg v sender params).1 := by
  unfold handleGain
  split
  · split <;> exact sentBy_same rfl
  · split
    · rename_i gains hloop
      have hsend : SentBy sender h ({ h with gains := gains }.changeGains cfg sender) :=
        sentBy_send sender _ rfl
      dsimp only
      split
      · split <;> exact hsend
      · exact hsend
    · exact sentBy_same rfl
    · exact sentBy_same rfl

lemma sentBy_handleRotator (bearing : Bool) :
    SentBy sender h (h.handleRotator cfg v bearing).1 := by
  unfold handleRotator
  split
  · split <;> exact sentBy_same rfl
  · exact sentBy_same rfl

lemma sentBy_handleSchd (doc : Option ScheduleDoc) :
    SentBy sender h (h.handleSchd doc).1 := by grind [handleSchd, sentBy_same]

lemma sentBy_handleControlReqest (cmd : Command) :
    SentBy sender h (h.handleControlReqest cfg v sender cmd).1 := by
  cases cmd with
  | freq hz => exact sentBy_handleFreq v sender h hz
  | gain params => exact sentBy_handleGain cfg v sender h _
  | agc =>
    simp only [handleControlReqest, handleAgc]
    split
    · exact sentBy_same rfl
    · exact sentBy_enableAgc sender { h with agc := true }
  | schd doc => exact sentBy_handleSchd sender h doc
  | schs =>
    simp only [handleControlReqest]
    split <;> exact sentBy_same rfl
  | schn =>
    simp only [handleControlReqest]
    split <;> exact sentBy_same rfl
  | egan params =>
    simp only [handleControlReqest, handleEgan]
    split
    · exact sentBy_same rfl
    · split <;> exact sentBy_same rfl
  | bias params => grind [handleControlReqest, handleBias, sentBy_same, sentBy_send]
  | recl =>
    simp only [handleControlReqest]
    split <;> exact sentBy_same rfl
  | ornt az el => exact sentBy_handleRotator cfg v sender h true
  | park => exact sentBy_handleRotator cfg v sender h false
  | scan => exact sentBy_handleRotator cfg v sender h false
  | ostp => exact sentBy_handleRotator cfg v sender h false
  | query q => exact sentBy_same rfl
  | init => exact sentBy_same rfl

end Wire

lemma tuneGain_sent (h : Hwc M) (m : Fin M) : (tuneGain cfg h m).sent = h.sent := by
  unfold tuneGain
  dsimp only
  split_ifs <;> rfl

lemma sentBy_tuneGains (h : Hwc M) : SentBy .fsm h (tuneGains cfg h) := by
  unfold tuneGains
  split
  · exact sentBy_send .fsm _ (List.foldlRecOn (List.finRange M) (tuneGain cfg)
      (motive := (·.sent = h.sent)) rfl fun d hd m _ => (tuneGain_sent cfg d m).trans hd)
  · exact sentBy_same rfl

lemma silent_of_schedulerSent (hsent : h'.schedulerSent = h.schedulerSent) :
    h'.SilentBursts ↔ h.SilentBursts := by rw [SilentBursts, SilentBursts, hsent]

lemma silent_frameStep (hdr : IqHeader M) (inp : FrameInputs) (h : Hwc M)
    (hlive : h.crashed = false) : (frameStep cfg hdr inp h).SilentBursts ↔
      Excludes cfg h (.frame hdr inp) ∧ h.SilentBursts := by
  let h₀ : Hwc M := { h with iqHeader := hdr }
  have hfsm : ∀ {h' : Hwc M}, SentBy .fsm h h' → (h'.SilentBursts ↔ h.SilentBursts) :=
    fun hby => silent_of_schedulerSent (hby.schedulerSent (by decide))
  have hfree : (h.currentState ≠ .iqCal ∨ hdr.frameType = .dummy) →
      (h.SilentBursts ↔ Excludes cfg h (.frame hdr inp) ∧ h.SilentBursts) := by
    intro hout
    refine (and_iff_right fun _ hframe hcal _ => ?_).symm
    rcases hout with hstate | hdummy
    · exact absurd hcal hstate
    · exact absurd hdummy hframe
  unfold frameStep
  by_cases hdummy : hdr.frameType = .dummy
  · simp only [if_pos hdummy]
    exact hfree (Or.inr hdummy)
  · simp only [if_neg hdummy]
    split
    · rename_i hstate
      refine Iff.trans (hfsm ?_) (hfree (Or.inl (by simp [hstate])))
      exact ⟨[⟨.noiseSource false, .fsm, h.noiseSourceState⟩,
        ⟨.setGain _, .fsm, h.noiseSourceState⟩], rfl, by simp⟩
    · grind
    · grind [sentBy_tuneGains]
    · grind [noiseControl_switched, silent_schedulerStep, noiseAhead]
    all_goals grind

lemma silent_loopStep (h : Hwc M) (act : LoopAction M) :
    (h.loopStep cfg act).SilentBursts ↔ Excludes cfg h act ∧ h.SilentBursts := by
  cases act with
  | frame hdr inp => grind [loopStep, silent_frameStep]
  | command cmd v =>
    simp only [loopStep, Excludes, true_and]
    split
    · rfl
    · exact silent_of_schedulerSent
        ((sentBy_handleControlReqest cfg v .wire h cmd).schedulerSent (by decide))

/-- The messages of a run are silent exactly when those before it are and every
frame of it excludes. -/
lemma silent_run (actions : List (LoopAction M)) :
    ∀ h : Hwc M, (run (loopStep cfg) h actions).SilentBursts ↔
      Along (loopStep cfg) (Excludes cfg) h actions ∧ h.SilentBursts := by
  induction actions with
  | nil => exact fun h => (and_iff_right trivial).symm
  | cons act rest ih =>
    intro h
    rw [run_cons, ih, silent_loopStep, Along]
    tauto

/-- In a run of the main loop the scheduler step sends no FREQ and no GAIN with the
noise source on exactly when each frame of it that retunes finds the noise source
off and does not switch it on. -/
theorem scheduler_excluded_iff (h : Hwc M) (hfresh : h.sent = []) (actions : List (LoopAction M)) :
    (∀ m ∈ (run (loopStep cfg) h actions).sent, m.sender = .scheduler → m.noise = false) ↔
      Along (loopStep cfg) (Excludes cfg) h actions := by
  have hsilent : h.SilentBursts := by simp [SilentBursts, schedulerSent, hfresh]
  have hrun := silent_run cfg actions h
  rw [and_iff_left hsilent] at hrun
  rw [← hrun]
  simp [SilentBursts, schedulerSent]

def dataFrame (sync : ℕ) : LoopAction 1 := .frame ⟨.data, 0, sync, 433000000, fun _ => 0, 0⟩ {}

def hopping : Hwc 1 where
  iqHeader := ⟨.dummy, 0, 0, 433000000, fun _ => 0, 0⟩
  gains := fun _ => 0
  lastGains := fun _ => 0
  gainTuneStates := fun _ => false
  scheduler := some (Scheduler.loadSchedule
    { name := .str "hop", entries := [{ frequency := 433000000, dwellFrames := 1 },
        { frequency := 868000000, dwellFrames := 1 }] } {})

theorem scheduler_excluded_hopping :
    let h := run (loopStep {}) hopping [dataFrame 6, dataFrame 6, dataFrame 6]
    h.sent.head? = some ⟨.tune 868000000, .scheduler, false⟩ ∧
      ∀ m ∈ h.sent, m.sender = .scheduler → m.noise = false := by
  have halong : Along (loopStep {}) (Excludes {}) hopping
      [dataFrame 6, dataFrame 6, dataFrame 6] :=
    ⟨fun _ _ _ _ => by decide +kernel, fun _ _ _ _ => by decide +kernel,
      fun _ _ _ _ => by decide +kernel, trivial⟩
  exact ⟨by decide +kernel, (scheduler_excluded_iff {} hopping rfl _).mpr halong⟩

/-- The frame that loses sync switches the noise source on and, its dwell being
over, retunes in the same step. -/
theorem exists_retune_in_burst : (⟨.tune 868000000, .scheduler, true⟩ : Sent) ∈
      (run (loopStep {}) hopping [dataFrame 6, dataFrame 6, dataFrame 0]).sent := by decide +kernel

end Hwc

end HeimdallDaq.HwController
