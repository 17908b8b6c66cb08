/-
  HwController/DwellTuned.lean --- where the tuner is while the scheduler dwells.

  `rf_center_frequency` is the last frequency rtl_daq confirmed.
-/
import HeimdallDaq.HwController.BurstExclusion

namespace HeimdallDaq.HwController

open Foundation

namespace Scheduler

/-- Dwelling on an entry, or about to dwell on it without a retune: the frequency is
the entry's. -/
@[local grind]
def OnEntry (s : Scheduler) (rf : ℤ) : Prop :=
  ∀ sched, s.schedule = some sched → (s.state = .dwelling ∨
      s.state = .waitingCal ∧ sched.active ∧ s.pendingRetune = false) →
    rf = sched.entry.frequency

variable {s : Scheduler} {rf : ℤ}

lemma OnEntry.persistState (h : s.OnEntry rf) : s.persistState.OnEntry rf := by
  simpa [OnEntry] using h

lemma onEntry_of_idle (hstate : s.state = .idle) : s.OnEntry rf := by grind

lemma onEntry_doTransition (sched : Schedule) (s : Scheduler) (rf : ℤ) :
    (s.doTransition sched).1.OnEntry ((s.doTransition sched).2.getD rf) := by
  unfold doTransition
  simp only
  split
  · refine OnEntry.persistState ?_
    intro sched' hsched' _
    cases hsched'
    rfl
  · exact (onEntry_of_idle rfl).persistState

lemma onEntry_tick {M : ℕ} (h : s.OnEntry rf) (hdr : IqHeader M) :
    (s.tick hdr).1.OnEntry ((s.tick hdr).2.getD rf) := by
  unfold tick
  split
  · exact h
  next sched hsched =>
    split
    · exact h
    next hlive =>
      rw [not_or, Bool.not_eq_false] at hlive
      split
      · exact h
      · split
        · -- the position was restored: its frequency is commanded now
          intro sched' hsched' _
          cases hsched'
          rfl
        next hpending =>
          rw [Bool.not_eq_true] at hpending
          cases hstate : s.state with
          | idle => exact absurd hstate hlive.2
          | waitingCal =>
            have hrf := h sched hsched (.inr ⟨hstate, hlive.1, hpending⟩)
            simp only
            split
            · intro sched' hsched' _
              cases hsched'
              exact hrf
            · split
              · exact onEntry_doTransition _ _ rf
              · intro sched' hsched' _
                cases hsched.symm.trans hsched'
                exact hrf
          | dwelling =>
            have hrf := h sched hsched (.inl hstate)
            simp only
            generalize hcounted : (if hdr.frameType = .data then
              { sched with framesAtCurrent := sched.framesAtCurrent + 1 } else sched) = counted
            have hentry : counted.entry = sched.entry := by
              rw [← hcounted]
              split <;> rfl
            split
            · exact onEntry_doTransition _ _ rf
            · intro sched' hsched' _
              cases hsched'
              rw [hentry]
              exact hrf

/-- Also where the log line raises: the schedule is active by then. -/
lemma onEntry_loadSchedule (h : s.OnEntry rf) (doc : ScheduleDoc)
    (hfirst : (s.loadSchedule doc).pendingRetune = false →
      ∀ e ∈ doc.entries.head?, e.frequency = rf) : (s.loadSchedule doc).OnEntry rf := by
  rw [loadSchedule_pendingRetune] at hfirst
  unfold OnEntry
  rw [loadSchedule_schedule, loadSchedule_state, loadSchedule_pendingRetune]
  unfold activate at hfirst ⊢
  cases hentries : doc.entries with
  | nil => exact h
  | cons e rest =>
    simp only [hentries] at hfirst ⊢
    split
    · grind
    next hresume =>
      simp only [hresume] at hfirst
      rintro sched ⟨⟩ -
      exact (hfirst trivial e rfl).symm

lemma onEntry_clearSchedule (s : Scheduler) (rf : ℤ) : s.clearSchedule.OnEntry rf :=
  OnEntry.persistState (onEntry_of_idle rfl)

lemma onEntry_skipToNext (h : s.OnEntry rf)
    (hnext : s.pendingRetune = false → ∀ sched ∈ s.skipToNext.schedule, sched.active →
      sched.entry.frequency = rf) : s.skipToNext.OnEntry rf := by
  unfold skipToNext at hnext ⊢
  split
  · exact h
  next sched hsched =>
    simp only [hsched] at hnext
    split
    next hactive =>
      rw [if_pos hactive] at hnext
      rw [persistState_schedule] at hnext
      refine OnEntry.persistState ?_
      rintro sched' hsched' (hdwelling | ⟨-, hactive', hpending'⟩)
      · cases hdwelling
      · exact (hnext hpending' sched' hsched' hactive').symm
    · exact h

end Scheduler

namespace Hwc

variable {M : ℕ} (cfg : Config)

/-! ## The rest of the loop -/

/-- Neither the scheduler nor the confirmed frequency is touched, and no exception
escapes. -/
@[local grind]
def Aside (h h' : Hwc M) : Prop :=
  h'.scheduler = h.scheduler ∧ h'.rfCenterFrequency = h.rfCenterFrequency ∧ h'.crashed = h.crashed

lemma Aside.trans {h h' h'' : Hwc M} (first : Aside h h') (second : Aside h' h'') : Aside h h'' :=
  ⟨second.1.trans first.1, second.2.1.trans first.2.1, second.2.2.trans first.2.2⟩

lemma aside_enableAgc (sender : Sender) (h : Hwc M) : Aside h (h.enableAgc sender) := by
  unfold enableAgc
  split <;> exact ⟨rfl, rfl, rfl⟩

lemma aside_controlNoiseSource (on : Bool) (h : Hwc M) : Aside h (controlNoiseSource cfg on h) := by
  cases on with
  | true => exact ⟨rfl, rfl, rfl⟩
  | false =>
    let restored := changeGains cfg .fsm
      { h.send .fsm (.noiseSource false) with noiseSourceState := false, gains := h.lastGains }
    exact aside_enableAgc .fsm { restored with agc := restored.lastAgc }

lemma aside_noiseControl (approved : Bool) (h : Hwc M) : Aside h (noiseControl cfg approved h) := by
  have htrack : Aside h (trackNoise cfg approved h) := by
    unfold trackNoise
    split_ifs
    all_goals first
      | exact aside_controlNoiseSource cfg _ h
      | exact ⟨rfl, rfl, rfl⟩
  have hburst : ∀ h : Hwc M, Aside h (burstNoise cfg h) := by
    grind [burstNoise, aside_controlNoiseSource]
  exact htrack.trans (hburst _)

lemma aside_handleGain (v : Verdicts) (sender : Sender) (params : Json) (h : Hwc M) :
    Aside h (h.handleGain cfg v sender params).1 := by
  unfold handleGain
  split
  · split <;> exact ⟨rfl, rfl, rfl⟩
  · split
    · simp only
      split
      · split <;> exact ⟨rfl, rfl, rfl⟩
      · exact ⟨rfl, rfl, rfl⟩
    · exact ⟨rfl, rfl, rfl⟩
    · exact ⟨rfl, rfl, rfl⟩

lemma aside_tuneGains (h : Hwc M) : Aside h (tuneGains cfg h) := by
  have hchannel : ∀ (h : Hwc M) (m : Fin M), Aside h (tuneGain cfg h m) := by
    intro h m
    unfold tuneGain
    dsimp only
    split_ifs <;> exact ⟨rfl, rfl, rfl⟩
  unfold tuneGains
  split
  · exact List.foldlRecOn _ _ (motive := Aside h) ⟨rfl, rfl, rfl⟩ fun d hd m _ => hd.trans (hchannel d m)
  · exact ⟨rfl, rfl, rfl⟩

lemma aside_handleRotator (v : Verdicts) (bearing : Bool) (h : Hwc M) :
    Aside h (h.handleRotator cfg v bearing).1 := by grind [handleRotator]

lemma frameStep_cases (hdr : IqHeader M) (inp : FrameInputs) (h : Hwc M) :
    (h.currentState = .iqCal ∧ hdr.frameType ≠ .dummy ∧
      ∃ h', Aside h h' ∧ h'.iqHeader = hdr ∧ frameStep cfg hdr inp h = schedulerStep cfg inp h') ∨
      (¬ (h.currentState = .iqCal ∧ hdr.frameType ≠ .dummy) ∧
        Aside h (frameStep cfg hdr inp h)) := by
  have helse : ∀ {state}, h.currentState = state → state ≠ .iqCal →
      ¬ (h.currentState = .iqCal ∧ hdr.frameType ≠ .dummy) :=
    fun hstate hne hboth => hne (hstate.symm.trans hboth.1)
  unfold frameStep
  simp only
  split
  next hdummy => exact .inr ⟨fun hboth => hboth.2 hdummy, rfl, rfl, rfl⟩
  next hdummy =>
    split
    next hstate => exact .inr ⟨helse hstate (by decide), rfl, rfl, rfl⟩
    next hstate =>
      refine .inr ⟨helse hstate (by decide), ?_⟩
      split <;> exact ⟨rfl, rfl, rfl⟩
    next hstate =>
      refine .inr ⟨helse hstate (by decide), ?_⟩
      split
      · exact aside_tuneGains cfg { h with iqHeader := hdr }
      · split <;> exact ⟨rfl, rfl, rfl⟩
    next hstate =>
      have hheader := (noiseControl_switched cfg inp.approved { h with iqHeader := hdr }).iqHeader
      have hcontrol : Aside h (noiseControl cfg inp.approved { h with iqHeader := hdr }) :=
        aside_noiseControl cfg inp.approved { h with iqHeader := hdr }
      exact .inl ⟨hstate, hdummy, _, hcontrol, hheader, rfl⟩
    next hstate =>
      refine .inr ⟨helse hstate (by decide), ?_⟩
      split_ifs <;> exact ⟨rfl, rfl, rfl⟩

/-! ## Steps -/

@[local grind]
def Tuned (h : Hwc M) : Prop := ∀ s, h.scheduler = some s → s.OnEntry h.rfCenterFrequency

lemma Tuned.aside {h h' : Hwc M} (ht : h.Tuned) (haside : Aside h h') : h'.Tuned := by
  unfold Tuned
  rw [haside.1, haside.2.1]
  exact ht

/-- No FREQ from the wire; a schedule is loaded or skipped to an entry the tuner is on,
unless a retune is pending; and every FREQ of the scheduler is in range and
confirmed. -/
@[local grind]
def Steady (h : Hwc M) : LoopAction M → Prop
  | .frame hdr inp =>
    h.currentState = .iqCal → hdr.frameType ≠ .dummy → ∀ s ∈ h.scheduler, ∀ hz ∈ (s.tick hdr).2,
        (0 < hz ∧ hz < 2 ^ 32) ∧ inp.freq.confirmed = true
  | .command (.freq _) _ => False
  | .command (.schd (some doc)) _ =>
    ∀ s ∈ h.scheduler, (s.loadSchedule doc).pendingRetune = false →
      ∀ e ∈ doc.entries.head?, e.frequency = h.rfCenterFrequency
  | .command .schn _ =>
    ∀ s ∈ h.scheduler, s.pendingRetune = false → ∀ sched ∈ s.skipToNext.schedule, sched.active →
        sched.entry.frequency = h.rfCenterFrequency
  | .command _ _ => True

instance decidableSteady (h : Hwc M) : ∀ act, Decidable (h.Steady act)
  | .frame hdr inp =>
    inferInstanceAs (Decidable (_ → _ → ∀ s ∈ h.scheduler, ∀ hz ∈ (s.tick hdr).2,
      (0 < hz ∧ hz < 2 ^ 32) ∧ inp.freq.confirmed))
  | .command (.freq _) _ => inferInstanceAs (Decidable False)
  | .command (.schd (some doc)) _ =>
    inferInstanceAs (Decidable (∀ s ∈ h.scheduler, (s.loadSchedule doc).pendingRetune = false →
        ∀ e ∈ doc.entries.head?, e.frequency = h.rfCenterFrequency))
  | .command .schn _ =>
    inferInstanceAs (Decidable (∀ s ∈ h.scheduler, s.pendingRetune = false →
      ∀ sched ∈ s.skipToNext.schedule, sched.active → sched.entry.frequency = h.rfCenterFrequency))
  | .command (.schd none) _ | .command (.query _) _ | .command (.gain _) _ | .command .agc _
  | .command .schs _ | .command (.egan _) _ | .command (.bias _) _ | .command (.ornt _ _) _
  | .command .park _ | .command .scan _ | .command .ostp _ | .command .init _
  | .command .recl _ => inferInstanceAs (Decidable True)

variable {h : Hwc M}

lemma tuned_schedulerStep (ht : h.Tuned) (inp : FrameInputs)
    (hfreq : ∀ s ∈ h.scheduler, ∀ hz ∈ (s.tick h.iqHeader).2,
      (0 < hz ∧ hz < 2 ^ 32) ∧ inp.freq.confirmed) : (schedulerStep cfg inp h).Tuned := by
  unfold schedulerStep
  split
  · exact ht
  next s hs =>
    have htick := Scheduler.onEntry_tick (ht s hs) h.iqHeader
    have hcommand := hfreq s hs
    split
    next s' hdue =>
      rw [hdue] at htick
      intro s'' hs''
      cases hs''
      exact htick
    next s' hz hdue =>
      rw [hdue] at htick hcommand
      obtain ⟨hrange, hconfirmed⟩ := hcommand hz rfl
      have hretuned : Tuned { ({ h with scheduler := some s' }.handleFreq inp.freq .scheduler hz).1
          with calFrameCntr := 0 } := by
        unfold handleFreq
        rw [if_pos hrange]
        simp only [hconfirmed, if_true]
        intro s'' hs''
        cases hs''
        exact htick
      simp only
      split
      · exact hretuned
      next params _ =>
        have hgained : Tuned (handleGain cfg inp.gain .scheduler params _).1 :=
          hretuned.aside (aside_handleGain cfg inp.gain .scheduler params _)
        exact hgained

lemma tuned_frameStep (ht : h.Tuned) (hdr : IqHeader M) (inp : FrameInputs)
    (hsteady : h.Steady (.frame hdr inp)) : (frameStep cfg hdr inp h).Tuned := by
  grind [frameStep_cases, tuned_schedulerStep]

lemma tuned_command (ht : h.Tuned) (cmd : Command) (v : Verdicts)
    (hsteady : h.Steady (.command cmd v)) :
    (h.handleControlReqest cfg v .wire cmd).1.Tuned := by
  cases cmd with
  | freq hz => exact hsteady.elim
  | gain params => exact ht.aside (aside_handleGain cfg v .wire _ h)
  | agc => grind [handleControlReqest, handleAgc, aside_enableAgc]
  | schd doc =>
    simp only [handleControlReqest, handleSchd]
    grind [Scheduler.onEntry_loadSchedule]
  | schs => grind [handleControlReqest, Scheduler.onEntry_clearSchedule]
  | schn => grind [handleControlReqest, Scheduler.onEntry_skipToNext]
  | egan params =>
    simp only [handleControlReqest, handleEgan]
    split
    · exact ht
    · split <;> exact ht
  | bias params =>
    simp only [handleControlReqest, handleBias]
    split
    · split
      · exact ht
      · exact ht.aside ⟨rfl, rfl, rfl⟩
    · exact ht
  | recl =>
    simp only [handleControlReqest]
    split <;> exact ht
  | ornt az el => exact ht.aside (aside_handleRotator cfg v true h)
  | park => exact ht.aside (aside_handleRotator cfg v false h)
  | scan => exact ht.aside (aside_handleRotator cfg v false h)
  | ostp => exact ht.aside (aside_handleRotator cfg v false h)
  | query q => exact ht
  | init => exact ht

lemma tuned_loopStep (ht : h.Tuned) {act : LoopAction M}
    (hsteady : h.Steady act) : (h.loopStep cfg act).Tuned := by
  cases act with
  | frame hdr inp =>
    simp only [loopStep]
    split
    · exact ht
    · exact tuned_frameStep cfg ht hdr inp hsteady
  | command cmd v =>
    simp only [loopStep]
    split
    · exact ht
    · exact tuned_command cfg ht cmd v hsteady

/-- In every run of steady actions, from a loop without a schedule, the confirmed
frequency is that of the entry the scheduler dwells on. -/
theorem dwelling_tuned (h : Hwc M) (hfresh : ∀ s ∈ h.scheduler, s.schedule = none)
    (actions : List (LoopAction M)) (hsteady : Along (loopStep cfg) Steady h actions) :
    ∀ s ∈ (run (loopStep cfg) h actions).scheduler, ∀ sched ∈ s.schedule, s.state = .dwelling →
      (run (loopStep cfg) h actions).rfCenterFrequency = sched.entry.frequency := by
  have hstart : h.Tuned := by
    intro s hs sched hsched
    rw [hfresh s hs] at hsched
    cases hsched
  have hstep : ∀ (h : Hwc M) act, h.Tuned → h.Steady act → (h.loopStep cfg act).Tuned :=
    fun _ _ ht hsteady => tuned_loopStep cfg ht hsteady
  have hrun := run_invariant (loopStep cfg) hstep actions h hstart hsteady
  intro s hs sched hsched hdwelling
  exact hrun s hs sched hsched (.inl hdwelling)

def unscheduled : Hwc 1 where
  iqHeader := ⟨.dummy, 0, 0, 433000000, fun _ => 0, 0⟩
  gains := fun _ => 0
  lastGains := fun _ => 0
  gainTuneStates := fun _ => false
  rfCenterFrequency := 433000000
  scheduler := some {}

def load (frequencies : List ℤ) : LoopAction 1 :=
  .command (.schd (some
    { name := .str "hop", entries := frequencies.map fun hz => { frequency := hz, dwellFrames := 1 } })) {}

/-- A schedule that starts where the tuner is; the second entry is dwelt on. -/
theorem dwelling_tuned_second_entry : (run (loopStep {}) unscheduled (load [433000000, 868000000] ::
        List.replicate 4 (dataFrame 6))).rfCenterFrequency = 868000000 ∧
      ∀ s ∈ (run (loopStep {}) unscheduled (load [433000000, 868000000] ::
          List.replicate 4 (dataFrame 6))).scheduler, ∀ sched ∈ s.schedule, s.state = .dwelling →
          (run (loopStep {}) unscheduled (load [433000000, 868000000] ::
            List.replicate 4 (dataFrame 6))).rfCenterFrequency = sched.entry.frequency :=
  ⟨by decide, dwelling_tuned {} unscheduled (by decide) _ (by decide)⟩

/-- A schedule that starts elsewhere: its first entry is dwelt on and never tuned. -/
theorem dwelling_untuned : ∃ s ∈ (run (loopStep {}) unscheduled
        [load [868000000, 433000000], dataFrame 6, dataFrame 6]).scheduler,
      ∃ sched ∈ s.schedule, s.state = .dwelling ∧ sched.entry.frequency = 868000000 ∧
        (run (loopStep {}) unscheduled
          [load [868000000, 433000000], dataFrame 6, dataFrame 6]).rfCenterFrequency =
            433000000 := by decide

end Hwc

end HeimdallDaq.HwController
