/-
  HwController/ScheduleJson.lean --- schedules from the wire.

  SCHD reads a JSON document, turns its dwell times into numbers of frames, in floats,
  and keeps the gains of its entries as they are.
-/
import HeimdallDaq.Federation.Distribution
import HeimdallDaq.HwController.DwellTuned

namespace HeimdallDaq.HwController

open Foundation List
open Federation (ScheduleParser.fromElement ScheduleParser.fromItems)

/-! ## Reading a document -/

def loadEntry (t : Timing) (e : Federation.ScheduleParser.ScheduleEntry) :
    Except PyError ScheduleEntry := do
  let frames ←
    match e.dwellTimeSec with
    | none => pure e.dwellFrames
    | some seconds => t.framesForSeconds seconds
  pure { frequency := e.frequency
         gains := e.gains
         dwellFrames := frames
         requireCal := e.requireCal.truthy }

def repeatModeOf (items : Dict Json) : RepeatMode :=
  match items.find "repeat_mode" with
  | none => .loop
  | some (.str mode) =>
    if mode = "loop" then .loop
    else if mode = "once" then .once
    else if mode = "pingpong" then .pingpong
    else .other
  | some _ => .other

def scheduleDocGen (items : Dict Json) : Option ℕ :=
  match items.find "gen" with
  | some (.int gen) => if 0 ≤ gen ∧ gen < 2 ^ 32 then some gen.toNat else none
  | _ => none

/-- `from_json` of an object and the conversion of its dwell times by `load_schedule`. -/
def loadItems (py : Python) (t : Timing) (items : Dict Json) : Except PyError ScheduleDoc := do
  let sched ← ScheduleParser.fromItems py items
  let entries ← sched.entries.mapM (loadEntry t)
  pure { name := sched.name
         entries := entries
         repeatMode := repeatModeOf items
         gen := scheduleDocGen items }

def loadJson (py : Python) (t : Timing) : Json → Except PyError ScheduleDoc
  | .obj items => loadItems py t items
  | v => .error (.builtin .attribute v)

/-! ## Gains the handler gets through -/

/-- Each channel the loop gets to has a value, which is a gain of the tuner or at least
an integer. -/
@[local grind]
def UsableGains (M : ℕ) (gains : Json) : Prop :=
  ∃ xs, gains = .arr xs ∧ ∀ m < M, (∀ i < m, ∃ x, xs[i]? = some x ∧ (gainIndexOf x).isSome) →
      ∃ x, xs[m]? = some x ∧ ((gainIndexOf x).isSome ∨ x.formatDecimal.isOk)

/-- The gains of every entry of the document are usable. -/
def UsableDocument (M : ℕ) (data : Json) : Prop :=
  ∀ items ∈ data.object?, ∀ entries,
    ((Dict.find "entries" items).getD (.arr [])).elements = .ok entries → ∀ entry ∈ entries,
      ∀ fields ∈ entry.object?, ∀ gains ∈ Json.given (Dict.find "gains" fields), UsableGains M gains

variable {py : Python}

lemma fromElement_gains {x : Json} {e : Federation.ScheduleParser.ScheduleEntry}
    (h : ScheduleParser.fromElement py x = .ok e) :
    ∃ fields, x.object? = some fields ∧ e.gains = Json.given (Dict.find "gains" fields) := by
  cases x with
  | obj fields =>
    refine ⟨fields, rfl, ?_⟩
    simp only [Federation.ScheduleParser.fromElement, Federation.ScheduleParser.fromEntry, bind,
      Except.bind, pure, Except.pure] at h
    repeat' split at h
    all_goals cases h <;> rfl
  | _ => cases h

lemma loadEntry_gains {t : Timing} {e : Federation.ScheduleParser.ScheduleEntry}
    {r : ScheduleEntry} (h : loadEntry t e = .ok r) : r.gains = e.gains := by
  unfold loadEntry at h
  split at h <;>
  · obtain ⟨frames, -, h⟩ := bind_eq_ok.mp h
    cases h
    rfl

lemma usableDocument_iff {M : ℕ} {t : Timing} {data : Json} {doc : ScheduleDoc}
    (h : loadJson py t data = .ok doc) :
    UsableDocument M data ↔ ∀ e ∈ doc.entries, ∀ gains ∈ e.gains, UsableGains M gains := by
  cases data with
  | obj items =>
    obtain ⟨sched, hsched, h⟩ := bind_eq_ok.mp h
    obtain ⟨entries, hentries, h⟩ := bind_eq_ok.mp h
    cases h
    obtain ⟨elements, helements, hsched⟩ := bind_eq_ok.mp hsched
    obtain ⟨parsed, hparsed, hsched⟩ := bind_eq_ok.mp hsched
    cases hsched
    obtain ⟨read, hread, rfl⟩ := exists_map_of_mapM ⟨0, none, 0, .null, none⟩ hparsed
    obtain ⟨load, hload, rfl⟩ := exists_map_of_mapM ⟨0, none, 0, true⟩ hentries
    rw [forall_mem_map] at hload
    have hgains : ∀ x ∈ elements, ∃ fields, x.object? = some fields ∧
        (load (read x)).gains = Json.given (Dict.find "gains" fields) := by
      intro x hx
      rw [loadEntry_gains (hload x hx)]
      exact fromElement_gains (hread x hx)
    have hdoc : UsableDocument M (.obj items) ↔ ∀ x ∈ elements, ∀ fields ∈ x.object?,
        ∀ gains ∈ Json.given (Dict.find "gains" fields), UsableGains M gains := by
      simp only [UsableDocument, Json.object?, Option.mem_some_iff, forall_eq', helements,
        Except.ok.injEq]
    rw [hdoc, map_map, forall_mem_map]
    refine forall₂_congr fun x hx => ?_
    obtain ⟨fields, hfields, heq⟩ := hgains x hx
    simp only [hfields, Option.mem_some_iff, forall_eq', Function.comp_apply, heq]
  | _ => cases h

/-! ## The GAIN handler -/

namespace Hwc

@[local grind]
def GainLoop.Caught : GainLoop → Prop
  | .stored | .improper => True
  | .raised _ => False

variable {M : ℕ}

lemma storeGains_caught_from (xs : List Json) (j : ℕ) (hj : j ≤ M)
    (hbefore : ∀ i < j, ∃ x, xs[i]? = some x ∧ (gainIndexOf x).isSome) :
    ∀ gains : Fin M → GainIndex, (storeGains (.arr xs) ((List.finRange M).drop j) gains).2.Caught ↔
        ∀ m < M, j ≤ m → (∀ i < m, ∃ x, xs[i]? = some x ∧ (gainIndexOf x).isSome) →
          ∃ x, xs[m]? = some x ∧ ((gainIndexOf x).isSome ∨ x.formatDecimal.isOk) := by
  -- down from the last channel
  induction hleft : M - j generalizing j with
  | zero =>
    intro gains
    have hend : j = M := by omega
    rw [drop_eq_nil_of_le (by simp [hend])]
    exact ⟨fun _ m hm hjm => absurd hm (by omega), fun _ => trivial⟩
  | succ left ih =>
    intro gains
    have hlt : j < M := by omega
    rw [drop_eq_getElem_cons (by simpa using hlt), getElem_finRange]
    simp only [storeGains, Json.item, Fin.val_cast]
    cases hx : xs[j]? with
    | none => grind
    | some x =>
      simp only
      cases hgain : gainIndexOf x with
      | some index =>
        have hnext : ∀ i < j + 1, ∃ x, xs[i]? = some x ∧ (gainIndexOf x).isSome := by
          intro i hi
          rcases Nat.lt_succ_iff_lt_or_eq.mp hi with hi | rfl
          · exact hbefore i hi
          · exact ⟨x, hx, by rw [hgain]; rfl⟩
        grind
      | none =>
        simp only
        cases hformat : x.formatDecimal with
        | ok u =>
          refine ⟨fun _ m hm hjm hbelow => ?_, fun _ => trivial⟩
          rcases Nat.eq_or_lt_of_le hjm with rfl | hjm
          · exact ⟨x, hx, .inr (by rw [hformat]; rfl)⟩
          all_goals grind
        | error msg =>
          refine ⟨False.elim, fun hall => ?_⟩
          obtain ⟨y, hy, hfine⟩ := hall j hlt le_rfl hbefore
          cases hx.symm.trans hy
          rw [hgain, hformat] at hfine
          rcases hfine with hfine | hfine <;> cases hfine

lemma storeGains_caught_iff (hM : 0 < M) (params : Json) (gains : Fin M → GainIndex) :
    (storeGains params (List.finRange M) gains).2.Caught ↔ UsableGains M params := by
  obtain ⟨n, rfl⟩ := Nat.exists_eq_add_of_lt hM
  cases params with
  | arr xs =>
    have hfrom := storeGains_caught_from xs 0 (Nat.zero_le _) nofun gains
    grind
  | str s =>
    grind [finRange_succ, storeGains, Json.item, gainIndexOf, Json.formatDecimal]
  | null | bool b | int n | float x | obj items =>
    refine ⟨fun hcaught => ?_, fun ⟨_, heq, _⟩ => nomatch heq⟩
    rw [finRange_succ] at hcaught
    exact hcaught.elim

lemma handleGain_isOk_iff (hM : 0 < M) (cfg : Config) (v : Verdicts) (sender : Sender)
    (params : Json) (h : Hwc M) :
    (h.handleGain cfg v sender params).2.isOk ↔ UsableGains M params := by
  unfold handleGain
  split
  · rw [← storeGains_caught_iff hM params h.lastGains]
    split
    next hloop => simp [hloop, GainLoop.Caught, Except.isOk, Except.toBool]
    next hloop => simp [hloop, GainLoop.Caught, Except.isOk, Except.toBool]
    next hloop => simp [hloop, GainLoop.Caught, Except.isOk, Except.toBool]
  · rw [← storeGains_caught_iff hM params h.gains]
    split
    next hloop =>
      simp only [hloop, GainLoop.Caught, iff_true]
      split_ifs <;> rfl
    next hloop => simp [hloop, GainLoop.Caught, Except.isOk, Except.toBool]
    next hloop => simp [hloop, GainLoop.Caught, Except.isOk, Except.toBool]

end Hwc

/-! ## The entries of a loaded schedule -/

namespace Scheduler

def AllEntries (P : ScheduleEntry → Prop) (s : Scheduler) : Prop :=
  ∀ sched ∈ s.schedule, ∀ e ∈ sched.entries, P e

variable {P : ScheduleEntry → Prop} {s : Scheduler}

lemma AllEntries.persistState (h : s.AllEntries P) : s.persistState.AllEntries P := by
  unfold AllEntries
  rw [persistState_schedule]
  exact h

end Scheduler

lemma Schedule.advanceIndex_entries (sched : Schedule) (forward : Bool) :
    (sched.advanceIndex forward).1.entries = sched.entries := by
  have hmove : ∀ i, (sched.moveTo i).entries = sched.entries := by
    intro i
    cases i <;> rfl
  grind [Schedule.advanceIndex]

namespace Scheduler

variable {P : ScheduleEntry → Prop} {s : Scheduler} {sched : Schedule}

lemma allEntries_doTransition (h : ∀ e ∈ sched.entries, P e) :
    (s.doTransition sched).1.AllEntries P := by
  grind [Schedule.advanceIndex_entries, doTransition, AllEntries.persistState, AllEntries]

lemma allEntries_tick {M : ℕ} (h : s.AllEntries P) (hdr : IqHeader M) :
    (s.tick hdr).1.AllEntries P := by
  unfold tick
  split
  · exact h
  next sched hsched =>
    have hall := h sched hsched
    split
    · exact h
    · split
      · exact h
      · split
        · rintro sched' ⟨⟩
          exact hall
        · cases s.state with
          | idle => exact h
          | waitingCal =>
            simp only
            split
            · rintro sched' ⟨⟩
              exact hall
            · split
              · exact allEntries_doTransition hall
              · exact h
          | dwelling =>
            simp only
            generalize hcounted : (if hdr.frameType = .data then
              { sched with framesAtCurrent := sched.framesAtCurrent + 1 } else sched) = counted
            have hentries : counted.entries = sched.entries := by
              rw [← hcounted]
              split <;> rfl
            rw [← hentries] at hall
            split
            · exact allEntries_doTransition hall
            · rintro sched' ⟨⟩
              exact hall

lemma resumeIndex_eq (sched : Schedule) {i : ℕ} {text : String} (hi : i < sched.entries.length)
    (hname : sched.name = .str text) (hdb : s.db = some (some ⟨.str text, i, true⟩)) :
    s.resumeIndex sched = some ⟨i, hi⟩ := by
  unfold resumeIndex
  simp [hdb, hname, hi]

variable {doc : ScheduleDoc}

lemma loadSchedule_resumes {i : ℕ} {text : String} (hi : i < doc.entries.length)
    (hname : doc.name = .str text) (hdb : s.db = some (some ⟨.str text, i, true⟩)) :
    ∃ sched, (s.loadSchedule doc).schedule = some sched ∧ sched.active ∧
      sched.entry = doc.entries[i] ∧ (s.loadSchedule doc).state = .waitingCal ∧
      (s.loadSchedule doc).pendingRetune := by
  rw [loadSchedule_schedule, loadSchedule_state, loadSchedule_pendingRetune]
  unfold activate
  obtain ⟨name, entries, repeatMode, gen⟩ := doc
  cases entries with
  | nil => exact absurd hi (Nat.not_lt_zero i)
  | cons first rest =>
    have hresume := resumeIndex_eq (s := s)
      { name := name, entries := first :: rest, repeatMode := repeatMode, active := true,
        currentIndex := ⟨0, by simp⟩, framesAtCurrent := 0 } hi hname hdb
    simp only [hresume]
    exact ⟨_, rfl, rfl, rfl, trivial, trivial⟩

lemma tick_pendingRetune {M : ℕ} (hsched : s.schedule = some sched)
    (hactive : sched.active) (hstate : s.state = .waitingCal)
    (hpending : s.pendingRetune) {hdr : IqHeader M} (hquiet : hdr.noiseSourceState ≠ 1) :
    (s.tick hdr).2 = some sched.entry.frequency ∧
      (s.tick hdr).1.getPendingGain = sched.entry.gains := by
  have hgo : ¬ (sched.active = false ∨ s.state = .idle) := by
    rw [hactive, hstate]
    decide
  unfold tick
  simp only [hsched, if_neg hgo, if_neg hquiet, hpending, if_true, true_and]
  unfold getPendingGain
  simp only [hactive, if_true]
  rfl

lemma allEntries_loadSchedule (hne : doc.entries ≠ []) (h : ∀ e ∈ doc.entries, P e) :
    (s.loadSchedule doc).AllEntries P := by
  unfold AllEntries
  rw [loadSchedule_schedule]
  grind [activate]

lemma AllEntries.getPendingGain (h : s.AllEntries P) {gains : Json}
    (hgains : s.getPendingGain = some gains) : ∃ e, P e ∧ e.gains = some gains := by
  unfold Scheduler.getPendingGain at hgains
  split at hgains
  · cases hgains
  next sched hsched =>
    split at hgains
    · exact ⟨sched.entry, h sched hsched _ (get_mem _ _), hgains⟩
    · cases hgains

end Scheduler

/-! ## The scheduler step -/

namespace Hwc

variable {M : ℕ} (cfg : Config)

/-- The tick of this frame commands a retune, and the gains that go with it are not
usable. -/
def GainsFail (s : Scheduler) (hdr : IqHeader M) : Prop :=
  (s.tick hdr).2.isSome ∧ ∃ gains ∈ (s.tick hdr).1.getPendingGain, ¬ UsableGains M gains

lemma handleFreq_fields (v : Verdicts) (sender : Sender) (hz : ℤ) (h : Hwc M) :
    (h.handleFreq v sender hz).1.crashed = h.crashed ∧
      (h.handleFreq v sender hz).1.scheduler = h.scheduler := by
  unfold handleFreq
  split
  · simp only
    split <;> exact ⟨rfl, rfl⟩
  · exact ⟨rfl, rfl⟩

variable {h : Hwc M}

lemma schedulerStep_spec (hM : 0 < M) (inp : FrameInputs) (hlive : h.crashed = false) :
    (schedulerStep cfg inp h).scheduler = h.scheduler.map (fun s => (s.tick h.iqHeader).1) ∧
      ((schedulerStep cfg inp h).crashed ↔ ∃ s ∈ h.scheduler, GainsFail s h.iqHeader) := by
  unfold schedulerStep
  cases hs : h.scheduler with
  | none => simp [hs, hlive]
  | some s =>
    simp only [Option.mem_some_iff, exists_eq_left', Option.map_some]
    unfold GainsFail
    rcases htick : s.tick h.iqHeader with ⟨s', due⟩
    cases due with
    | none => simp [hlive]
    | some hz =>
      have hfreq := handleFreq_fields inp.freq .scheduler hz { h with scheduler := some s' }
      cases hgains : s'.getPendingGain with
      | none => simpa [hgains, hlive] using hfreq.symm
      | some params =>
        have haside := aside_handleGain (M := M) cfg inp.gain .scheduler params
        simp only [hgains, Option.isSome_some, true_and, Option.mem_some_iff, exists_eq_left']
        refine ⟨(haside _).1.trans hfreq.2, ?_⟩
        rw [(haside _).2.2, hfreq.1, hlive, Bool.false_or, Bool.not_eq_true', ← Bool.not_eq_true,
          handleGain_isOk_iff hM cfg inp.gain .scheduler params]

/-- A frame lets an exception escape exactly when it gets to the scheduler step and the
gains fail there. -/
lemma frameStep_crashed_iff (hM : 0 < M) (hdr : IqHeader M) (inp : FrameInputs)
    (hlive : h.crashed = false) : (frameStep cfg hdr inp h).crashed ↔
      h.currentState = .iqCal ∧ hdr.frameType ≠ .dummy ∧ ∃ s ∈ h.scheduler, GainsFail s hdr := by
  rcases frameStep_cases cfg hdr inp h with
    ⟨hstate, hdata, h', hcontrol, hheader, hstep⟩ | ⟨helse, hrest⟩
  · rw [hstep, (schedulerStep_spec cfg hM inp (hcontrol.2.2.trans hlive)).2, hcontrol.1, hheader]
    simp only [hstate, hdata, ne_eq, not_false_eq_true, true_and]
  · rw [hrest.2.2, hlive]
    exact ⟨nofun, fun hall => absurd ⟨hall.1, hall.2.1⟩ helse⟩

@[local grind]
def Playable (h : Hwc M) : Prop :=
  ∀ s ∈ h.scheduler, s.AllEntries fun e => ∀ gains ∈ e.gains, UsableGains M gains

lemma playable_frameStep (hM : 0 < M) (hdr : IqHeader M) (inp : FrameInputs)
    (hlive : h.crashed = false) (hplay : h.Playable) : (frameStep cfg hdr inp h).Playable := by
  rcases frameStep_cases cfg hdr inp h with ⟨-, -, h', hcontrol, -, hstep⟩ | ⟨-, hrest⟩
  · intro s' hs'
    rw [hstep, (schedulerStep_spec cfg hM inp (hcontrol.2.2.trans hlive)).1, hcontrol.1] at hs'
    obtain ⟨s, hs, rfl⟩ := Option.map_eq_some_iff.mp hs'
    exact Scheduler.allEntries_tick (hplay s hs) _
  · unfold Playable
    rw [hrest.1]
    exact hplay

lemma frameStep_live (hM : 0 < M) (hdr : IqHeader M) (inp : FrameInputs)
    (hlive : h.crashed = false) (hplay : h.Playable) :
    (frameStep cfg hdr inp h).crashed = false := by
  rw [← Bool.not_eq_true, frameStep_crashed_iff cfg hM hdr inp hlive]
  rintro ⟨-, -, s, hs, -, gains, hgains, hfail⟩
  have hticked := Scheduler.allEntries_tick (hplay s hs) hdr
  obtain ⟨e, husable, he⟩ := hticked.getPendingGain hgains
  exact hfail (husable gains he)

def playFrames (h : Hwc M) (frames : List (IqHeader M × FrameInputs)) : Hwc M :=
  run (fun h f => h.loopStep cfg (.frame f.1 f.2)) h frames

lemma playFrames_live (hM : 0 < M) (hlive : h.crashed = false)
    (hplay : h.Playable) (frames : List (IqHeader M × FrameInputs)) :
    (h.playFrames cfg frames).crashed = false := by
  have hstep : ∀ (h : Hwc M) (f : IqHeader M × FrameInputs), h.crashed = false ∧ h.Playable →
        (h.loopStep cfg (.frame f.1 f.2)).crashed = false ∧
          (h.loopStep cfg (.frame f.1 f.2)).Playable := by
    rintro h ⟨hdr, inp⟩ ⟨hlive, hplay⟩
    simp only [loopStep, hlive, Bool.false_eq_true, if_false]
    exact ⟨frameStep_live cfg hM hdr inp hlive hplay, playable_frameStep cfg hM hdr inp hlive hplay⟩
  exact (run_of_step _ hstep frames h ⟨hlive, hplay⟩).1

variable {doc : ScheduleDoc}

lemma playable_handleSchd (hne : doc.entries ≠ [])
    (husable : ∀ e ∈ doc.entries, ∀ gains ∈ e.gains, UsableGains M gains) (h : Hwc M)
    (happlied : (h.handleSchd (some doc)).2.1 = some true) :
    (h.handleSchd (some doc)).1.Playable := by
  grind [handleSchd, Scheduler.allEntries_loadSchedule]

lemma handleSchd_crashed (doc : Option ScheduleDoc) (h : Hwc M) :
    (h.handleSchd doc).1.crashed = h.crashed := by
  grind [handleSchd]

def quietFrame (M : ℕ) : IqHeader M := ⟨.data, 0, 6, 0, fun _ => 0, 0⟩

def resuming (M : ℕ) (name : String) (index : ℕ) : Hwc M where
  iqHeader := quietFrame M
  currentState := .iqCal
  gains := fun _ => 0
  lastGains := fun _ => 0
  gainTuneStates := fun _ => false
  rfCenterFrequency := 0
  scheduler := some { db := some (some ⟨.str name, index, true⟩) }

lemma resuming_crashes (hM : 0 < M) {i : ℕ} (hi : i < doc.entries.length) {text : String}
    (hname : doc.name = .str text) {gains : Json} (hgains : doc.entries[i].gains = some gains)
    (hfail : ¬ UsableGains M gains) (inp : FrameInputs) :
    (((resuming M text i).handleSchd (some doc)).1.playFrames cfg
      [(quietFrame M, inp)]).crashed := by
  have hne : doc.entries ≠ [] := ne_nil_of_length_pos (Nat.zero_lt_of_lt hi)
  have hlogged : doc.logged := by rw [ScheduleDoc.logged, hname]; rfl
  obtain ⟨sched, hsched, hactive, hentry, hstate, hpending⟩ :=
    Scheduler.loadSchedule_resumes (s := { db := some (some ⟨.str text, i, true⟩) }) hi hname rfl
  have hquiet : (quietFrame M).noiseSourceState ≠ 1 := Nat.zero_ne_one
  obtain ⟨hdue, hpendingGain⟩ :=
    Scheduler.tick_pendingRetune hsched hactive hstate hpending hquiet
  rw [hentry, hgains] at hpendingGain
  have hlive : ((resuming M text i).handleSchd (some doc)).1.crashed = false :=
    handleSchd_crashed (some doc) (resuming M text i)
  simp only [playFrames, run_cons, run_nil, loopStep, hlive, Bool.false_eq_true, if_false]
  rw [frameStep_crashed_iff cfg hM (quietFrame M) inp hlive]
  simp only [handleSchd, resuming, if_neg hne, hlogged, if_true]
  refine ⟨trivial, by simp [quietFrame], _, rfl, ?_, gains, hpendingGain, hfail⟩
  rw [hdue]
  rfl

def oneEntry (gains : Json) : Json :=
  .obj [("entries", .arr [.obj [("frequency", .int 433000000), ("dwell_frames", .int 1),
    ("gains", gains)]])]

def oneEntryDoc (gains : Json) : ScheduleDoc :=
  { name := .str "json_schedule"
    entries := [{ frequency := 433000000, gains := some gains, dwellFrames := 1 }] }

def wordless : Python where
  intOfText _ := none
  floatOfText _ := none
  floatOfInt n := some (.fin n)
  repr _ := ""
  errorText _ _ := ""
  isSpace c := c = ' '
  lower s := s

end Hwc

end HeimdallDaq.HwController
