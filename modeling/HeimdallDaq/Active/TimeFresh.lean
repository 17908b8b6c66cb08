/-
  Active/TimeFresh.lean --- timed operation and the age of the device time.

  A device's time is fresh from a completed time load on until the device is opened
  again or its clock source, time source or clock rate is changed.
-/
import HeimdallDaq.Active.Backend
import HeimdallDaq.Foundation.Runs

namespace HeimdallDaq.Active

open Foundation Backend

variable {δ : Type} [DecidableEq δ]

inductive Op (δ : Type)
  | «open» (hook paOff : Bool)
  | close
  | invalidateTime
  | syncing (enter : Bool)
  | setClockSource (device : Option δ) (quiet hook : Bool)
  | setTimeSource (device : Option δ) (quiet hook : Bool)
  | setMasterClockRate (hz : PyFloat) (device : Option δ) (quiet hook : Bool)
  | setTimeUnknownPps (group : Option String) (quiet isTime hook : Bool)
  | setTimeNextPps (device : Option δ) (quiet isTime hook : Bool)
  | setTimeNow (device : Option δ) (quiet isTime hook : Bool)
  | setCommandTime (t : ℚ) (device : Option δ) (hook : Bool)
  | clearCommandTime (device : Option δ) (hook : Bool)
  | setLoSource (dir : Direction) (src : LoSource) (device : δ) (quiet : Bool)
      (hook : Backend.LoHook)
  | setLoExport (dir : Direction) (enabled : Bool) (device : δ) (quiet : Bool)
      (hook : Backend.LoHook)
  | tune (dir : Direction) (freq lo : PyFloat) (timed bump : Bool) (a : Backend.TuneAnswer δ)
  | rxStart (isTime hook : Bool)
  | rxCapture (usable hook : Bool)
  | rxStop (hook : Bool)
  | txBurst (sent : Bool)

def Called.forget {α : Type} (c : Called δ α) : Called δ Unit :=
  ⟨c.backend, c.events, c.result.map fun _ => ()⟩

variable (cfg : Config δ)

def Op.call (b : Backend δ) : Op δ → Called δ Unit
  | .open hook paOff => b.open hook paOff
  | .close => b.close
  | .invalidateTime => b.invalidateTime
  | .syncing enter => b.syncing enter
  | .setClockSource device quiet hook => b.setClockSource cfg device quiet hook
  | .setTimeSource device quiet hook => b.setTimeSource cfg device quiet hook
  | .setMasterClockRate hz device quiet hook => b.setMasterClockRate cfg hz device quiet hook
  | .setTimeUnknownPps group quiet isTime hook => b.setTimeUnknownPps cfg group quiet isTime hook
  | .setTimeNextPps device quiet isTime hook => b.setTimeNextPps cfg device quiet isTime hook
  | .setTimeNow device quiet isTime hook => b.setTimeNow cfg device quiet isTime hook
  | .setCommandTime t device hook => b.setCommandTime cfg t device hook
  | .clearCommandTime device hook => b.clearCommandTime cfg device hook
  | .setLoSource dir src device quiet hook => b.setLoSource cfg dir src device quiet hook
  | .setLoExport dir enabled device quiet hook => b.setLoExport cfg dir enabled device quiet hook
  | .tune dir freq lo timed bump a => (b.tune cfg dir freq lo timed bump a).forget
  | .rxStart isTime hook => b.rxStart cfg isTime hook
  | .rxCapture usable hook => b.rxCapture cfg usable hook
  | .rxStop hook => b.rxStop hook
  | .txBurst sent => b.txBurst cfg sent

def Op.timed : Op δ → Bool
  | .rxStart .. => true
  | .rxCapture .. => true
  | .txBurst .. => true
  | _ => false

def Op.reference : Op δ → Option (Option δ)
  | .setClockSource device _ _ => some device
  | .setTimeSource device _ _ => some device
  | .setMasterClockRate _ device _ _ => some device
  | _ => none

/-! ## Freshness -/

@[local grind]
def Event.fresh (fresh : Finset δ) : Event δ → Finset δ
  | .opened => ∅
  | .changed devices => fresh \ devices.toFinset
  | .loaded devices => fresh ∪ devices.toFinset

structure World (δ : Type) where
  backend : Backend δ := {}
  fresh : Finset δ := ∅

def World.step (w : World δ) (op : Op δ) : World δ where
  backend := (op.call cfg w.backend).backend
  fresh := (op.call cfg w.backend).events.foldl Event.fresh w.fresh

/-- A reference change finds every device loaded or tuned, or none of the devices it is
for loaded. -/
def World.Admits (w : World δ) (op : Op δ) : Prop :=
  match op.reference with
  | none => True
  | some device => w.backend.reached cfg .timeSet ∨
      ∀ d ∈ (cfg.devs device).getD [], d ∉ w.backend.timeSet

instance (cfg : Config δ) (w : World δ) (op : Op δ) : Decidable (w.Admits cfg op) :=
  match h : op.reference with
  | none => isTrue (by unfold World.Admits; rw [h]; trivial)
  | some device =>
    decidable_of_iff (w.backend.reached cfg .timeSet ∨
      ∀ d ∈ (cfg.devs device).getD [], d ∉ w.backend.timeSet) (by unfold World.Admits; rw [h])

/-! ## What a call does to the loads -/

/-- The ways in which a call changes the set of loaded devices. -/
@[local grind]
inductive Effect (cfg : Config δ) (b : Backend δ) (op : Op δ) (c : Called δ Unit) : Prop
  | quiet (hopen : c.backend.isOpen → b.isOpen)
      (htime : c.backend.timeSet ⊆ b.timeSet) (hevents : c.events = [])
  | opened (htime : c.backend.isOpen → c.backend.timeSet = ∅)
      (hevents : c.events = [.opened])
  | changed (device : Option δ) (devices : List δ) (href : op.reference = some device)
      (hdevices : cfg.devs device = some devices) (hopen : c.backend.isOpen = b.isOpen)
      (htime : c.backend.timeSet = if b.reached cfg .timeSet then ∅ else b.timeSet)
      (hevents : c.events = [.changed devices])
  | loaded (devices : List δ) (hopen : c.backend.isOpen = b.isOpen)
      (htime : c.backend.timeSet = b.timeSet ∪ devices.toFinset)
      (hevents : c.events = [.loaded devices])

section Effects

variable {cfg : Config δ} {b : Backend δ} {op : Op δ}

lemma Effect.refuse (stop : Stop) : Effect cfg b op (b.refuse stop) :=
  .quiet id (fun _ h => h) rfl

lemma Effect.same {c : Called δ Unit} (hopen : c.backend.isOpen = b.isOpen)
    (htime : c.backend.timeSet = b.timeSet) (hevents : c.events = []) : Effect cfg b op c :=
  .quiet (fun h => hopen.symm.trans h) (by rw [htime]) hevents

lemma noteReference_isOpen (part : Backend.Reference) (devices : List δ) :
    (b.noteReference part devices).isOpen = b.isOpen ∧
      (b.noteReference part devices).timeSet = b.timeSet := by cases part <;> exact ⟨rfl, rfl⟩

lemma dropTime_isOpen : (b.dropTime cfg).isOpen = b.isOpen ∧
    (b.dropTime cfg).timeSet = if b.reached cfg .timeSet then ∅ else b.timeSet := by
  unfold dropTime
  split <;> exact ⟨rfl, rfl⟩

lemma effect_open (hook paOff : Bool) : Effect cfg b op (b.open hook paOff) := by
  unfold Backend.open
  split
  · exact .refuse _
  · next hclosed =>
      split
      · exact .opened (fun h => absurd h hclosed) rfl
      · split
        · exact .opened (fun _ => rfl) rfl
        · exact .opened (fun h => by cases h) rfl

lemma effect_close : Effect cfg b op b.close := by grind [close]

lemma effect_changeReference {part : Backend.Reference} {device : Option δ}
    (href : op.reference = some device) (quiet usable hook : Bool) :
    Effect cfg b op (b.changeReference cfg part device quiet usable hook) := by
  grind [changeReference, Effect.refuse, noteReference_isOpen, dropTime_isOpen]

lemma effect_loadTime (devices : Option (List δ)) (quiet isTime hook : Bool) :
    Effect cfg b op (b.loadTime cfg devices quiet isTime hook) := by
  unfold loadTime
  split
  · exact .refuse _
  split
  · exact .refuse _
  split
  · exact .refuse _
  split
  · exact .refuse _
  next devices =>
    split
    · exact .loaded devices rfl rfl rfl
    · exact .refuse _

lemma effect_setCommandTime (t : ℚ) (device : Option δ) (hook : Bool) :
    Effect cfg b op (b.setCommandTime cfg t device hook) := by
  unfold setCommandTime
  split
  · exact .refuse _
  split
  · exact .refuse _
  · exact .same rfl rfl rfl

lemma effect_clearCommandTime (device : Option δ) (hook : Bool) :
    Effect cfg b op (b.clearCommandTime cfg device hook) := by
  grind [clearCommandTime, Effect.refuse]

omit [DecidableEq δ] in
lemma bumpOutsideSync_isOpen : b.bumpOutsideSync.isOpen = b.isOpen ∧
    b.bumpOutsideSync.timeSet = b.timeSet := by
  unfold bumpOutsideSync
  split <;> exact ⟨rfl, rfl⟩

variable (dir : Direction)

lemma effect_setLoSource (src : LoSource) (device : δ) (quiet : Bool)
    (hook : Backend.LoHook) : Effect cfg b op (b.setLoSource cfg dir src device quiet hook) := by
  grind [setLoSource, Effect.refuse, bumpOutsideSync_isOpen]

lemma effect_setLoExport (enabled : Bool) (device : δ) (quiet : Bool)
    (hook : Backend.LoHook) : Effect cfg b op (b.setLoExport cfg dir enabled device quiet hook) := by
  grind [setLoExport, Effect.refuse, bumpOutsideSync_isOpen]

lemma effect_tune (freq lo : PyFloat) (timed bump : Bool)
    (a : Backend.TuneAnswer δ) : Effect cfg b op (b.tune cfg dir freq lo timed bump a).forget := by
  unfold tune
  split
  · exact .refuse _
  split
  · exact .refuse _
  split
  · exact .refuse _
  split
  · exact .refuse _
  simp only
  split <;> exact .same rfl rfl rfl

lemma effect_rxStart (isTime hook : Bool) : Effect cfg b op (b.rxStart cfg isTime hook) := by
  unfold rxStart
  split
  · exact .refuse _
  split
  · exact .same rfl rfl rfl
  · exact .refuse _

lemma effect_rxCapture (usable hook : Bool) : Effect cfg b op (b.rxCapture cfg usable hook) := by
  unfold rxCapture
  split
  · exact .refuse _
  · exact .same rfl rfl rfl

lemma effect_rxStop (hook : Bool) : Effect cfg b op (b.rxStop hook) := by
  unfold rxStop
  split <;> exact .same rfl rfl rfl

lemma effect_txBurst (sent : Bool) : Effect cfg b op (b.txBurst cfg sent) := by
  unfold txBurst
  split
  · exact .refuse _
  split
  · exact .refuse _
  · exact .same rfl rfl rfl

end Effects

lemma call_effect (b : Backend δ) (op : Op δ) : Effect cfg b op (op.call cfg b) := by
  cases op with
  | «open» hook paOff => exact effect_open hook paOff
  | close => exact effect_close
  | invalidateTime => exact .quiet id (fun _ h => by cases h) rfl
  | syncing enter => exact .same rfl rfl rfl
  | setClockSource device quiet hook => exact effect_changeReference rfl quiet true hook
  | setTimeSource device quiet hook => exact effect_changeReference rfl quiet true hook
  | setMasterClockRate hz device quiet hook => exact effect_changeReference rfl quiet _ hook
  | setTimeUnknownPps group quiet isTime hook => exact effect_loadTime _ quiet isTime hook
  | setTimeNextPps device quiet isTime hook => exact effect_loadTime _ quiet isTime hook
  | setTimeNow device quiet isTime hook => exact effect_loadTime _ quiet isTime hook
  | setCommandTime t device hook => exact effect_setCommandTime t device hook
  | clearCommandTime device hook => exact effect_clearCommandTime device hook
  | setLoSource dir src device quiet hook => exact effect_setLoSource dir src device quiet hook
  | setLoExport dir enabled device quiet hook =>
    exact effect_setLoExport dir enabled device quiet hook
  | tune dir freq lo timed bump a => exact effect_tune dir freq lo timed bump a
  | rxStart isTime hook => exact effect_rxStart isTime hook
  | rxCapture usable hook => exact effect_rxCapture usable hook
  | rxStop hook => exact effect_rxStop hook
  | txBurst sent => exact effect_txBurst sent

/-! ## Runs -/

@[local grind]
def World.Sound (w : World δ) : Prop := w.backend.isOpen → w.backend.timeSet ⊆ w.fresh

variable {cfg : Config δ}

lemma sound_step (w : World δ) (op : Op δ) (h : w.Sound)
    (hadm : w.Admits cfg op) : (w.step cfg op).Sound := by
  intro hopen
  have hstep : (w.step cfg op).backend = (op.call cfg w.backend).backend := rfl
  have hfresh : (w.step cfg op).fresh = (op.call cfg w.backend).events.foldl Event.fresh w.fresh := rfl
  rw [hstep] at hopen ⊢
  rw [hfresh]
  cases call_effect cfg w.backend op with
  | quiet hopen' htime hevents =>
    rw [hevents]
    exact htime.trans (h (hopen' hopen))
  | opened htime hevents =>
    rw [htime hopen]
    exact Finset.empty_subset _
  | changed device devices href hdevices hopen' htime hevents =>
    grind [World.Admits, List.mem_toFinset.mp]
  | loaded devices hopen' htime hevents =>
    rw [htime, hevents]
    exact Finset.union_subset_union_left (h (hopen'.symm.trans hopen))

/-- A call that needs the time aligned succeeds only on an open backend that takes every
device for loaded. -/
lemma timeOk_of_timed {b : Backend δ} {op : Op δ} (htimed : op.timed)
    (hreq : cfg.timeRequired) (hok : (op.call cfg b).result = .ok ()) :
    b.isOpen ∧ b.timeOk cfg := by
  have hstream : b.streamOk cfg → b.isOpen ∧ b.timeOk cfg := by
    intro h
    unfold streamOk reached at h
    rw [hreq, Bool.and_eq_true, decide_eq_true_iff] at h
    refine ⟨?_, by simpa using h.2⟩
    by_contra hclosed
    have hphase : b.phase cfg = .closed := if_pos (by simpa using hclosed)
    rw [hphase] at h
    exact absurd h.1 (by decide)
  cases op with
  | rxStart isTime hook =>
    refine hstream (by_contra fun hno => ?_)
    have hcall : (b.rxStart cfg isTime hook).result = .error .backend := by
      unfold rxStart
      rw [if_pos (.inl (by simpa using hno))]
      rfl
    exact absurd (hcall.symm.trans hok) nofun
  | rxCapture usable hook =>
    refine hstream (by_contra fun hno => ?_)
    have hcall : (b.rxCapture cfg usable hook).result = .error .backend := by
      unfold rxCapture
      rw [if_pos (.inl (by simpa using hno))]
      rfl
    exact absurd (hcall.symm.trans hok) nofun
  | txBurst sent =>
    have hok' : (b.txBurst cfg sent).result = .ok () := hok
    unfold txBurst at hok'
    split at hok'
    · cases hok'
    next hready =>
      split at hok'
      · cases hok'
      next hloaded =>
        push Not at hready hloaded
        exact ⟨by simpa using hready.1, by simpa using hloaded hreq⟩
  | _ => cases htimed

/-- In every run whose reference changes all find the backend in phase TIME_SET or later,
or their devices not loaded, a timed operation that succeeds while an aligned time is
required finds on every device a time load completed after its last opening and after its
last reference change. -/
theorem timed_operation_fresh (cfg : Config δ) (ops : List (Op δ))
    (hadm : Along (World.step cfg) (World.Admits cfg) {} ops) (op : Op δ)
    (htimed : op.timed) (hreq : cfg.timeRequired)
    (hok : (op.call cfg (run (World.step cfg) {} ops).backend).result = .ok ()) :
    ∀ d ∈ cfg.names, d ∈ (run (World.step cfg) {} ops).fresh := by
  have hsound : (run (World.step cfg) ({} : World δ) ops).Sound :=
    run_invariant (World.step cfg) (fun w op h ha => sound_step w op h ha) ops {}
      (fun _ d hd => hd) hadm
  obtain ⟨hopen, htime⟩ := timeOk_of_timed htimed hreq hok
  unfold timeOk at htime
  rw [Bool.and_eq_true, decide_eq_true_iff] at htime
  intro d hd
  exact hsound hopen (htime.2 (List.mem_toFinset.mpr hd))

def pair : Config ℕ where
  devices := [{ name := 0 }, { name := 1 }]
  centerFreqHz := 915000000

def prepare : List (Op ℕ) :=
  [.open true true, .setClockSource none true true, .setTimeSource none true true]

def reload : List (Op ℕ) :=
  prepare ++ [.setTimeNextPps none true true true, .setClockSource (some 1) true true,
    .setTimeNextPps none true true true]

theorem timed_operation_fresh_reloaded :
    0 ∈ (run (World.step pair) {} reload).fresh ∧ 1 ∈ (run (World.step pair) {} reload).fresh :=
  have hfresh := timed_operation_fresh pair reload (by decide) (.rxStart true true) rfl rfl (by decide)
  ⟨hfresh 0 (by decide), hfresh 1 (by decide)⟩

/-- The time is loaded on the first device, then its clock source is changed, then the
time is loaded on the second device: RX starts on a time that no longer holds. -/
theorem stale_time_streams :
    let w := run (World.step pair) {}
      (prepare ++ [.setTimeNow (some 0) true true true, .setClockSource (some 0) true true,
        .setTimeNow (some 1) true true true])
    pair.timeRequired ∧ ((Op.rxStart true true).call pair w.backend).result = .ok () ∧
      0 ∉ w.fresh := by decide

end HeimdallDaq.Active
