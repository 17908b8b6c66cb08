/-
  Federation/Reconcile.lean --- the reconciler of the coordinator.

  A round takes a snapshot of the desired-state records, asks each member that is due
  what schedule it runs (SCHG), decides, and re-sends the member's partition or SCHS
  where that is called for.
-/
import HeimdallDaq.Federation.FanOut

namespace HeimdallDaq.Federation

/-- The attempt counts as done: `good` of `_resend`, the first test of
`_state_after_load`. -/
def Result.good (r : Result) : Bool :=
  r.ok && decide (r.applied ≠ .no) && decide (r.verified ≠ some false)

namespace Reconcile

/-! ## Records -/

/-- The key `desired` of a record. -/
inductive Desired
  | schedule
  | inactive
  | other (text : String)
  deriving DecidableEq

/-- The key `state` of a record. -/
inductive State
  | pending
  | applied
  | overridden
  | failed
  | other (text : String)
  deriving DecidableEq

/-- A desired-state record of `_assignments`; `document` is what `target_document` makes
of its partition. -/
structure Record where
  gen : Option ℤ
  desired : Desired
  document : Document
  state : State := .pending
  attempts : ℕ := 0
  nextTryMono : ℚ := 0
  lastResult : Option Result := none
  lastFrameCount : Option ℤ := none

structure Patch where
  state : Option State := none
  attempts : Option ℕ := none
  nextTryMono : Option ℚ := none
  lastResult : Option Result := none
  lastFrameCount : Option ℤ := none

def Record.patched (rec : Record) (p : Patch) : Record :=
  { rec with
    state := p.state.getD rec.state
    attempts := p.attempts.getD rec.attempts
    nextTryMono := p.nextTryMono.getD rec.nextTryMono
    lastResult := p.lastResult.orElse fun _ => rec.lastResult
    lastFrameCount := p.lastFrameCount.orElse fun _ => rec.lastFrameCount }

/-- The settings the reconciler reads, as `validate` accepts them. -/
structure Settings where
  reconcileOverride : Bool := false
  reconcileMaxAttempts : ℕ := 5
  positive : 1 ≤ reconcileMaxAttempts := by decide

/-! ## What a round finds at a member -/

structure SchgView where
  gen : Option ℤ
  active : Bool

structure Wire where
  /-- the result with which `check_before_send` stops the mutating command -/
  blocked : Option Result := none
  reply : Result := { ok := true, applied := .yes }
  chunkFailure : Option (ℕ × Result) := none
  tempPathFits : Option Bool := some true
  /-- `_verify_load` -/
  verified : Option Bool := some true
  phase : Phase := .command
  clock : ℚ := 0

structure Visit where
  cachedLegacy : Bool := false
  /-- `frame_count` of the member's last STATUS -/
  frameCount : Option ℤ := none
  /-- `open` of the session, and what XACK told -/
  opened : Option Info := none
  schg : Option SchgView := none
  wire : Wire := {}

inductive Why
  | restart
  | missing
  | staleGen
  deriving DecidableEq

/-- The key `action` of a worker's result. -/
inductive Verdict
  | skip
  | ok
  | overridden
  | resent (why : Why)
  | resendFailed (why : Why)
  deriving DecidableEq

inductive Notice
  | scheduleOverridden (genSeen : Option ℤ)
  | scheduleReconcileFailed (attempts : ℕ) (lastResult : Option ReasonText)

/-- The result of `_reconcile_member`, with the mutating frames it sent. -/
structure Outcome where
  action : Verdict
  update : Patch
  events : List Notice := []
  sent : List Verb := []

/-! ## Re-sending -/

namespace Wire

variable (w : Wire)

def command (v : Verb) : List Verb × Result :=
  match w.blocked with
  | some r => ([], r)
  | none => ([v], w.reply)

def sendChunked (total : ℕ) : List Verb × Result :=
  match w.chunkFailure with
  | some (n, r) => (.schb :: List.replicate n .schc, r)
  | none =>
    let last := w.command .sche
    (.schb :: List.replicate total .schc ++ last.1, last.2)

variable (info : Info)

def loadDocument (doc : Document) : Option (List Verb × Result) :=
  let size := doc.size (info.extended && info.schg)
  match chooseTransfer size info.schb doc.localHost with
  | .inline => some (w.command .schd)
  | .chunked =>
    if 262144 < size then
      some ([], { applied := .no, reason := some .tooLarge, phase := some .chunks })
    else some (w.sendChunked ((size + 115) / 116))
  | .path =>
    match w.tempPathFits with
    | none => none
    | some false =>
      some ([], { applied := .no, reason := some .tempPathTooLong, phase := some w.phase })
    | some true => some (w.command .schd)
  | .none =>
    some ([], {
      applied := .no
      reason := some .scheduleTooLargeForLegacyServer
      phase := some w.phase })

def loadFrames (doc : Document) : List Verb := ((w.loadDocument info doc).map Prod.fst).getD []

def attempt (rec : Record) : Option (List Verb × Result) :=
  if rec.desired = .inactive then
    let c := w.command .schs
    some (c.1, c.2.settled w.phase)
  else
    (w.loadDocument info rec.document).map fun (frames, r) =>
      (frames, (if r.ok && decide (r.applied ≠ .no) then { r with verified := w.verified }
        else r).settled w.phase)

end Wire

def reconcileBackoffSec : List ℚ := [5, 10, 20, 40, 80]

def backoff (attempts : ℕ) : ℚ :=
  reconcileBackoffSec.getD (min (attempts - 1) (reconcileBackoffSec.length - 1)) 0

variable (cfg : Settings)

@[local grind]
def concluded (rec : Record) (update : Patch) (why : Why) (clock : ℚ) (frames : List Verb)
    (r : Result) : Outcome :=
  let attempts := rec.attempts + 1
  let update := { update with attempts := some attempts, lastResult := some r }
  if r.good then
    { action := .resent why
      update := { update with state := some .applied, nextTryMono := some 0 }
      sent := frames }
  else if cfg.reconcileMaxAttempts ≤ attempts then
    { action := .resendFailed why
      update := { update with state := some .failed }
      events := [.scheduleReconcileFailed attempts r.reason]
      sent := frames }
  else
    { action := .resendFailed why
      update := { update with
        state := some .pending
        nextTryMono := some (clock + backoff attempts) }
      sent := frames }

@[local grind]
def resend (rec : Record) (v : Visit) (update : Patch) (why : Why) (info : Info) : Option Outcome :=
  (v.wire.attempt info rec).map fun (frames, r) =>
    concluded cfg rec update why v.wire.clock frames r

def restartResend (rec : Record) (v : Visit) (update : Patch) (info : Info) : Option Outcome :=
  (resend cfg rec v update .restart info).map fun out =>
    match out.action with
    | .resent _ => out
    | _ => { out with update := { out.update with lastFrameCount := none } }

/-! ## The decision -/

def Record.restarted (rec : Record) (frameCount : Option ℤ) : Bool :=
  match rec.lastFrameCount, frameCount with
  | some last, some count => decide (count < last)
  | _, _ => false

variable (view : SchgView) (issued : List ℤ)

def SchgView.isIssued : Bool :=
  match view.gen with
  | some g => decide (g ∈ issued)
  | none => false

variable (issued : List ℤ)

def overrides (rec : Record) (v : Visit) (update : Patch) (view : SchgView)
    (info : Info) : Option Outcome :=
  if view.isIssued issued || cfg.reconcileOverride then
    resend cfg rec v update .staleGen info
  else
    some {
      action := .overridden
      update := { update with state := some .overridden }
      events := if rec.state = .overridden then [] else [.scheduleOverridden view.gen] }

@[local grind]
def confirmed (rec : Record) (update : Patch) : Outcome where
  action := .ok
  update := if rec.state = .applied then update else { update with state := some .applied }

def judge (rec : Record) (v : Visit) (update : Patch) (view : SchgView)
    (info : Info) : Option Outcome :=
  if rec.desired = .schedule then
    if view.gen ≠ none ∧ view.gen = rec.gen then some (confirmed rec update)
    else if view.gen = none ∧ rec.restarted v.frameCount then restartResend cfg rec v update info
    else if view.gen = none ∧ rec.state ≠ .applied then resend cfg rec v update .missing info
    else overrides cfg issued rec v update view info
  else if view.gen = none ∧ view.active = false then some (confirmed rec update)
  else overrides cfg issued rec v update view info

def reconcileMember (rec : Record) (v : Visit) : Option Outcome :=
  let restarted := rec.restarted v.frameCount
  let update : Patch := { lastFrameCount := v.frameCount }
  -- a restart seen in a round that could not act stays detectable
  let skip : Outcome := { action := .skip, update := if restarted then {} else update }
  if v.cachedLegacy then
    if restarted then
      match v.opened with
      | none => some { action := .skip, update := {} }
      | some info => restartResend cfg rec v update info
    else some { action := .skip, update := update }
  else
    match v.opened with
    | none => some skip
    | some info =>
      if info.extended && info.schg then
        match v.schg with
        | none => some skip
        | some view => judge cfg issued rec v update view info
      else if restarted then restartResend cfg rec v update info
      else some { action := .skip, update := update }

/-! ## Rounds -/

/-- What a round of `reconcile_round` finds. -/
structure Round (K : Type) where
  runs : Bool := true
  /-- the member exists and is `up` or `degraded` -/
  reachable : K → Bool := fun _ => true
  now : ℚ := 0
  /-- the snapshot of `_issued_gens` -/
  issued : List ℤ := []
  visit : K → Visit := fun _ => {}
  lost : K → Bool := fun _ => false
  committed : Bool := true

abbrev Assignments (K : Type) : Type := K → Option Record

variable {K : Type}

namespace Round

variable (round : Round K)

def due (k : K) (rec : Record) : Bool :=
  round.runs && round.reachable k && decide (rec.state ≠ .failed) &&
    (decide (rec.state ≠ .overridden) || cfg.reconcileOverride) &&
    decide (rec.nextTryMono ≤ round.now)

def outcome (k : K) (rec : Record) : Option Outcome :=
  if round.due cfg k rec then reconcileMember cfg round.issued rec (round.visit k) else none

def sentTo (table : Assignments K) (k : K) : List Verb :=
  (((table k).bind (round.outcome cfg k)).map Outcome.sent).getD []

structure Answers (round : Round K) (table : Assignments K) (k : K) (rec : Record) (info : Info)
    (view : SchgView) : Prop where
  planned : table k = some rec
  due : round.due cfg k rec = true
  asked : (round.visit k).cachedLegacy = false
  opened : (round.visit k).opened = some info
  capable : (info.extended && info.schg) = true
  answered : (round.visit k).schg = some view

end Round

def SchgView.Foreign : Prop := view.active ∧ view.isIssued issued = false

/-! ## Foreign schedules -/

variable {cfg}

lemma sent_resend {rec : Record} (hdesired : rec.desired = .schedule) (v : Visit)
    (update : Patch) (why : Why) (info : Info) :
    ((resend cfg rec v update why info).map Outcome.sent).getD [] =
      v.wire.loadFrames info rec.document := by
  grind [Wire.loadDocument, Wire.attempt, Wire.loadFrames]

@[simp] lemma sent_restartResend (rec : Record) (v : Visit) (update : Patch) (info : Info) :
    (restartResend cfg rec v update info).map Outcome.sent =
      (resend cfg rec v update .restart info).map Outcome.sent := by
  cases hout : resend cfg rec v update .restart info with
  | none => simp [restartResend, hout]
  | some out => cases ha : out.action <;> simp [restartResend, hout, ha]

variable {issued : List ℤ} {view : SchgView}

/-- A schedule that the coordinator did not issue is left to the operator, when the
decision comes that far. -/
lemma sent_overrides (hoff : cfg.reconcileOverride = false) (rec : Record)
    (v : Visit) (update : Patch) (hissued : view.isIssued issued = false) (info : Info) :
    ((overrides cfg issued rec v update view info).map Outcome.sent).getD [] = [] := by
  simp [overrides, hoff, hissued]

lemma sent_judge (hoff : cfg.reconcileOverride = false) (rec : Record)
    (v : Visit) (update : Patch) (hforeign : view.Foreign issued) (info : Info) :
    ((judge cfg issued rec v update view info).map Outcome.sent).getD [] =
      if rec.desired = .schedule ∧ view.gen = none ∧
          (rec.restarted v.frameCount ∨ rec.state ≠ .applied) then
        v.wire.loadFrames info rec.document else [] := by
  obtain ⟨hactive, hissued⟩ := hforeign
  have hleft := sent_overrides hoff rec v update hissued info
  unfold judge
  by_cases hdesired : rec.desired = .schedule
  · cases hgen : view.gen with
    | some g => grind
    | none =>
      by_cases hre : rec.restarted v.frameCount = true
      · simp [hdesired, hre, sent_resend hdesired]
      all_goals grind [sent_resend]
  · simp [hdesired, hactive, hleft]

lemma Round.Answers.sentTo_eq {round : Round K} {table : Assignments K} {k : K} {rec : Record}
    {info : Info} (hans : round.Answers cfg table k rec info view) : round.sentTo cfg table k =
      ((judge cfg round.issued rec (round.visit k)
        { lastFrameCount := (round.visit k).frameCount } view info).map Outcome.sent).getD [] := by
  simp only [Round.sentTo, Round.outcome, hans.planned, hans.due, hans.asked, hans.opened,
    hans.capable, hans.answered, reconcileMember, Option.bind_some, if_true]
  rfl

/-- With `reconcile_override` off, a round sends nothing to a member that reports a
foreign active schedule, exactly unless the member should run a schedule, the foreign
one has no generation, a restart was seen or the last load is not confirmed, and the
load gets as far as a frame. -/
theorem sends_nothing_iff (hoff : cfg.reconcileOverride = false) (round : Round K)
    (table : Assignments K) (k : K) {rec : Record} {info : Info} {view : SchgView}
    (hans : round.Answers cfg table k rec info view) (hforeign : view.Foreign round.issued) :
    round.sentTo cfg table k = [] ↔ ¬ (rec.desired = .schedule ∧ view.gen = none ∧
        (rec.restarted (round.visit k).frameCount ∨ rec.state ≠ .applied) ∧
        (round.visit k).wire.loadFrames info rec.document ≠ []) := by
  rw [hans.sentTo_eq, sent_judge hoff rec (round.visit k) _ hforeign info]
  grind

def loaded : Record where
  gen := some 7
  desired := .schedule
  document := ⟨fun _ => 100, false, 4⟩
  state := .applied
  lastFrameCount := some 100

def reloaded : Visit where
  frameCount := some 5
  opened := some { extended := true, schg := true, schb := true }
  schg := some ⟨none, true⟩

lemma answers_reloaded :
    Round.Answers {} ({ issued := [7], visit := fun _ => reloaded } : Round Unit)
      (fun _ => some loaded) () loaded { extended := true, schg := true, schb := true }
      ⟨none, true⟩ where
  planned := rfl
  due := by simp [Round.due, loaded]
  asked := rfl
  opened := rfl
  capable := rfl
  answered := rfl

/-- The condition is met by a round. -/
theorem sends_nothing_iff_reloaded :
    Round.sentTo {} ({ issued := [7], visit := fun _ => reloaded } : Round Unit)
        (fun _ => some loaded) () = [] ↔ ¬ (loaded.desired = .schedule ∧ (none : Option ℤ) = none ∧
        (loaded.restarted reloaded.frameCount ∨ loaded.state ≠ .applied) ∧
        reloaded.wire.loadFrames { extended := true, schg := true, schb := true }
          loaded.document ≠ []) :=
  sends_nothing_iff rfl { issued := [7], visit := fun _ => reloaded } (fun _ => some loaded) ()
    answers_reloaded ⟨rfl, rfl⟩

/-- The operator's schedule is overwritten. -/
theorem foreign_overwritten : SchgView.Foreign ⟨none, true⟩ [7] ∧
      Round.sentTo {} ({ issued := [7], visit := fun _ => reloaded } : Round Unit)
        (fun _ => some loaded) () = [.schd] := by
  refine ⟨⟨rfl, rfl⟩, ?_⟩
  rw [answers_reloaded.sentTo_eq]
  decide

end Reconcile

end HeimdallDaq.Federation
