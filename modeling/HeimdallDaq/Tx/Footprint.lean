/-
  Tx/Footprint.lean --- which commands each transmit program can take, and what
  its checks establish.

  Four classes are enough for the results: `Cmd.Lines` for the programs of
  `RfControl` that need no permit, `Cmd.Idle` for everything that neither
  commits a session or a burst nor drops a permit nor shuts down, `Cmd.Session`
  for what changes the session besides, and `Cmd.Shutting` for trips and shutdowns.
-/
import HeimdallDaq.Tx.Bursts

namespace HeimdallDaq.Tx

open Foundation Only
open Prog (reads forEach)

/-! ## Classes of commands -/

/-- Front-end commands that do not turn a PA line on, unless the line is also
wired as another one. -/
def FrontCmd.Ungated (cfg : Setup) : FrontCmd → Prop
  | .line _ n value _ =>
    value = false ∨ cfg.trLine = some n ∨ cfg.lnaLine = some n ∨
      cfg.calInjectionLine = some n ∨ cfg.calLoopbackLine = some n
  | _ => True

inductive Cmd.Lines (cfg : Setup) : Cmd → Prop
  | look : Lines cfg (.look .plain)
  | acquireEvent (t : Thread) : Lines cfg (.acquireEvent t)
  | releaseEvent (t : Thread) : Lines cfg (.releaseEvent t)
  | acquireBus (t : Thread) : Lines cfg (.acquireBus t)
  | releaseBus (t : Thread) : Lines cfg (.releaseBus t)
  | front (c : FrontCmd) (h : c.Ungated cfg) : Lines cfg (.front c)

/-- Reads, but for the first read of `arm`. -/
inductive Cmd.Reading : Cmd → Prop
  | look (site : Site) (h : site ≠ .armBegin) : Reading (.look site)

/-- The commands that neither begin an `arm`, commit, drop a permit nor shut down. -/
inductive Cmd.Idle : Cmd → Prop
  | look (site : Site) (h : site ≠ .armBegin) : Idle (.look site)
  | permitDone : Idle (.note .permitDone)
  | resetEnded : Idle (.note .resetEnded)
  | acquireEvent (t : Thread) : Idle (.acquireEvent t)
  | releaseEvent (t : Thread) : Idle (.releaseEvent t)
  | acquireBus (t : Thread) : Idle (.acquireBus t)
  | releaseBus (t : Thread) : Idle (.releaseBus t)
  | setLastHb (t : ℚ) : Idle (.setLastHb t)
  | setFpChecked (t : ℚ) : Idle (.setFpChecked t)
  | setStationNext (t : Option ℚ) : Idle (.setStationNext t)
  | popRegistry (pid : PermitId) : Idle (.popRegistry pid)
  | revoke (pid : PermitId) (why : Revoked) : Idle (.revoke pid why)
  | pushUnderflows (t : ℚ) (n : ℕ) : Idle (.pushUnderflows t n)
  | dropUnderflows (t : ℚ) : Idle (.dropUnderflows t)
  | clearUnderflows : Idle .clearUnderflows
  | clearRecord : Idle .clearRecord
  | fresh : Idle .fresh
  | front (c : FrontCmd) : Idle (.front c)

inductive Cmd.Shutting (cfg : Setup) : Cmd → Prop
  | lines {c : Cmd} (h : c.Lines cfg) : Shutting cfg c
  | markTest : Shutting cfg (.look .markTest)
  | markDisabled : Shutting cfg (.look .markDisabled)
  | note (point : Point) (h : ∀ pid samples, point ≠ .sent pid samples) : Shutting cfg (.note point)
  | bump (caller : Bumper) : Shutting cfg (.bump caller)
  | latch : Shutting cfg (.setState .fault .latch)
  | mark (latched : Bool) : Shutting cfg (.setState (if latched then .fault else .safe) .mark)
  | revoke (pid : PermitId) (why : Revoked) : Shutting cfg (.revoke pid why)
  | setInflight : Shutting cfg (.setInflight none)
  | setArmRecord : Shutting cfg (.setArmRecord none)
  | setMode : Shutting cfg (.setMode none)
  | setFaultCode (code : Code) : Shutting cfg (.setFaultCode (some code))
  | clearRecord : Shutting cfg .clearRecord

inductive Cmd.Closing (cfg : Setup) : Cmd → Prop
  | lines {c : Cmd} (h : c.Lines cfg) : Closing cfg c
  | paOffBegin : Closing cfg (.note .paOffBegin)
  | shutdownReturned : Closing cfg (.note .shutdownReturned)
  | tripReturned : Closing cfg (.note .tripReturned)
  | bump (caller : Bumper) : Closing cfg (.bump caller)
  | revoke (pid : PermitId) (why : Revoked) : Closing cfg (.revoke pid why)
  | clearRegistry : Closing cfg .clearRegistry
  | releaseAll : Closing cfg .releaseAll
  | setInflight : Closing cfg (.setInflight none)
  | setArmRecord : Closing cfg (.setArmRecord none)
  | setMode : Closing cfg (.setMode none)
  | setFaultCode (code : Code) : Closing cfg (.setFaultCode (some code))
  | clearRecord : Closing cfg .clearRecord

inductive Cmd.Session : Cmd → Prop
  | idle {c : Cmd} (h : c.Idle) : Session c
  | setState (st : TxState) (writer : Writer) (h : ∀ pid, writer ≠ .consume pid) :
      Session (.setState st writer)
  | setArmRecord (r : Option ArmRecord) : Session (.setArmRecord r)
  | setMode (m : Option TxMode) : Session (.setMode m)
  | setInflight (pid : Option PermitId) : Session (.setInflight pid)
  | writeRecord (r : ArmRecord) (ok : Bool) : Session (.writeRecord r ok)

attribute [grind] FrontCmd.Ungated Cmd.Lines Cmd.Reading Cmd.Closing Cmd.Idle Cmd.Session
attribute [grind cases] Cmd.Shutting
attribute [grind .] Cmd.Shutting.lines Cmd.Shutting.markTest Cmd.Shutting.markDisabled
  Cmd.Shutting.note Cmd.Shutting.bump Cmd.Shutting.latch Cmd.Shutting.revoke
  Cmd.Shutting.setInflight Cmd.Shutting.setArmRecord Cmd.Shutting.setMode
  Cmd.Shutting.setFaultCode Cmd.Shutting.clearRecord

@[grind →]
lemma Cmd.Lines.idle {cfg : Setup} {c : Cmd} (h : c.Lines cfg) : c.Idle := by
  cases h with
  | look => exact .look .plain (by simp)
  | acquireEvent t => exact .acquireEvent t
  | releaseEvent t => exact .releaseEvent t
  | acquireBus t => exact .acquireBus t
  | releaseBus t => exact .releaseBus t
  | front c _ => exact .front c

@[grind →]
lemma Cmd.Reading.idle {c : Cmd} (h : c.Reading) : c.Idle := by
  cases h with
  | look site hsite => exact .look site hsite

section

variable (cfg : Setup) (me : Thread)

/-! ## Line programs -/

variable {α : Type} (f : Sys → α)

@[grind ←]
lemma only_look : Only (Cmd.Lines cfg) (look f) := .reads .look

@[grind ←]
lemma only_front {c : FrontCmd} (h : c.Ungated cfg) : Only (Cmd.Lines cfg) (front c) :=
  does (.front c h)

variable {S : Cmd → Prop}

@[grind ←]
lemma only_whenever {b : Bool} {p : Proc Unit} (h : Only S p) : Only S (whenever b p) :=
  ite (fun _ => h) fun _ => trivial

@[grind ←]
lemma only_emitBus : Only (Cmd.Lines cfg) (emitBus cfg me) := by
  grind [emitBus]

@[grind ←]
lemma only_emit : Only (Cmd.Lines cfg) (emit cfg me) := by
  grind [emit]

@[grind ←]
lemma only_write (use : LineUse) {ln : Line} {value : Bool}
    (h : value = false ∨ ln = cfg.trLine ∨ ln = cfg.lnaLine ∨ ln = cfg.calInjectionLine ∨
      ln = cfg.calLoopbackLine) : Only (Cmd.Lines cfg) (write use ln value) := by
  cases ln <;> grind [write]

@[grind ←]
lemma only_paAnyOn : Only (Cmd.Lines cfg) (paAnyOn cfg) := only_look cfg _

lemma only_setPas (cs : List ℕ) (on : Bool) :
    Only (Cmd.Lines cfg) (forEach cs fun c => front (.setPa c on)) := by
  grind

variable (target : List ℕ)

@[grind ←]
lemma only_paOffLine (ln : Line) : Only (Cmd.Lines cfg) (paOffLine cfg target ln) := by
  refine .ite (fun _ => trivial) fun _ => (only_look cfg _).bind fun othersOn => ?_
  refine .ite (fun _ => (only_setPas cfg _ false).bind fun _ => trivial) fun _ => ?_
  have hwrite : Only (Cmd.Lines cfg) (write .paOff ln false) := only_write cfg .paOff (.inl rfl)
  have hoff := hwrite.bind fun _ =>
    only_setPas cfg ((cfg.chainsOn ln).filter fun c => decide (c ∈ target)) false
  refine hoff.succeeds.bind fun ok => .ite (fun _ => trivial) fun _ => ?_
  exact (only_setPas cfg _ true).bind fun _ => trivial

@[grind ←]
lemma only_paOffLines :
    ∀ lines : List Line, Only (Cmd.Lines cfg) (paOffLines cfg target lines) := by
  intro lines
  induction lines <;> grind [paOffLines]

@[grind ←]
lemma only_paOff : Only (Cmd.Lines cfg) (paOff cfg me target) := by
  grind [paOff]

@[grind ←]
lemma only_trSwitch (mode : TrMode) : Only (Cmd.Lines cfg) (trSwitch cfg mode) := by
  grind [trSwitch]

@[grind ←]
lemma only_lnaWrite (on : Bool) : Only (Cmd.Lines cfg) (lnaWrite cfg on) := by
  grind [lnaWrite]

@[grind ←]
lemma only_lnaBias (on : Bool) : Only (Cmd.Lines cfg) (lnaBias cfg on) := by
  grind [lnaBias]

@[grind ←]
lemma only_restoreLna : Only (Cmd.Lines cfg) (restoreLna cfg) := by
  grind [restoreLna, lnaRestoreValue]

@[grind ←]
lemma only_backendCall : Only (Cmd.Lines cfg) backendCall := by
  grind [backendCall]

@[grind ←]
lemma only_muteRx : Only (Cmd.Lines cfg) (muteRx cfg) := by
  grind [muteRx]

@[grind ←]
lemma only_restoreRxGain : Only (Cmd.Lines cfg) (restoreRxGain cfg) := by
  grind [restoreRxGain]

@[grind ←]
lemma only_forceLines : ∀ lines : List Line, Only (Cmd.Lines cfg) (forceLines lines) := by
  intro lines
  induction lines <;> grind [forceLines]

@[grind ←]
lemma only_forceSafe : Only (Cmd.Lines cfg) (forceSafe cfg me) := by
  unfold forceSafe
  repeat' refine .bind ?_ fun _ => ?_
  all_goals grind

@[grind ←]
lemma only_sequenceToRx : Only (Cmd.Lines cfg) (sequenceToRx cfg me) := by
  unfold sequenceToRx rxLines
  repeat' first | (refine .bind ?_ fun _ => ?_) | split
  all_goals grind [lnaRestoreValue]

variable (code : Code)

@[grind ←]
lemma only_refuse : Only (Cmd.Lines cfg) (refuse (α := α) cfg me code) := by
  grind [refuse]

variable (b : Prop)

@[grind ←]
lemma only_refuseIf [Decidable b] (code : Code) :
    Only (Cmd.Lines cfg) (refuseIf cfg me b code) := by
  grind [refuseIf]

@[grind ←]
lemma only_checks : Only (Cmd.Lines cfg) (checks cfg me) := by
  grind [checks]

@[grind ←]
lemma only_raiseInterrupted : Only (Cmd.Lines cfg) (raiseInterrupted (α := α) cfg me) := by
  grind [raiseInterrupted]

/-! ## Programs that neither commit nor shut down -/

variable {p : Proc α}

lemma Only.idle (h : Only (Cmd.Lines cfg) p) : Only Cmd.Idle p := h.mono fun _ hc => hc.idle

variable {site : Site}

@[grind ←]
lemma reading_reads (h : site ≠ .armBegin) (f : Sys → α) :
    Only Cmd.Reading (reads (.look site) f : Proc α) := .reads (.look site h)

@[grind ←]
lemma reading_look : Only Cmd.Reading (look f) := reading_reads (by simp) f

@[grind ←]
lemma idle_reads (h : site ≠ .armBegin) (f : Sys → α) :
    Only Cmd.Idle (reads (.look site) f : Proc α) := .reads (.look site h)

@[grind ←]
lemma idle_look : Only Cmd.Idle (look f) := idle_reads (by simp) f

@[grind ←]
lemma idle_refuse : Only Cmd.Idle (refuse (α := α) cfg me code) :=
  Only.idle cfg (only_refuse cfg me code)

@[grind ←]
lemma idle_refuseIf [Decidable b] (code : Code) : Only Cmd.Idle (refuseIf cfg me b code) := by
  grind [refuseIf]

@[grind ←]
lemma idle_emit : Only Cmd.Idle (emit cfg me) := Only.idle cfg (only_emit cfg me)

@[grind ←]
lemma idle_checks : Only Cmd.Idle (checks cfg me) := Only.idle cfg (only_checks cfg me)

@[grind ←]
lemma idle_raiseInterrupted : Only Cmd.Idle (raiseInterrupted (α := α) cfg me) := by
  grind [raiseInterrupted]

@[grind ←]
lemma idle_checkNotInterrupted (gen0 : ℕ) (h : site ≠ .armBegin) :
    Only Cmd.Idle (checkNotInterrupted cfg me gen0 site) := by
  grind [checkNotInterrupted]

variable (now : ℚ)

@[grind ←]
lemma idle_paIdleCheck : Only Cmd.Idle (paIdleCheck cfg me now) := by
  unfold paIdleCheck
  repeat' first | (refine .bind ?_ fun _ => ?_) | split
  all_goals grind [Only.idle cfg]

@[grind ←]
lemma idle_adoptedRecordProblem : Only Cmd.Idle adoptedRecordProblem := by
  grind [adoptedRecordProblem]

@[grind ←]
lemma reading_permitActiveEntry (h : Handle) : Only Cmd.Reading (permitActiveEntry h) := by
  cases h <;> grind [permitActiveEntry]

@[grind ←]
lemma reading_permitActiveRecord (objId : ℕ) : Only Cmd.Reading (permitActiveRecord cfg objId) :=
  (reading_look _).bind fun _ => trivial

variable (c : Credential)

@[grind ←]
lemma reading_permitActive : Only Cmd.Reading (permitActive cfg c) := by
  cases c <;> grind [permitActive]

@[grind ←]
lemma reading_credentialChains : Only Cmd.Reading (credentialChains c) := by
  cases c with
  | permit h => cases h <;> grind [credentialChains]
  | _ => trivial

variable (chans : List ℕ)

@[grind ←]
lemma reading_authorized (c : Option Credential) : Only Cmd.Reading (authorized cfg chans c) := by
  cases c <;> grind [authorized, authorizedHold, authorizedBy]

@[grind ←]
lemma idle_credentialChains : Only Cmd.Idle (credentialChains c) := by
  grind [mono, reading_credentialChains]

@[grind ←]
lemma idle_authorized (c : Option Credential) : Only Cmd.Idle (authorized cfg chans c) := by
  grind [mono, reading_authorized]

@[grind ←]
lemma idle_paOnLines : ∀ lines : List Line, Only Cmd.Idle (paOnLines cfg chans lines) := by
  intro lines
  induction lines with
  | nil => trivial
  | cons ln rest ih => cases ln <;> grind [paOnLines, write]

@[grind ←]
lemma idle_paDrive : Only Cmd.Idle (paDrive cfg me chans) := by
  unfold paDrive
  repeat' first | (refine .bind ?_ fun _ => ?_) | split
  all_goals grind [Only.idle cfg]

@[grind ←]
lemma idle_resolveChans (chans : Option (List ℕ)) : Only Cmd.Idle (resolveChans cfg chans) := by
  cases chans <;> grind [resolveChans]

@[grind ←]
lemma idle_armState : Only Cmd.Idle (armState cfg me) := by
  grind [armState]

@[grind ←]
lemma idle_heartbeat : Only Cmd.Idle heartbeat := by
  grind [heartbeat]

@[grind ←]
lemma idle_retuneProblem (reading : Option (Option ℚ)) : Only Cmd.Idle (retuneProblem reading) := by
  grind [retuneProblem]

@[grind ←]
lemma idle_pollFingerprint : Only Cmd.Idle (pollFingerprint now) := by
  grind [pollFingerprint]

@[grind ←]
lemma idle_pollStation : Only Cmd.Idle (pollStation cfg me now) := by
  grind [pollStation]

variable (req : BurstRequest) (flowgraph : Bool)

@[grind ←]
lemma idle_authorizeShape : Only Cmd.Idle (authorizeShape cfg me req flowgraph) := by
  grind [authorizeShape]

@[grind ←]
lemma idle_authorizeTimed (now : ℚ) : Only Cmd.Idle (authorizeTimed cfg me req now) := by
  unfold authorizeTimed
  grind

@[grind ←]
lemma idle_authorizeUntimed (now : ℚ) :
    Only Cmd.Idle (authorizeUntimed cfg me req flowgraph now) := by
  grind [authorizeUntimed]

@[grind ←]
lemma idle_frontendStateProblem (e : Entry) : Only Cmd.Idle (frontendStateProblem cfg e) := by
  grind [frontendStateProblem]

@[grind ←]
lemma idle_resetChecks (req : ResetRequest) : Only Cmd.Idle (resetChecks cfg me req) := by
  unfold resetChecks
  repeat' first | (refine .bind ?_ fun _ => ?_) | split
  all_goals grind

/-! ## Shutdowns -/

@[grind ←]
lemma only_clearOwnRecord (hlook : S (.look .plain)) (hclear : S .clearRecord)
    (session : Option SessionId) : Only S (clearOwnRecord session) := by
  grind [clearOwnRecord]

@[grind ←]
lemma only_shutdownLines (hlines : ∀ c, c.Lines cfg → S c)
    (hbegin : S (.note .paOffBegin)) : Only S (shutdownLines cfg me) := by
  have hmono : ∀ {p : Proc Unit}, Only (Cmd.Lines cfg) p → Only S p := fun h => h.mono hlines
  unfold shutdownLines
  repeat' first | (refine .bind ?_ fun _ => ?_) | split
  all_goals grind

@[grind ←]
lemma shutting_lines (h : Only (Cmd.Lines cfg) p) : Only (Cmd.Shutting cfg) p :=
  h.mono fun _ hc => .lines hc

@[grind ←]
lemma shutting_look : Only (Cmd.Shutting cfg) (look f) := shutting_lines cfg (only_look cfg f)

variable (fault : Bool)

@[grind ←]
lemma shutting_markState : Only (Cmd.Shutting cfg) (markState fault) := by
  refine .bind (.ite (fun _ => .ret true) fun _ => .reads .markTest) fun latched => ?_
  refine (Only.reads .markDisabled).bind fun _ => ?_
  exact Only.ite (fun _ => trivial) fun _ => Only.does (.mark latched)

@[grind ←]
lemma shutting_clearOwnRecord (session : Option SessionId) :
    Only (Cmd.Shutting cfg) (clearOwnRecord session) := by
  grind

@[grind ←]
lemma shutting_shutdownLines : Only (Cmd.Shutting cfg) (shutdownLines cfg me) := by
  grind

@[grind ←]
lemma closing_lines (h : Only (Cmd.Lines cfg) p) : Only (Cmd.Closing cfg) p :=
  h.mono fun _ hc => .lines hc

@[grind ←]
lemma closing_look : Only (Cmd.Closing cfg) (look f) := closing_lines cfg (only_look cfg f)

@[grind ←]
lemma closing_clearOwnRecord (session : Option SessionId) :
    Only (Cmd.Closing cfg) (clearOwnRecord session) := by
  grind

@[grind ←]
lemma closing_shutdownLines : Only (Cmd.Closing cfg) (shutdownLines cfg me) := by
  grind

/-! ## Trips and shutdowns never raise -/

@[grind ←]
lemma calm_emit : Calm (emit cfg me) := by
  grind [emit, emitBus]

@[grind ←]
lemma calm_whenever {b : Bool} {p : Proc Unit} (h : Calm p) : Calm (whenever b p) :=
  Calm.ite (fun _ => h) fun _ => trivial

@[grind ←]
lemma calm_markState : Calm (markState fault) := by
  grind [markState]

@[grind ←]
lemma calm_mark : Calm (mark fault) := by
  unfold mark
  repeat' refine .bind ?_ fun _ => ?_
  all_goals grind

@[grind ←]
lemma calm_clearOwnRecord (session : Option SessionId) : Calm (clearOwnRecord session) := by
  grind [clearOwnRecord]

@[grind ←]
lemma calm_shutdownLines : Calm (shutdownLines cfg me) := by
  grind [shutdownLines]

@[grind ←]
lemma calm_safeShutdown : Calm (safeShutdown cfg me fault) := by
  grind [safeShutdown]

@[grind ←]
lemma calm_trip : Calm (trip cfg me code) := by
  unfold trip
  repeat' refine .bind ?_ fun _ => ?_
  all_goals grind [tripLatch]

/-! ## Session programs -/

lemma Only.session (h : Only Cmd.Idle p) : Only Cmd.Session p := h.mono fun _ hc => .idle hc

@[grind ←]
lemma session_look : Only Cmd.Session (look f) := Only.session (idle_look f)

@[grind ←]
lemma session_reads (h : site ≠ .armBegin) (f : Sys → α) :
    Only Cmd.Session (reads (.look site) f : Proc α) := Only.session (idle_reads h f)

@[grind ←]
lemma session_undoInterrupted (session : Option SessionId) (entry : Option PermitId) :
    Only Cmd.Session (undoInterrupted (α := α) cfg me session entry) := by
  unfold undoInterrupted undoState undoRecord
  repeat' first | (refine .bind ?_ fun _ => ?_) | split
  all_goals grind [Only.session]

@[grind ←]
lemma session_armWrite (r : ArmRecord) : Only Cmd.Session (armWrite cfg me r) := by
  grind [armWrite, Only.session]

@[grind ←]
lemma session_refreshWrite (r : ArmRecord) (now : ℚ) :
    Only Cmd.Session (refreshWrite cfg me r now) := by
  unfold refreshWrite
  repeat' first | (refine .bind ?_ fun _ => ?_) | split
  all_goals grind [Only.session]

@[grind ←]
lemma session_completeCommit (gen0 : ℕ) : Only Cmd.Session (completeCommit gen0) := by
  unfold completeCommit
  repeat' first | (refine .bind ?_ fun _ => ?_) | split
  all_goals grind

/-! ## What the checks establish -/

variable {V : α → Prop}

lemma yields_refuse : Yields V (refuse cfg me code) := .after _ fun _ => trivial

lemma yields_refuseIf [Decidable b] (code : Code) : Yields (fun _ => ¬b) (refuseIf cfg me b code) :=
  Yields.ite (fun _ => yields_refuse cfg me code) fun h => h

lemma yields_tripRaise : Yields V (tripRaise cfg me code) := .after _ fun _ => trivial

lemma yields_refuseConsume (pid : Option PermitId) (code : Code) :
    Yields V (refuseConsume cfg me pid code) :=
  Yields.after _ fun _ => .after _ fun _ => .after _ fun _ => yields_refuse cfg me code

lemma yields_raiseInterrupted : Yields V (raiseInterrupted cfg me) := by
  refine .after _ fun latched => .ite (fun _ => ?_) fun _ => yields_refuse cfg me _
  exact .after _ fun _ => trivial

lemma yields_unknownPermit (pid : PermitId) : Yields V (unknownPermit cfg me pid) := by
  refine .after _ fun used => .after _ fun why => ?_
  refine .ite (fun _ => yields_tripRaise cfg me _) fun _ => ?_
  cases why with
  | none => exact yields_tripRaise cfg me _
  | some reason => cases reason <;> exact yields_refuseConsume cfg me none _

lemma yields_consumeLookup (h : Handle) :
    Yields (fun found => h = .issued found.1 found.2) (consumeLookup cfg me h) := by
  cases h with
  | issued pid data =>
    refine .after _ fun registered => .ite (fun _ => rfl) fun _ => ?_
    exact yields_unknownPermit cfg me pid
  | foreign pid =>
    cases pid with
    | none => exact yields_tripRaise cfg me _
    | some pid =>
      refine .after _ fun registered => .ite (fun _ => ?_) fun _ => ?_
      · exact yields_tripRaise cfg me _
      · exact yields_unknownPermit cfg me pid

lemma yields_authorizeShape :
    Yields (fun _ => req.WellShaped cfg) (authorizeShape cfg me req flowgraph) := by
  refine (yields_refuseIf cfg me _ _).bind fun _ h => ?_
  exact .of_forall (fun _ => not_not.mp h) _

lemma yields_authorizeTimed (now : ℚ) :
    Yields (fun lead => cfg.minLead - absTol ≤ lead) (authorizeTimed cfg me req now) := by
  refine .after _ fun _ => .after _ fun reading => ?_
  cases reading with
  | none => exact yields_refuse cfg me _
  | some lead =>
    refine (yields_refuseIf cfg me _ _).bind fun _ h => ?_
    exact .after _ fun _ => .after _ fun _ => not_lt.mp h

lemma yields_authorizeUntimed (now : ℚ) :
    Yields (fun offset => 0 ≤ offset) (authorizeUntimed cfg me req flowgraph now) :=
  Yields.after _ fun _ => .after _ fun _ => .after _ fun _ => le_max_left 0 req.atOffsetS

lemma yields_consumePermit (pid : PermitId) (data : Samples) (e : Entry)
    (sess : Option SessionId) :
    Yields (fun _ => e.consumed = false ∧ some e.session = sess ∧ data = e.permit.digest ∧
      now ≤ e.permit.deadlineMono) (consumePermit cfg me now pid data e sess) := by
  refine .ite (fun _ => yields_tripRaise cfg me _) fun hused => ?_
  refine .ite (fun _ => yields_tripRaise cfg me _) fun hsession => ?_
  refine .ite (fun _ => yields_tripRaise cfg me _) fun hdigest => ?_
  refine .ite (fun _ => yields_refuseConsume cfg me _ _) fun hdeadline => ?_
  rw [not_or, not_not, not_not] at hsession
  refine .of_forall (fun _ => ⟨by simpa using hused, ?_, not_not.mp hdigest, not_lt.mp hdeadline⟩) _
  rw [← hsession.1]
  exact hsession.2

end

end HeimdallDaq.Tx
