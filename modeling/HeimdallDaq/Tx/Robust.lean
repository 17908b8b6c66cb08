/-
  Tx/Robust.lean --- invariants of the operations, away from their commits.

  An invariant that idle commands keep one by one, and that dropped permits, trips and
  shutdowns keep as a whole, is kept by every part of the operations that does not
  commit a session or a burst.
-/
import HeimdallDaq.Tx.Footprint

namespace HeimdallDaq.Tx

open Foundation Tx
open Prog (does)

structure Robust {μ : Type} (cfg : Setup) (me : Thread) (ctx : Context Sys Cmd μ)
    (Inv : Sys × μ → Prop) : Prop where
  stable : ctx.Stable Inv
  idle : ∀ c : Cmd, c.Idle → ∀ y, Inv y → ctx.admits c y → ctx.guar c y ∧ Inv (ctx.step c y)
  drop : ∀ pid why, Keeps ctx Inv (dropPermit pid why)
  shutdown : ∀ fault, Keeps ctx Inv (safeShutdown cfg me fault)
  trip : ∀ code, Keeps ctx Inv (trip cfg me code)

section Shutdown

variable {μ : Type} {cfg : Setup} {ctx : Context Sys Cmd μ} {Inv Inv' Post : Sys × μ → Prop}

/-- What an assertion needs to pass through trips and shutdowns command by command:
`Inv` holds until the permits are dropped, `Inv'` between the two commands that
drop them, and `Post` from then on. -/
structure ShutdownKept (cfg : Setup) (ctx : Context Sys Cmd μ) (Inv Inv' Post : Sys × μ → Prop) :
    Prop where
  stable : ctx.Stable Inv
  stable' : ctx.Stable Inv'
  stablePost : ctx.Stable Post
  step : ∀ c : Cmd, c.Shutting cfg → ∀ y, Inv y → ctx.admits c y → ctx.guar c y ∧ Inv (ctx.step c y)
  stepPost : ∀ c : Cmd, c.Shutting cfg → ∀ y, Post y → ctx.admits c y →
    ctx.guar c y ∧ Post (ctx.step c y)
  clearRegistry : ∀ y, Inv y → ctx.admits .clearRegistry y →
    ctx.guar .clearRegistry y ∧ Inv' (ctx.step .clearRegistry y)
  releaseAll : ∀ y, Inv' y → ctx.admits .releaseAll y →
    ctx.guar .releaseAll y ∧ Post (ctx.step .releaseAll y)

namespace ShutdownKept

variable {E : Stop → Sys × μ → Prop} {α : Type} {p : Proc α}

section

variable (h : ShutdownKept cfg ctx Inv Inv' Post)
include h

lemma before (hp : Only (Cmd.Shutting cfg) p)
    (hcalm : Calm p) : Triple ctx Inv p (fun _ => Inv) E :=
  Triple.of_calm hcalm (Keeps.of_only h.stable h.step hp)

lemma after (hp : Only (Cmd.Shutting cfg) p)
    (hcalm : Calm p) : Triple ctx Post p (fun _ => Post) E :=
  Triple.of_calm hcalm (Keeps.of_only h.stablePost h.stepPost hp)

lemma mark (fault : Bool) : Triple ctx Inv (Tx.mark fault) (fun _ => Post) E := by
  repeat refine .bind (h.before (by grind) (by grind)) fun _ => ?_
  refine .bind (.does (Q := fun _ => Inv') h.stable h.clearRegistry) fun _ => ?_
  refine .bind (.does (Q := fun _ => Post) h.stable' h.releaseAll) fun _ => ?_
  repeat refine .bind (h.after (by grind) (by grind)) fun _ => ?_
  exact h.after (by grind) (by grind)

lemma safeShutdown (me : Thread) (fault : Bool) :
    Triple ctx Inv (Tx.safeShutdown cfg me fault) (fun _ => Post) E := by
  repeat refine .bind (h.before (by grind) (by grind)) fun _ => ?_
  refine .bind (h.mark fault) fun _ => ?_
  repeat refine .bind (h.after (by grind) (by grind)) fun _ => ?_
  exact h.after (by grind) (by grind)

lemma trip (me : Thread) (code : Code) :
    Triple ctx Inv (Tx.trip cfg me code) (fun _ => Post) E := by
  unfold Tx.trip tripLatch
  repeat with_reducible refine .bind (h.before (by grind) (by grind)) fun _ => ?_
  refine .bind (Q := fun _ => Post) (.ite (fun _ => ?_) fun _ => ?_) fun _ => h.after (by grind) (by grind)
  · exact .bind (h.before (by grind) (by grind)) fun _ => h.safeShutdown me false
  · repeat with_reducible refine .bind (h.before (by grind) (by grind)) fun _ => ?_
    exact h.safeShutdown me true

end

end ShutdownKept

/-- What an assertion needs to be kept by trips and shutdowns: the state they store apart,
each of their commands keeps it. -/
structure ClosingKept (cfg : Setup) (ctx : Context Sys Cmd μ) (Inv : Sys × μ → Prop) : Prop where
  stable : ctx.Stable Inv
  step : ∀ c : Cmd, c.Closing cfg → ∀ y, Inv y → ctx.admits c y → ctx.guar c y ∧ Inv (ctx.step c y)
  markState : ∀ fault, Keeps ctx Inv (markState fault)

namespace ClosingKept

lemma only (h : ClosingKept cfg ctx Inv) {α : Type} {p : Proc α}
    (hp : Only (Cmd.Closing cfg) p) : Keeps ctx Inv p := .of_only h.stable h.step hp

grind_pattern only => ClosingKept cfg ctx Inv, Keeps ctx Inv p

lemma mark (h : ClosingKept cfg ctx Inv) (fault : Bool) : Keeps ctx Inv (Tx.mark fault) := by
  have hstate := h.markState
  unfold Tx.mark
  repeat' first | (with_reducible refine .bind ?_ fun _ => ?_) | split
  all_goals grind

@[grind ←]
lemma safeShutdown (h : ClosingKept cfg ctx Inv) (me : Thread) (fault : Bool) :
    Keeps ctx Inv (Tx.safeShutdown cfg me fault) := by
  have hmark := h.mark
  unfold Tx.safeShutdown
  repeat' first | (with_reducible refine .bind ?_ fun _ => ?_) | split
  all_goals grind

lemma trip (h : ClosingKept cfg ctx Inv)
    (hlatch : Keeps ctx Inv (does (.setState .fault .latch) : Proc Unit)) (me : Thread)
    (code : Code) : Keeps ctx Inv (Tx.trip cfg me code) := by
  unfold Tx.trip tripLatch
  repeat' first | (with_reducible refine .bind ?_ fun _ => ?_) | split
  all_goals grind

end ClosingKept

end Shutdown

namespace Robust

variable {μ : Type} {cfg : Setup} {me : Thread} {ctx : Context Sys Cmd μ}
  {Inv : Sys × μ → Prop}

attribute [grind ←] shutdown trip

grind_pattern drop => Robust cfg me ctx Inv, dropPermit pid why

variable {α : Type}

lemma only (h : Robust cfg me ctx Inv) {p : Proc α} (hp : Only Cmd.Idle p) : Keeps ctx Inv p :=
  Keeps.of_only h.stable h.idle hp

grind_pattern only => Robust cfg me ctx Inv, Keeps ctx Inv p

lemma look (h : Robust cfg me ctx Inv) (f : Sys → α) : Keeps ctx Inv (Tx.look f) :=
  h.only (idle_look f)

@[grind ←]
lemma emit (h : Robust cfg me ctx Inv) : Keeps ctx Inv (Tx.emit cfg me) :=
  h.only (idle_emit cfg me)

@[grind ←]
lemma refuse (h : Robust cfg me ctx Inv) (code : Code) :
    Keeps ctx Inv (Tx.refuse (α := α) cfg me code) := h.only (idle_refuse cfg me code)

lemma drop_of_release (hstable : ctx.Stable Inv)
    (hidle : ∀ c : Cmd, c.Idle → ∀ y, Inv y → ctx.admits c y → ctx.guar c y ∧ Inv (ctx.step c y))
    (hrelease : ∀ pid y, Inv y → ctx.admits (.release pid) y →
      ctx.guar (.release pid) y ∧ Inv (ctx.step (.release pid) y))
    (pid : PermitId) (why : Revoked) : Keeps ctx Inv (dropPermit pid why) := by
  unfold dropPermit
  repeat' refine .bind ?_ fun _ => ?_
  · exact .does hstable (hidle _ (.popRegistry pid))
  · exact .does hstable (hrelease pid)
  · exact .does hstable (hidle _ (.revoke pid why))

section

variable (h : Robust cfg me ctx Inv)
include h

@[grind ←]
lemma tripRaise (code : Code) : Keeps ctx Inv (Tx.tripRaise (α := α) cfg me code) :=
  (h.trip code).bind fun _ => .throw _

@[grind ←]
lemma disarm : Keeps ctx Inv (Tx.disarm cfg me) := by
  grind [disarm]

@[grind ←]
lemma revokeAdopted : Keeps ctx Inv (Tx.revokeAdopted cfg me) :=
  (h.shutdown false).bind fun _ => h.emit

/-! ## Front end -/

@[grind ←]
lemma refuseSequence : Keeps ctx Inv (Tx.refuseSequence (α := α) cfg me) := by
  grind [refuseSequence]

@[grind ←]
lemma paOn (chans : List ℕ) (c : Option Credential) : Keeps ctx Inv (Tx.paOn cfg me chans c) := by
  grind [paOn]

@[grind ←]
lemma paEnable (chans : Option (List ℕ)) (on : Bool)
    (c : Option Credential) : Keeps ctx Inv (Tx.paEnable cfg me chans on c) := by
  grind [paEnable, Only.idle cfg]

@[grind ←]
lemma txLines (chans : List ℕ) (c : Credential) : Keeps ctx Inv (Tx.txLines cfg me chans c) := by
  unfold Tx.txLines
  repeat' first | (refine .bind ?_ fun _ => ?_) | split
  all_goals grind [Only.idle cfg]

@[grind ←]
lemma sequenceToTx (c : Credential) : Keeps ctx Inv (Tx.sequenceToTx cfg me c) := by
  unfold Tx.sequenceToTx
  repeat' first | (with_reducible refine .bind ?_ fun _ => ?_) | split
  all_goals grind [Only.idle cfg]

@[grind ←]
lemma armHold (r : ArmRecord) : Keeps ctx Inv (Tx.armHold cfg me r) := by
  unfold Tx.armHold
  repeat' first | (with_reducible refine .bind ?_ fun _ => ?_) | split
  all_goals grind

@[grind ←]
lemma expiryHeartbeat (now : ℚ) : Keeps ctx Inv (Tx.expiryHeartbeat cfg me now) := by
  unfold Tx.expiryHeartbeat
  repeat' first | (with_reducible refine .bind ?_ fun _ => ?_) | split
  all_goals grind

/-! ## Permits -/

lemma expirePermits (now : ℚ) : Keeps ctx Inv (Tx.expirePermits now) := by
  unfold Tx.expirePermits
  repeat' first | (with_reducible refine .bind ?_ fun _ => ?_) | split
  all_goals grind [expirePermit]

end

grind_pattern expirePermits => Robust cfg me ctx Inv, Tx.expirePermits now

section

variable (h : Robust cfg me ctx Inv)
include h

@[grind ←]
lemma refuseConsume (pid : Option PermitId) (code : Code) :
    Keeps ctx Inv (Tx.refuseConsume (α := α) cfg me pid code) := by
  cases pid <;> grind [refuseConsume]

@[grind ←]
lemma consumeDuty (pid : PermitId) (e : Entry) (start : ℚ) :
    Keeps ctx Inv (Tx.consumeDuty cfg me pid e start) := by
  grind [consumeDuty]

/-! ## Watchdog -/

@[grind ←]
lemma checkUnderflows (now : ℚ) : Keeps ctx Inv (Tx.checkUnderflows cfg me now) := by
  grind [checkUnderflows]

@[grind ←]
lemma handleAsyncEvent (now : ℚ) (kind : AsyncKind) :
    Keeps ctx Inv (Tx.handleAsyncEvent cfg me now kind) := by
  cases kind <;> grind [handleAsyncEvent]

@[grind ←]
lemma handleAsyncEvents (events : List AsyncKind) :
    Keeps ctx Inv (Tx.handleAsyncEvents cfg me events) := by
  grind [handleAsyncEvents]

@[grind ←]
lemma pollRest (now : ℚ) : Keeps ctx Inv (Tx.pollRest cfg me now) := by
  grind [pollRest]

@[grind ←]
lemma pollInputs (now : ℚ) (tx : Bool) (a : Answer) :
    Keeps ctx Inv (Tx.pollInputs cfg me now tx a) := by
  grind [pollInputs]

@[grind ←]
lemma pollLive (now : ℚ) (adopt : Bool) (a : Answer) :
    Keeps ctx Inv (Tx.pollLive cfg me now adopt a) := by
  unfold Tx.pollLive
  repeat' first | (with_reducible refine .bind ?_ fun _ => ?_) | split
  all_goals grind

@[grind ←]
lemma poll (now : Option ℚ) : Keeps ctx Inv (Tx.poll cfg me now) := by
  unfold Tx.poll
  repeat' first | (with_reducible refine .bind ?_ fun _ => ?_) | refine .ask fun _ => ?_ | split
  all_goals grind

/-! ## Authorization and consume -/

@[grind ←]
lemma authorizeLiveness (now : ℚ) : Keeps ctx Inv (Tx.authorizeLiveness cfg me now) := by
  unfold Tx.authorizeLiveness
  repeat' first | (refine .bind ?_ fun _ => ?_) | split
  all_goals grind

@[grind ←]
lemma authorizeRecord : Keeps ctx Inv (Tx.authorizeRecord cfg me) := by
  unfold Tx.authorizeRecord
  repeat' first | (with_reducible refine .bind ?_ fun _ => ?_) | split
  all_goals grind

@[grind ←]
lemma authorizeState (now : ℚ) : Keeps ctx Inv (Tx.authorizeState cfg me now) := by
  unfold Tx.authorizeState
  repeat' first | (with_reducible refine .bind ?_ fun _ => ?_) | split
  all_goals grind

@[grind ←]
lemma unknownPermit (pid : PermitId) : Keeps ctx Inv (Tx.unknownPermit (α := α) cfg me pid) := by
  grind [unknownPermit]

@[grind ←]
lemma consumeLookup (handle : Handle) : Keeps ctx Inv (Tx.consumeLookup cfg me handle) := by
  cases handle with
  | issued pid data => grind [consumeLookup]
  | foreign pid => cases pid <;> grind [consumeLookup]

@[grind ←]
lemma consumePermit (now : ℚ) (pid : PermitId) (data : Samples)
    (e : Entry) (sess : Option SessionId) :
    Keeps ctx Inv (Tx.consumePermit cfg me now pid data e sess) := by
  grind [consumePermit]

@[grind ←]
lemma consumeRetune (pid : PermitId) : Keeps ctx Inv (Tx.consumeRetune cfg me pid) := by
  grind [consumeRetune]

@[grind ←]
lemma consumePoll (now : ℚ) (pid : PermitId) : Keeps ctx Inv (Tx.consumePoll cfg me now pid) := by
  unfold Tx.consumePoll
  repeat' first | (with_reducible refine .bind ?_ fun _ => ?_) | split
  all_goals grind

@[grind ←]
lemma completeRest (now : ℚ) : Keeps ctx Inv (Tx.completeRest cfg me now) := by
  unfold Tx.completeRest
  repeat' first | (with_reducible refine .bind ?_ fun _ => ?_) | split
  all_goals grind [Only.idle cfg]

/-! ## Whole operations -/

lemma arm_of_finish (hbegin : Keeps ctx Inv (tripGen .armBegin))
    (hfinish : ∀ gen0 r now dur, Keeps ctx Inv (armFinish cfg me gen0 r now dur))
    (req : ArmRequest) : Keeps ctx Inv (arm cfg me req) := by
  unfold arm
  repeat' first | (with_reducible refine .bind ?_ fun _ => ?_) | split
  all_goals grind

lemma armFinish_of_parts
    (hwrite : ∀ r, Keeps ctx Inv (armWrite cfg me r))
    (hcommit : ∀ r now dur, Keeps ctx Inv (armCommit r now dur))
    (hundo : ∀ session, Keeps ctx Inv (undoInterrupted (α := Unit) cfg me session none))
    (gen0 : ℕ) (r : ArmRecord) (now dur : ℚ) : Keeps ctx Inv (armFinish cfg me gen0 r now dur) := by
  unfold armFinish
  repeat' first | (with_reducible refine .bind ?_ fun _ => ?_) | split
  all_goals grind

lemma refresh_of_write
    (hexpiry : ∀ t, Keeps ctx Inv (does (.setExpiry t) : Proc Unit))
    (hwrite : ∀ r now, Keeps ctx Inv (refreshWrite cfg me r now)) :
    Keeps ctx Inv (refresh cfg me) := by
  unfold refresh
  repeat' first | (with_reducible refine .bind ?_ fun _ => ?_) | split
  all_goals grind

lemma burstComplete_of_parts
    (hretire : ∀ pid, Keeps ctx Inv (retire pid))
    (hinflight : Keeps ctx Inv (does (.setInflight none) : Proc Unit))
    (hcommit : ∀ gen0, Keeps ctx Inv (completeCommit gen0)) (handle : Handle) (result : TxResult) :
    Keeps ctx Inv (burstComplete cfg me handle result) := by
  cases handle with
  | foreign pid => grind [burstComplete]
  | issued pid samples =>
    unfold burstComplete completeEntry completeInflight
    repeat' first | (with_reducible refine .bind ?_ fun _ => ?_) | split
    all_goals grind

lemma resetFault_of_stores
    (hstore : ∀ c ∈ [Cmd.setState .safe .reset, .setArmRecord none, .setMode none,
      .setFaultCode none], Keeps ctx Inv (does c : Proc Unit))
    (req : ResetRequest) : Keeps ctx Inv (resetFault cfg me req) := by
  unfold resetFault
  repeat' first | (with_reducible refine .bind ?_ fun _ => ?_) | split
  all_goals grind

lemma op (harm : ∀ req, Keeps ctx Inv (arm cfg me req)) (hrefresh : Keeps ctx Inv (refresh cfg me))
    (hauthorize : ∀ req, Keeps ctx Inv (authorizeBurst cfg me req))
    (hconsume : ∀ handle, Keeps ctx Inv (consume cfg me handle))
    (hcomplete : ∀ handle result, Keeps ctx Inv (burstComplete cfg me handle result))
    (hreset : ∀ req, Keeps ctx Inv (resetFault cfg me req)) (o : Op) :
    Keeps ctx Inv (o.prog cfg me) := by
  cases o with
  | arm req => exact (harm req).bind fun _ => .ret ()
  | refresh => exact hrefresh.bind fun _ => .ret ()
  | authorizeBurst req => exact (hauthorize req).bind fun _ => .ret ()
  | consume handle => exact hconsume handle
  | burstComplete handle result => exact hcomplete handle result
  | resetFault req => exact hreset req
  | _ => grind [Op.prog, Only.idle cfg]

end

end Robust

end HeimdallDaq.Tx
