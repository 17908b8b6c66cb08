/-
  Tx/RfControl.lean --- the gated line commands of `RfControl`.

  PA on asks the controller whether the presented permit (or the armed hold session) is
  active; without one the controller trips.
-/
import HeimdallDaq.Tx.Shutdown

namespace HeimdallDaq.Tx

open Foundation
open Prog (does reads forEach)

section

variable (cfg : Setup) (me : Thread)

/-! ## Permits -/

def permitActiveEntry : Handle → Proc Bool
  | .foreign _ => .ret false
  | .issued pid _ => do
      let registered ← look fun s => decide (pid ∈ s.registry)
      if registered then do
        let e ← look (·.entries pid)
        if e.completed then .ret false
        else do
          let own ← look fun s => s.armRecord.map (·.sessionId)
          match own with
          | none => .throw .error
          | some sid => do
              let now ← look (·.clock)
              .ret (decide (e.session = sid) && decide (now ≤ e.permit.deadlineMono))
      else .ret false

def permitActiveRecord (objId : ℕ) : Proc Bool := do
  let own ← look fun s => s.armRecord.map (·.objId)
  .ret (decide (own = some objId) && cfg.paHoldBetweenBursts)

/-- `permit_active`: only in a live, armed session. -/
def permitActive (c : Credential) : Proc Bool := do
  let live ← reads (.look .permitState) (·.state.isLive)
  let armed ← (if live then look (·.armRecord.isSome) else .ret false)
  if armed then
    match c with
    | .permit h => permitActiveEntry h
    | .record objId => permitActiveRecord cfg objId
  else .ret false

def credentialChains : Credential → Proc (Option (List ℕ))
  | .permit (.issued pid _) => look fun s => some (s.entries pid).permit.chains
  | .permit (.foreign _) => .ret none
  | .record _ => .ret none

def authorizedBy (chans : List ℕ) (c : Credential) : Proc Bool := do
  let active ← permitActive cfg c
  if active then do
    let covered ← credentialChains c
    .ret (covered.all fun cs => chans.all (· ∈ cs))
  else .ret false

def authorizedHold : Proc Bool := do
  let own ← look fun s => s.armRecord.map (·.objId)
  match own with
  | none => .ret false
  | some objId => permitActive cfg (.record objId)

def authorized (chans : List ℕ) (c : Option Credential) : Proc Bool :=
  if cfg.hasSafety then
    (match c with
      | some cred => authorizedBy cfg chans cred
      | none => authorizedHold cfg).catching fun _ => .ret false
  else .ret false

def refuseSequence {α : Type} : Proc α := do
  whenever cfg.hasSafety (trip cfg me .sequence)
  .throw (.interlock (some .sequence))

/-! ## PA on -/

def resolveChans : Option (List ℕ) → Proc (List ℕ)
  | none => .ret cfg.chains
  | some cs =>
    if cs.all (· < cfg.nTx) then .ret (cfg.chains.filter fun c => decide (c ∈ cs))
    else .throw .error

def paOnLines (chans : List ℕ) : List Line → Proc Unit
  | [] => .ret ()
  | ln :: rest => do
      write .paOn ln true
      forEach ((cfg.chainsOn ln).filter fun c => decide (c ∈ chans)) fun c => front (.setPa c true)
      paOnLines chans rest

def Setup.linesOf (cfg : Setup) (chans : List ℕ) : List Line :=
  (chans.filterMap (cfg.paLines[·]?)).eraseDups

/-- The PA goes on; a write that raises forces the safe state. -/
def paDrive (chans : List ℕ) : Proc Unit := do
  let atr ← look (·.front.atr)
  if atr then do
    forEach chans fun c => front (.setPa c true)
    does (.note .permitDone)
  else do
    (paOnLines cfg chans (cfg.linesOf chans)).catching fun e => do
      does (.note .permitDone)
      forceSafe cfg me
      .throw e
    does (.note .permitDone)
    emit cfg me

/-- `pa_enable(on=True)`. -/
def paOn (chans : List ℕ) (c : Option Credential) : Proc Unit := do
  let ok ← authorized cfg chans c
  if ok then paDrive cfg me chans
  else do
    does (.note .permitDone)
    refuseSequence cfg me

def paEnable (chans : Option (List ℕ)) (on : Bool) (c : Option Credential) : Proc Unit := do
  let cs ← resolveChans cfg chans
  if on then paOn cfg me cs c else paOff cfg me cs

/-! ## Sequencing -/

def saveLna : Proc Unit := do
  let before ← look (·.front.lnaBeforeTx)
  if before.isSome then .ret ()
  else do
    let lna ← look (·.front.lna)
    front (.setLnaBeforeTx (some lna))

def txLines (chans : List ℕ) (c : Credential) : Proc Unit := do
  whenever cfg.muteRx (muteRx cfg)
  let atr ← look (·.front.atr)
  if atr then forEach chans fun c => front (.setPa c true)
  else do
    saveLna
    whenever cfg.lnaOff (lnaBias cfg false)
    trSwitch cfg .tx
    paOn cfg me chans (some c)

/-- `sequence_to_tx`. -/
def sequenceToTx (c : Credential) : Proc Unit := do
  let wanted ← credentialChains c
  let chans ← resolveChans cfg wanted
  let ok ← authorized cfg chans (some c)
  does (.note .permitDone)
  if ok then
    (txLines cfg me chans c).catching fun e => do
      forceSafe cfg me
      .throw e
  else refuseSequence cfg me

end

end HeimdallDaq.Tx
