/-
  Tx/Lines.lean --- the line commands of `RfControl` that need no permit.

  PA off, T/R switch, LNA bias, calibration input, RX mute and the two sequences back to
  a safe front end.
-/
import HeimdallDaq.Tx.Types

namespace HeimdallDaq.Tx

open Foundation
open Prog (does reads forEach)

abbrev Proc (α : Type) := Prog Sys Answer Stop Cmd α

@[grind]
def look {α : Type} (f : Sys → α) : Proc α := reads (.look .plain) f

@[grind]
def front (c : FrontCmd) : Proc Unit := does (.front c)

@[grind]
def whenever (b : Bool) (p : Proc Unit) : Proc Unit := if b then p else .ret ()

def Setup.chainsOn (cfg : Setup) (ln : Line) : List ℕ :=
  (List.range cfg.nTx).filter fun c => decide (cfg.paLines[c]? = some ln)

def Setup.lines (cfg : Setup) : List Line := cfg.paLines.eraseDups

def Setup.chains (cfg : Setup) : List ℕ := List.range cfg.nTx

section

variable (cfg : Setup) (me : Thread)

/-! ## Events -/

def emitBus : Proc Unit :=
  if cfg.busEnabled then
    .act (.acquireBus me) fun s => if s.busHeld me then .hang else does (.releaseBus me)
  else .ret ()

/-- `EventLog.emit`: its lock is not re-entrant, so a thread that holds it already
waits for itself. -/
def emit : Proc Unit :=
  .act (.acquireEvent me) fun s =>
    if s.eventHeld me then .hang
    else .act (.releaseEvent me) fun _ => emitBus cfg me

/-! ## Lines -/

/-- Writes a line, if any; the driver may raise before or after it moves. -/
def write (use : LineUse) (ln : Line) (value : Bool) : Proc Unit :=
  match ln with
  | none => .ret ()
  | some n => .ask fun a =>
    .act (.front (.line use n value a.write)) fun _ =>
      match a.write with
      | .done => .ret ()
      | .raised | .raisedLate => .throw .hardware

def paAnyOn : Proc Bool := look fun s => cfg.chains.any s.front.pa

def Setup.lnaOff (cfg : Setup) : Bool := !cfg.hasSafety || cfg.lnaOffDuringTx

def Setup.muteRx (cfg : Setup) : Bool := !cfg.hasSafety || cfg.muteRxDuringTx

def paOffLine (target : List ℕ) (ln : Line) : Proc Bool :=
  let mine := (cfg.chainsOn ln).filter fun c => decide (c ∈ target)
  if mine = [] then .ret false
  else do
    let othersOn ← look fun s =>
      (cfg.chainsOn ln).any fun c => decide (c ∉ target) && s.front.pa c
    if othersOn then do
      forEach mine fun c => front (.setPa c false)
      .ret false
    else do
      let ok ← (do
        write .paOff ln false
        forEach mine fun c => front (.setPa c false)).succeeds
      if ok then .ret false
      else do
        forEach mine fun c => front (.setPa c true)
        .ret true

def paOffLines (target : List ℕ) : List Line → Proc Bool
  | [] => .ret false
  | ln :: rest => do
      let failed ← paOffLine cfg target ln
      let failedLater ← paOffLines target rest
      .ret (failed || failedLater)

def paOff (target : List ℕ) : Proc Unit := do
  let errors ← paOffLines cfg target cfg.lines
  let atr ← look (·.front.atr)
  whenever atr (front (.setAtr false))
  emit cfg me
  if errors then .throw .hardware else .ret ()

def trSwitch (mode : TrMode) : Proc Unit := do
  let on ← paAnyOn cfg
  if on then .throw (.refusal .sequence)
  else do
    write .tr cfg.trLine (decide (mode = .tx))
    front (.setTr mode)

def lnaWrite (on : Bool) : Proc Unit := do
  write .lna cfg.lnaLine on
  front (.setLna on)

def lnaBias (on : Bool) : Proc Unit :=
  if on then do
    let paOn ← paAnyOn cfg
    if paOn && cfg.lnaOff then .throw (.refusal .sequence) else lnaWrite cfg true
  else lnaWrite cfg false

def calMake : CalInput → Proc Unit
  | .antenna => .ret ()
  | .injection => write .cal cfg.calInjectionLine true
  | .loopback => write .cal cfg.calLoopbackLine true

def calInput (mode : CalInput) : Proc Unit := do
  let on ← paAnyOn cfg
  if on then .throw (.refusal .sequence)
  else do
    write .cal cfg.calInjectionLine false
    write .cal cfg.calLoopbackLine false
    front (.setCalInput .antenna)
    calMake cfg mode
    front (.setCalInput mode)

def lnaRestoreValue : Proc Bool := look fun s => s.front.lnaBeforeTx.getD s.front.lna

def restoreLna : Proc Unit := do
  let on ← lnaRestoreValue
  lnaBias cfg on
  front (.setLnaBeforeTx none)

def backendCall : Proc Unit := .ask fun a => if a.ok then .ret () else .throw .hardware

def muteRx : Proc Unit :=
  if cfg.hasBackend then do
    backendCall
    let saved ← look (·.front.savedRxGain)
    whenever (!saved) (front (.setSavedRxGain true))
    backendCall
  else .ret ()

def restoreRxGain : Proc Unit := do
  let saved ← look (·.front.savedRxGain)
  if saved && cfg.hasBackend then do
    backendCall
    front (.setSavedRxGain false)
  else .ret ()

def forceLines : List Line → Proc Bool
  | [] => .ret false
  | ln :: rest => do
      let ok ← (write .forcePaOff ln false).succeeds
      let failedLater ← forceLines rest
      .ret (!ok || failedLater)

/-- `force_safe` raises nothing; after a failed write it marks every chain on. -/
def forceSafe : Proc Unit := do
  let errors ← forceLines cfg.lines
  forEach cfg.chains fun c => front (.setPa c errors)
  front (.setAtr false)
  whenever (!errors) (Prog.attempt do
    write .tr cfg.trLine false
    front (.setTr .rx))
  emit cfg me

def rxLines : Proc Unit := do
  (trSwitch cfg .rx).attempt
  let restore ← lnaRestoreValue
  let ok ← (lnaBias cfg restore).succeeds
  whenever ok (front (.setLnaBeforeTx none))

def sequenceToRx : Proc Unit := do
  let atr ← look (·.front.atr)
  if atr then do
    front (.setPaAll false)
    (restoreRxGain cfg).attempt
  else do
    let paOk ← (paOff cfg me cfg.chains).succeeds
    let on ← paAnyOn cfg
    whenever (paOk && !on) (rxLines cfg)
    (restoreRxGain cfg).attempt

end

end HeimdallDaq.Tx
