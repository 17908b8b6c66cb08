/-
  Tx/Shutdown.lean --- refusals, the shutdown sequence and trips.

  `safe_shutdown` runs a fixed list of steps, each in its own `try`; `trip` latches
  FAULT and runs it.
-/
import HeimdallDaq.Tx.Lines

namespace HeimdallDaq.Tx

open Foundation
open Prog (does reads forEach)

section

variable (cfg : Setup) (me : Thread)

def refuse {α : Type} (code : Code) : Proc α := do
  emit cfg me
  .throw (.refusal code)

def refuseIf (b : Prop) [Decidable b] (code : Code) : Proc Unit :=
  if b then refuse cfg me code else .ret ()

def markState (fault : Bool) : Proc Unit := do
  let latched ← (if fault then .ret true
    else reads (.look .markTest) fun s => decide (s.state = .fault))
  let disabled ← reads (.look .markDisabled) fun s => decide (s.state = .disabled)
  if disabled then .ret ()
  else does (.setState (if latched then .fault else .safe) .mark)

def mark (fault : Bool) : Proc Unit := do
  markState fault
  let pids ← look (·.registry)
  forEach pids fun pid => does (.revoke pid .shutdown)
  does .clearRegistry
  does .releaseAll
  does (.setInflight none)
  let latched ← look fun s => decide (s.state = .fault)
  whenever (!latched) (does (.setArmRecord none))
  let latched' ← look fun s => decide (s.state = .fault)
  whenever (!latched') (does (.setMode none))

def clearOwnRecord (session : Option SessionId) : Proc Unit := do
  let adopted ← look (·.adopted)
  if adopted then do
    let own ← look fun s => decide (s.disk.map (·.sessionId) = session ∧ s.disk.isSome)
    whenever own (does .clearRecord)
  else does .clearRecord

def shutdownLines : Proc Unit := do
  does (.note .paOffBegin)
  (paOff cfg me cfg.chains).attempt
  (trSwitch cfg .rx).attempt
  (restoreLna cfg).attempt
  (restoreRxGain cfg).attempt

/-- `safe_shutdown`.  The backend steps before the PA never raise and touch
nothing that is modelled. -/
def safeShutdown (fault : Bool) : Proc Unit := do
  does (.bump .shutdown)
  let session ← look fun s => s.armRecord.map (·.sessionId)
  mark fault
  whenever cfg.hasRf (shutdownLines cfg me)
  clearOwnRecord session
  emit cfg me
  does (.note .shutdownReturned)

def tripLatch (code : Code) : Proc Unit := do
  let first ← look fun s => decide (s.state ≠ .fault)
  whenever first (does (.setFaultCode (some code)))
  does (.setState .fault .latch)
  emit cfg me
  safeShutdown cfg me true

def trip (code : Code) : Proc Unit := do
  does (.bump .trip)
  let disabled ← look fun s => decide (s.state = .disabled)
  (if disabled then do
    emit cfg me
    safeShutdown cfg me false
  else tripLatch cfg me code)
  does (.note .tripReturned)

def tripRaise {α : Type} (code : Code) : Proc α := do
  trip cfg me code
  .throw (.interlock (some code))

end

end HeimdallDaq.Tx
