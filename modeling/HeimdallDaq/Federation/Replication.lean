/-
  Federation/Replication.lean --- the replicated state of elected coordinators.

  Every candidate of the cluster is a coordinator that holds one version of the
  replicated state, stamped with `(_sync_term, _version)`.
-/
import HeimdallDaq.Election.Votes
import HeimdallDaq.Federation.MasterSchedule
import HeimdallDaq.Federation.Membership
import Mathlib

namespace HeimdallDaq.Federation

open Election HeimdallDaq.Foundation

/-! ## The replicated state -/

structure Content (Doc : Type) where
  schedule : Option (Doc × Strategy) := none
  runtime : Runtime := {}
  deriving DecidableEq

inductive Mutation (Doc : Type)
  | set (doc : Doc) (strategy : Strategy)
  | strategy (strategy : Strategy)
  | clear
  | memberAdd (member : Member)
  | memberRemove (key : String)
  | rebalance

variable {Doc : Type}

def Content.setStrategy (c : Content Doc) (s : Strategy) : Content Doc :=
  { c with schedule := c.schedule.map fun m => (m.1, s) }

/-- One version of the replicated state: `_sync_term`, `_version` and what they stamp. -/
structure Held (Doc : Type) where
  term : ℤ
  version : ℕ
  content : Content Doc
  deriving DecidableEq

abbrev Pair : Type := ℤ ×ₗ ℕ

def Held.pair (h : Held Doc) : Pair := toLex (h.term, h.version)

/-! ## Requests -/

inductive Stage
  /-- past `_gate_leader`, waiting for the mutation lock -/
  | gated
  /-- REBALANCE between its two sections, with `version_at_plan` -/
  | planned (version : ℕ)
  | committed
  | pushed (round : ℕ)
  deriving DecidableEq

/-- A mutation under way, with the term its gate recorded (`req.term`). -/
structure Request (Doc : Type) where
  verb : Mutation Doc
  term : ℤ
  stage : Stage := .gated

inductive Outcome (Doc : Type)
  | fails (e : MemberError)
  | superseded
  | plans (version : ℕ)
  | passes
  | commits (content : Content Doc)
  | idle

def Outcome.isCommit : Outcome Doc → Bool
  | .commits _ => true
  | _ => false

namespace Request

variable (c : Content Doc)

def ofMember : Except MemberError (Runtime × Bool) → Outcome Doc
  | .error e => .fails e
  | .ok (_, false) => .passes
  | .ok (r, true) => .commits { c with runtime := r }

def next (static : List Member) (registered : Bool) (held : Held Doc) (r : Request Doc) :
    Outcome Doc :=
  match r.stage with
  | .gated =>
    match r.verb with
    | .set doc s => .commits { held.content with schedule := some (doc, s) }
    | .strategy s => .commits (held.content.setStrategy s)
    | .clear => .commits { held.content with schedule := none }
    | .memberAdd m => ofMember held.content (held.content.runtime.memberAdd static m)
    | .memberRemove key =>
      ofMember held.content (held.content.runtime.memberRemove static registered key)
    | .rebalance => .plans held.version
  | .planned version =>
    -- the partition goes to the members; the replicated state is stamped again
    if held.version = version then .commits held.content else .superseded
  | _ => .idle

def admitted : Mutation Doc → Bool
  | .strategy _ => c.schedule.isSome
  | .rebalance => c.schedule.isSome
  | _ => true

end Request

/-! ## The cluster of coordinators -/

/-- One call of `_replicate`: its document, the followers counted so far, and whether
the caller still waits. -/
structure Round (Node Ep Doc : Type) where
  sender : Node
  doc : Held Doc
  counted : Ep → Bool := fun _ => false
  waiting : Bool := true

inductive Repair (Node Doc : Type)
  | idle
  | asked (source : Node)
  | answered (doc : Held Doc)

def Repair.document {Node Doc : Type} : Repair Node Doc → Option (Held Doc)
  | .answered doc => some doc
  | _ => none

variable {Ep : Type} [DecidableEq Ep] (C : Cluster Ep) (Doc : Type)

structure Fed where
  election : World C
  held : C.Node → Held Doc
  requests : C.Node → List (Request Doc)
  rounds : List (Round C.Node Ep Doc)
  admitted : List (C.Node × ℕ)
  repair : C.Node → Repair C.Node Doc
  /-- the pairs whose push was answered `ok` -/
  acked : List Pair

inductive Fed.Move
  | elect (act : Election.Action C)
  /-- a client mutation reaches `x` -/
  | request (x : C.Node) (verb : Mutation Doc)
  /-- the `i`-th request of `x` gets the mutation lock -/
  | lock (x : C.Node) (i : ℕ) (registered : Bool)
  /-- `_replicate` of the `i`-th request of `x` sends its document -/
  | push (x : C.Node) (i : ℕ)
  /-- `k` serves the SYNC of a round up to the mutation lock -/
  | receive (k : C.Node) (round : ℕ) (arrives : Bool) (disk : ℤ × Option Ep → Bool)
  /-- `k` takes the mutation lock for an admitted SYNC -/
  | store (k : C.Node) (round : ℕ) (arrives : Bool)
  /-- the `i`-th request of `x` counts its replies and answers -/
  | reply (x : C.Node) (i : ℕ)
  /-- `_maybe_pull_repair` of `x` starts a pull from `y` -/
  | ask (x y : C.Node)
  /-- the source of the pull of `x` serves SCHEDULE GET SYNC -/
  | answer (x : C.Node)
  /-- `_pull_repair` of `x` takes the mutation lock -/
  | install (x : C.Node)

namespace Fed

variable {C} {Doc}

def start (store : C.Node → ℤ × Option Ep) (clock : C.Node → ℚ) : Fed C Doc where
  election := World.start C store clock
  held := fun _ => { term := 0, version := 0, content := {} }
  requests := fun _ => []
  rounds := []
  admitted := []
  repair := fun _ => .idle
  acked := []

variable (w : Fed C Doc) (x : C.Node)

def setHeld (h : Held Doc) : Fed C Doc := { w with held := Function.update w.held x h }

def setRequests (rs : List (Request Doc)) : Fed C Doc :=
  { w with requests := Function.update w.requests x rs }

variable (i : ℕ)

def setStage (stage : Stage) : Fed C Doc :=
  w.setRequests x ((w.requests x).modify i fun r => { r with stage := stage })

def finish : Fed C Doc := w.setRequests x ((w.requests x).eraseIdx i)

variable (content : Content Doc)

def nextVersion : Held Doc where
  term := (w.election.cand x).term
  version := (w.held x).version + 1
  content := content

def commitVersion : Fed C Doc := w.setHeld x (w.nextVersion x content)

def gate : Bool :=
  (w.election.cand x).role = .leader && (!(C.settings x.1).requireQuorum ||
      (w.election.cand x).hasQuorum (C.config x) (w.election.clock x))

def request (verb : Mutation Doc) : Fed C Doc :=
  if w.gate x ∧ Request.admitted (w.held x).content verb then
    w.setRequests x (w.requests x ++ [{ verb := verb, term := (w.election.cand x).term }])
  else w

variable (static : C.Node → List Member)

def lock (x : C.Node) (i : ℕ) (registered : Bool) : Fed C Doc :=
  match (w.requests x)[i]? with
  | none => w
  | some r =>
    match r.next (static x) registered (w.held x) with
    | .fails _ => w.finish x i
    | .superseded => w.finish x i
    | .plans version => w.setStage x i (.planned version)
    | .passes => w.setStage x i .committed
    | .commits content => (w.commitVersion x content).setStage x i .committed
    | .idle => w

def push : Fed C Doc :=
  match (w.requests x)[i]? with
  | some { stage := .committed, .. } =>
    { w.setStage x i (.pushed w.rounds.length) with
      rounds := w.rounds ++ [{ sender := x, doc := w.held x }] }
  | _ => w

variable (k : C.Node) (round : ℕ)

def count : Fed C Doc :=
  { w with
    rounds := w.rounds.modify round fun r => { r with counted := Function.update r.counted k.1 true } }

/-- The reply of `k` to a round: counted if `k` stored the document now or names its
pair, provided that it arrives. -/
def answerSync (doc : Held Doc) (stored arrives : Bool) : Fed C Doc :=
  if arrives ∧ (stored ∨ (w.held k).pair = doc.pair) then w.count k round else w

def receive (arrives : Bool) (disk : ℤ × Option Ep → Bool) : Fed C Doc :=
  match w.rounds[round]? with
  | none => w
  | some r =>
    let c := w.election.cand k
    if r.sender = k then w
    else if c.role = .leader ∧ r.doc.term ≤ c.term then
      w.answerSync k round r.doc false arrives
    else if r.doc.term = c.term ∧ (c.leaderInfo (C.config k) (w.election.clock k)).any
          (fun known => known.2 = c.term && known.1 ≠ r.sender.1) then w
    else if c.term < r.doc.term then
      let observed := w.election.step (.observe k r.doc.term true disk)
      if (observed.cand k).term < r.doc.term then { w with election := observed }
      else { w with election := observed, admitted := (k, round) :: w.admitted }
    else { w with admitted := (k, round) :: w.admitted }

def storeDoc (doc : Held Doc) : Fed C Doc :=
  if (w.held k).pair < doc.pair then w.setHeld k doc else w

def store (arrives : Bool) : Fed C Doc :=
  match w.rounds[round]? with
  | none => w
  | some r =>
    if (k, round) ∈ w.admitted then
      let w' := { w.storeDoc k r.doc with admitted := w.admitted.erase (k, round) }
      w'.answerSync k round r.doc (decide ((w.held k).pair < r.doc.pair)) arrives
    else w

def reply : Fed C Doc :=
  match (w.requests x)[i]? with
  | some { stage := .pushed round, .. } =>
    match w.rounds[round]? with
    | some r =>
      let stored := 1 + ((C.config x).others.filter r.counted).length
      let answered :=
        { w.finish x i with rounds := w.rounds.modify round fun r => { r with waiting := false } }
      if r.sender = x ∧ r.waiting ∧
          (!(C.settings x.1).requireQuorum ∨ (C.config x).IsMajority stored) then
        { answered with acked := r.doc.pair :: w.acked }
      else answered
    | none => w
  | _ => w

def ask (x y : C.Node) : Fed C Doc :=
  match w.repair x with
  | .idle =>
    if (w.election.cand x).role = .leader ∨ x = y then w
    else { w with repair := Function.update w.repair x (.asked y) }
  | _ => w

def answer : Fed C Doc :=
  match w.repair x with
  | .asked y => { w with repair := Function.update w.repair x (.answered (w.held y)) }
  | _ => w

def install : Fed C Doc :=
  match w.repair x with
  | .answered doc => { w.storeDoc x doc with repair := Function.update w.repair x .idle }
  | _ => w

def crash : Fed C Doc :=
  { w with
    requests := Function.update w.requests x []
    rounds := w.rounds.map fun r => if r.sender = x then { r with waiting := false } else r
    admitted := w.admitted.filter (·.1 ≠ x)
    repair := Function.update w.repair x .idle }

def elect (act : Election.Action C) : Fed C Doc :=
  let w' := { w with election := w.election.step act }
  match act with
  | .restart x => w'.crash x
  | _ => w'

def step (w : Fed C Doc) : Move C Doc → Fed C Doc
  | .elect act => w.elect act
  | .request x verb => w.request x verb
  | .lock x i registered => w.lock static x i registered
  | .push x i => w.push x i
  | .receive k round arrives disk => w.receive k round arrives disk
  | .store k round arrives => w.store k round arrives
  | .reply x i => w.reply x i
  | .ask x y => w.ask x y
  | .answer x => w.answer x
  | .install x => w.install x

end Fed

/-! ## Three coordinators -/

namespace Trio

open Election.trio (node tick ask)

abbrev Coordinators : Type := Fed trio ℕ

def start : Coordinators := Fed.start (fun _ => (0, none)) fun _ => 0

abbrev step : Coordinators → Fed.Move trio ℕ → Coordinators := Fed.step fun _ => []

def elections (acts : List (Election.Action trio)) : List (Fed.Move trio ℕ) := acts.map .elect

def set (x : Fin 3) (doc : ℕ) : Fed.Move trio ℕ := .request (node x) (.set doc .roundRobin)

def lock (x : Fin 3) : Fed.Move trio ℕ := .lock (node x) 0 false

def replicate (x k : Fin 3) : List (Fed.Move trio ℕ) :=
  [.push (node x) 0, .receive (node k) 0 true fun _ => true, .store (node k) 0 true]

/-- Candidate 2 learns term 1 from the PREVOTE reply of candidate 1, tries again and
leads term 2; nothing reaches candidate 0. -/
def secondElection : List (Election.Action trio) :=
  [tick 2, tick 2, tick 2, ask 2 1, tick 2, tick 2, tick 2, tick 2, ask 2 1, tick 2, tick 2,
    ask 2 1, tick 2]

end Trio

end HeimdallDaq.Federation
