/-
  Election/Candidate.lean --- the state of one candidate and its message handlers.

  `Election` of `federation_election.py` is a state machine whose public entry points
  take the election lock for one in-memory section each.
-/
import HeimdallDaq.Election.Settings

namespace HeimdallDaq.Election

/-- `ROLE_FOLLOWER` and `ROLE_LEADER`. -/
inductive Role
  | follower
  | leader
  deriving DecidableEq

/-- The reason codes of replies and of `Election.reason`. -/
inductive Reason
  | notCandidate
  | settling
  | stateDirUnwritable
  | termExhausted
  | handover
  | higherTerm
  | noQuorum
  | conflict
  deriving DecidableEq

/-- `_Peer`: what the last LEADER polls said about another candidate. -/
structure Peer (Ep : Type) where
  failures : Nat := 0
  reachable : Bool := false
  reachableSince : Option ℚ := none
  role : Option Role := none
  term : ℤ := 0
  eligible : Option Bool := none
  leaseHolder : Option Ep := none
  lastLeaderReport : Option ℚ := none
  goodSince : Option ℚ := none
  reason : Option Reason := none

/-- The attributes of `Election` that its methods change, and the stored pair. -/
structure Candidate (Ep : Type) where
  term : ℤ
  votedFor : Option Ep
  store : ℤ × Option Ep
  stateError : Bool := false
  exhausted : Bool := false
  startMono : ℚ
  role : Role := .follower
  reason : Option Reason := none
  leader : Option (Ep × ℤ) := none
  leaseHolder : Option Ep := none
  leaseExpiry : ℚ := 0
  grants : Ep → Option ℚ := fun _ => none
  lastLeaderSeen : ℚ
  leaderSince : Option ℚ := none
  lastQuorumMono : ℚ
  holdUntil : ℚ := 0
  ticks : Nat := 0
  peers : Ep → Peer Ep := fun _ => {}

/-- Reply of `LEADER`.  The schedule version and term it also carries are read
from the coordinator and by nothing in the election. -/
structure LeaderReply (Ep : Type) where
  role : Role
  term : ℤ
  eligible : Bool
  reason : Option Reason
  leader : Option (Ep × ℤ)
  leaseHolder : Option Ep
  leaseExpiresMs : ℤ
  quorum : Bool

/-- Reply of `PREVOTE` and of `LEASE`; only the latter sets `leaseMs`. -/
structure VoteReply (Ep : Type) where
  granted : Bool
  term : ℤ
  leaseHolder : Option Ep
  reason : Option Reason
  leaseMs : Option ℤ := none

/-- The `cluster_mismatch` reply (`ok = False`), naming the expected cluster. -/
structure ClusterMismatch where
  expected : String
  deriving DecidableEq

variable {Ep : Type} [DecidableEq Ep]

def Candidate.boot (store : ℤ × Option Ep) (now : ℚ) : Candidate Ep where
  term := store.1
  votedFor := store.2
  store := store
  startMono := now
  lastLeaderSeen := now
  lastQuorumMono := now

namespace Candidate

section Helpers

variable (cfg : ElectionConfig Ep) (c : Candidate Ep) (now : ℚ)

def settling : Bool := now - c.startMono < cfg.settle

def ineligibility : Option Reason :=
  if c.stateError then some .stateDirUnwritable
  else if c.exhausted then some .termExhausted
  else if c.settling cfg now then some .settling
  else none

def leaseValid : Bool := c.leaseHolder.isSome && now < c.leaseExpiry

def liveGrant (ep : Ep) : Bool :=
  match c.grants ep with
  | some sent => now < sent + cfg.horizon
  | none => false

def quorum : Bool := cfg.IsMajority (1 + (cfg.others.filter (c.liveGrant cfg now)).length)

def hasQuorum : Bool := c.role = .leader && c.quorum cfg now

def holder : Option Ep := if c.leaseValid now then c.leaseHolder else none

def stepDown (reason : Reason) : Candidate Ep :=
  { c with
    role := .follower
    reason := some reason
    grants := fun _ => none
    leaderSince := none
    lastLeaderSeen := now
    -- let the better-ranked candidate campaign first
    holdUntil := if reason = .handover then now + 2 * cfg.lease + 2 * cfg.settings.interval
      else c.holdUntil }

variable (disk : ℤ × Option Ep → Bool)

/-- `_persist`: save a pair; a failed save makes the candidate ineligible and
ends its leadership. -/
def persist (pair : ℤ × Option Ep) : Candidate Ep × Bool :=
  if disk pair then ({ c with store := pair }, true)
  else
    let c' := { c with stateError := true }
    (if c.role = .leader then c'.stepDown cfg now .stateDirUnwritable else c', false)

def adopt (term : ℤ) (bounded : Bool) : Candidate Ep × Bool :=
  if term ≤ c.term then (c, false)
  else if termMax < term then (c, false)
  else if bounded ∧ c.term + cfg.settings.maxTermJump < term then (c, false)
  else
    match c.persist cfg now disk (term, none) with
    | (c', false) => (c', false)
    | (c', true) =>
      let c'' := { c' with term := term, votedFor := none }
      (if c''.role = .leader then c''.stepDown cfg now .higherTerm else c'', true)

def leaderInfo : Option (Ep × ℤ) :=
  if c.role = .leader then some (cfg.selfEndpoint, c.term)
  else if c.leaseValid now then c.leaseHolder.map (·, c.term)
  else c.leader

end Helpers

section Handlers

variable (cfg : ElectionConfig Ep) (now : ℚ) (clusterId : Option String) (c : Candidate Ep)

def inCluster {β : Type} (body : Candidate Ep × β) : Candidate Ep × Except ClusterMismatch β :=
  if cfg.clusterOk clusterId then (body.1, .ok body.2)
  else (c, .error ⟨cfg.settings.clusterId⟩)

def leaderReply : LeaderReply Ep where
  role := c.role
  term := c.term
  eligible := (c.ineligibility cfg now).isNone
  reason := (c.ineligibility cfg now).or c.reason
  leader := c.leaderInfo cfg now
  leaseHolder := if c.role = .leader then some cfg.selfEndpoint else c.holder now
  leaseExpiresMs := max 0
    (if c.role = .leader then ⌊cfg.lease * 1000⌋
      else if c.leaseValid now then ⌊(c.leaseExpiry - now) * 1000⌋ else 0)
  quorum := c.hasQuorum cfg now

def handleLeader : Candidate Ep × Except ClusterMismatch (LeaderReply Ep) :=
  inCluster cfg clusterId c (c, c.leaderReply cfg now)

def voteBar (endpoint : Ep) (c : Candidate Ep) : Option Reason :=
  if endpoint ∉ cfg.candidates ∨ endpoint = cfg.selfEndpoint then some .notCandidate
  else if c.settling cfg now then some .settling
  else if c.stateError then some .stateDirUnwritable
  else none

def grantsPrevote (term : ℤ) (endpoint : Ep) (c : Candidate Ep) : Bool :=
  (c.voteBar cfg now endpoint).isNone && decide (c.term < term) &&
    (c.holder now = none || c.holder now = some endpoint) && !c.hasQuorum cfg now

def handlePrevote (term : ℤ) (endpoint : Ep) (c : Candidate Ep) :
    Candidate Ep × Except ClusterMismatch (VoteReply Ep) :=
  inCluster cfg clusterId c
    (c, { granted := c.grantsPrevote cfg now term endpoint
          term := c.term
          leaseHolder := c.holder now
          reason := c.voteBar cfg now endpoint })

variable (disk : ℤ × Option Ep → Bool)

variable (term : ℤ) (endpoint : Ep) (c : Candidate Ep)

/-- The first half of `handle_lease`: follow a higher term unless a lease of
another endpoint still runs.  The flag is the source's `proceed`. -/
def leaseAdopt : Candidate Ep × Bool :=
  if c.term < term then
    if c.leaseValid now ∧ c.leaseHolder ≠ some endpoint then (c, false)
    else c.adopt cfg now disk term true
  else (c, true)

/-- The second half of `handle_lease`: vote for the endpoint and grant it the
lease.  The flag is the reply's `granted`. -/
def leaseVote : Candidate Ep × Bool :=
  if term = c.term ∧ (c.votedFor = none ∨ c.votedFor = some endpoint) then
    match (if c.votedFor = some endpoint then (c, true)
      else c.persist cfg now disk (c.term, some endpoint)) with
    | (c', false) => (c', false)
    | (c', true) =>
      ({ c' with
          votedFor := some endpoint
          leaseHolder := some endpoint
          leaseExpiry := now + cfg.lease
          leader := some (endpoint, term)
          lastLeaderSeen := now }, true)
  else (c, false)

def leaseSection : Candidate Ep × Bool :=
  if (c.voteBar cfg now endpoint).isSome ∨ term < c.term then (c, false)
  else
    match c.leaseAdopt cfg now disk term endpoint with
    | (c', false) => (c', false)
    | (c', true) => c'.leaseVote cfg now disk term endpoint

def handleLease : Candidate Ep × Except ClusterMismatch (VoteReply Ep) :=
  inCluster cfg clusterId c
    (let r := c.leaseSection cfg now disk term endpoint
     (r.1, { granted := r.2
             term := r.1.term
             leaseHolder := r.1.holder now
             reason := c.voteBar cfg now endpoint
             leaseMs := some ⌊cfg.lease * 1000⌋ }))

def observeTerm (term : ℤ) (bounded : Bool) (c : Candidate Ep) : Candidate Ep × Bool :=
  c.adopt cfg now disk term bounded

end Handlers

end Candidate

end HeimdallDaq.Election
