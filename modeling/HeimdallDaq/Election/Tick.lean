/-
  Election/Tick.lean --- the sections of one election tick.

  `Election.tick` alternates locked sections with request rounds: a LEADER poll of every
  other candidate, then either the leader's LEASE round or the follower's PREVOTE and
  LEASE rounds.
-/
import HeimdallDaq.Election.Candidate

namespace HeimdallDaq.Election

variable {Ep : Type} [DecidableEq Ep]

/-- The replies of a round: absent, lost and `ok = False` replies are alike to
every reader, so they are all `none`. -/
abbrev Replies (Ep β : Type) := Ep → Option β

inductive Phase (Ep : Type)
  | idle
  | polling (replies : Replies Ep (LeaderReply Ep))
  /-- the poll was absorbed; `_leader_step` or `_follower_step` is next -/
  | decided (role : Role)
  /-- `_leader_step` passed its first section; the LEASE is not sent yet -/
  | renewing (term : ℤ)
  | leasing (term : ℤ) (sendTime : ℚ) (replies : Replies Ep (VoteReply Ep))
  /-- the PREVOTE round for `base + 1` is open -/
  | prevoting (base : ℤ) (replies : Replies Ep (VoteReply Ep))
  | claimed (tNew : ℤ)
  | claiming (tNew : ℤ) (sendTime : ℚ) (replies : Replies Ep (VoteReply Ep))

def noReplies {β : Type} : Replies Ep β := fun _ => none

namespace Candidate

variable (cfg : ElectionConfig Ep) (now : ℚ) (disk : ℤ × Option Ep → Bool)

def updatePeer (reply : Option (LeaderReply Ep)) (p : Peer Ep) : Peer Ep :=
  match reply with
  | none =>
    { p with
      failures := p.failures + 1
      reachable := false
      reachableSince := none
      goodSince := none }
  | some r =>
    let good := r.eligible && (r.leaseHolder = none || r.leaseHolder = some cfg.selfEndpoint)
    { failures := 0
      reachable := true
      reachableSince := if p.reachable then p.reachableSince else some now
      role := some r.role
      term := r.term
      eligible := some r.eligible
      reason := r.reason
      leaseHolder := r.leaseHolder
      lastLeaderReport := if r.role = .leader then some now else p.lastLeaderReport
      goodSince := if good then p.goodSince.or (some now) else none }

variable (replies : Replies Ep (LeaderReply Ep))

def updatePeers (c : Candidate Ep) : Candidate Ep :=
  { c with
    peers := fun ep =>
      if ep ∈ cfg.others then updatePeer cfg now (replies ep) (c.peers ep) else c.peers ep }

variable (terms : Replies Ep ℤ)

def bestTerm : ℤ :=
  cfg.others.foldl
    (fun best ep =>
      match terms ep with
      | some t => if best < t ∧ t ≤ termMax then t else best
      | none => best) 0

def absorbTerms (c : Candidate Ep) : Candidate Ep × Bool :=
  if c.term < bestTerm cfg terms then c.adopt cfg now disk (bestTerm cfg terms) false
  else (c, false)

def noteLeader (ep : Ep) (reply : Option (LeaderReply Ep)) (c : Candidate Ep) : Candidate Ep :=
  match reply with
  | none => c
  | some r =>
    if r.role = .leader ∧ c.term ≤ r.term then
      -- two leaders in one term: the worse-ranked one yields
      let c' := if c.role = .leader ∧ r.term = c.term ∧ cfg.rankOf ep < cfg.rank then
        c.stepDown cfg now .conflict else c
      if c'.role = .leader then c'
      else { c' with lastLeaderSeen := now, leader := some (ep, r.term) }
    else c

def pollSection (c : Candidate Ep) : Candidate Ep :=
  let c₁ := updatePeers cfg now replies { c with ticks := c.ticks + 1 }
  let c₂ := (c₁.absorbTerms cfg now disk (fun ep => (replies ep).map (·.term))).1
  cfg.others.foldl (fun c ep => c.noteLeader cfg now ep (replies ep)) c₂

variable (c : Candidate Ep)

def handoverDue : Bool :=
  cfg.others.any fun ep =>
    decide (cfg.rankOf ep < cfg.rank) &&
      match (c.peers ep).goodSince with
      | some since => decide (cfg.settings.failbackSec ≤ now - since)
      | none => false

def leaderOpen : Candidate Ep × Phase Ep :=
  if c.role ≠ .leader then (c, .idle)
  else if c.handoverDue cfg now then (c.stepDown cfg now .handover, .idle)
  else (c, .renewing c.term)

variable (replies : Replies Ep (VoteReply Ep))

def grantedBy (ep : Ep) : Bool :=
  match replies ep with
  | some r => r.granted
  | none => false

def addGrants (sendTime : ℚ) (replies : Replies Ep (VoteReply Ep)) (old : Ep → Option ℚ) :
    Ep → Option ℚ :=
  fun ep => if ep ∈ cfg.others ∧ grantedBy replies ep = true then some sendTime else old ep

def leaderClose (term : ℤ) (sendTime : ℚ) (replies : Replies Ep (VoteReply Ep))
    (c : Candidate Ep) : Candidate Ep :=
  if c.role ≠ .leader ∨ c.term ≠ term then c
  else
    match c.absorbTerms cfg now disk (fun ep => (replies ep).map (·.term)) with
    | (c', true) => c'
    | (c', false) =>
      let c'' := { c' with grants := addGrants cfg sendTime replies c'.grants }
      if c''.quorum cfg now then { c'' with lastQuorumMono := now }
      else if cfg.settings.requireQuorum ∧ cfg.lease ≤ now - c''.lastQuorumMono then
        c''.stepDown cfg now .noQuorum
      else c''

def peerBars (window : ℚ) (c : Candidate Ep) (ep : Ep) : Bool :=
  let p := c.peers ep
  decide (cfg.rankOf ep < cfg.rank) &&
    !(decide (cfg.settings.missedPolls ≤ p.failures) || decide (p.eligible = some false) ||
      match p.lastLeaderReport with
      | none => true
      | some t => decide (t < now - window))

def mayCampaign : Candidate Ep × Bool :=
  if (c.ineligibility cfg now).isSome ∨ now < c.holdUntil then (c, false)
  else if c.leaseValid now ∧ c.leaseHolder ≠ some cfg.selfEndpoint then
    ({ c with lastLeaderSeen := now }, false)
  else
    let window := cfg.lease + cfg.rank * cfg.settings.interval
    if now - c.lastLeaderSeen < window then (c, false)
    else if cfg.others.any (c.peerBars cfg now window) then (c, false)
    else if termMax ≤ c.term then ({ c with exhausted := true }, false)
    else (c, true)

def followerOpen : Candidate Ep × Phase Ep :=
  match c.mayCampaign cfg now with
  | (c', true) => (c', .prevoting c'.term noReplies)
  | (c', false) => (c', .idle)

def blockedBy : Bool :=
  cfg.others.any fun ep =>
    match replies ep with
    | some r => !r.granted && decide (r.reason ≠ some .settling) &&
        decide (r.leaseHolder ≠ none) && decide (r.leaseHolder ≠ some cfg.selfEndpoint)
    | none => false

/-- Whether a round elects: a majority with `require_quorum`, else no peer that
names another lease holder. -/
def carries : Bool :=
  if cfg.settings.requireQuorum then
    cfg.IsMajority (1 + (cfg.others.filter (grantedBy replies)).length)
  else !blockedBy cfg replies

/-- The candidate after the PREVOTE replies were absorbed, and whether the
second section of `_follower_step` goes on to claim the term `base + 1`. -/
def prevoteWon (base : ℤ) (replies : Replies Ep (VoteReply Ep)) (c : Candidate Ep) :
    Candidate Ep × Bool :=
  if c.term ≠ base ∨ c.role = .leader then (c, false)
  else
    match c.absorbTerms cfg now disk (fun ep => (replies ep).map (·.term)) with
    | (c', adopted) =>
      (c', !(adopted && decide (base + 1 ≤ c'.term)) && carries cfg replies &&
        decide (c'.term = base))

def prevoteClose (base : ℤ) (replies : Replies Ep (VoteReply Ep)) (c : Candidate Ep) :
    Candidate Ep × Phase Ep :=
  match c.prevoteWon cfg now disk base replies with
  | (c', false) => (c', .idle)
  | (c', true) =>
    match c'.persist cfg now disk (base + 1, some cfg.selfEndpoint) with
    | (c'', false) => (c'', .idle)
    | (c'', true) =>
      ({ c'' with term := base + 1, votedFor := some cfg.selfEndpoint, reason := none },
        .claimed (base + 1))

def claimClose (tNew : ℤ) (sendTime : ℚ) (replies : Replies Ep (VoteReply Ep))
    (c : Candidate Ep) : Candidate Ep :=
  if c.term ≠ tNew ∨ c.role = .leader then c
  else
    match c.absorbTerms cfg now disk (fun ep => (replies ep).map (·.term)) with
    | (c', true) => c'
    | (c', false) =>
      if carries cfg replies then
        { c' with
          role := .leader
          reason := none
          grants := addGrants cfg sendTime replies (fun _ => none)
          leader := some (cfg.selfEndpoint, c'.term)
          leaderSince := some now
          lastQuorumMono := now
          leaseHolder := none }
      else c'

/-- One step of the election thread: start a tick, run the next section, or
read the send time and open the next round. -/
def tickStep (phase : Phase Ep) (c : Candidate Ep) : Candidate Ep × Phase Ep :=
  match phase with
  | .idle => (c, .polling noReplies)
  | .polling replies =>
    let c' := c.pollSection cfg now disk replies
    (c', .decided c'.role)
  | .decided .leader => c.leaderOpen cfg now
  | .decided .follower => c.followerOpen cfg now
  | .renewing term => (c, .leasing term now noReplies)
  | .leasing term sendTime replies => (c.leaderClose cfg now disk term sendTime replies, .idle)
  | .prevoting base replies => c.prevoteClose cfg now disk base replies
  | .claimed tNew => (c, .claiming tNew now noReplies)
  | .claiming tNew sendTime replies =>
    (c.claimClose cfg now disk tNew sendTime replies, .idle)

end Candidate

end HeimdallDaq.Election
