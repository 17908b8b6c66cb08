/-
  Election/Stickiness.lean --- what a granted lease binds a candidate to.

  One candidate is called from outside: `handle_prevote`, `handle_lease`, `observe_term`
  and `tick`, one call after the other, with any arguments, any replies and a clock that
  does not go back.
-/
import HeimdallDaq.Election.Durability

namespace HeimdallDaq.Election

open Foundation Candidate

variable {Ep : Type}

structure Lessor (Ep : Type) where
  lone : Lone Ep
  leases : List (Ep × ℚ)

variable [DecidableEq Ep] (cfg : ElectionConfig Ep)

def Lone.grantee (s : Lone Ep) : LoneAction Ep → Option Ep
  | .lease term endpoint clusterId disk =>
    match (s.cand.handleLease cfg s.clock clusterId disk term endpoint).2 with
    | .ok r => if r.granted then some endpoint else none
    | .error _ => none
  | _ => none

/-- A LEASE of the candidate's own term, in which it has not voted yet, passes a
running lease of another endpoint. -/
@[local grind]
def Lone.Overrides (s : Lone Ep) : LoneAction Ep → Prop
  | .lease term endpoint clusterId disk =>
    cfg.clusterOk clusterId ∧ s.cand.voteBar cfg s.clock endpoint = none ∧
      term = s.cand.term ∧ s.cand.votedFor = none ∧ s.cand.leaseValid s.clock ∧
      s.cand.leaseHolder ≠ some endpoint ∧ disk (term, some endpoint) = true
  | _ => False

namespace Lessor

def step (s : Lessor Ep) (act : LoneAction Ep) : Lessor Ep where
  lone := s.lone.step cfg act
  leases := s.leases ++ ((s.lone.grantee cfg act).map (·, s.lone.clock)).toList

def start (readable : Bool) (store : ℤ × Option Ep) (clock : ℚ) : Lessor Ep where
  lone := .start readable store clock
  leases := []

/-- The calls come one after the other: none of the others while a tick is running,
and no restart. -/
def InTurn (s : Lessor Ep) : LoneAction Ep → Prop
  | .tick _ _ _ | .advance _ => True
  | .leader _ | .prevote _ _ _ | .lease _ _ _ _ | .observe _ _ _ => s.lone.phase = .idle
  | .restart _ => False

/-- While a lease is running, the action grants none to another endpoint and does not
make the candidate leader. -/
def Sticks (s : Lessor Ep) (act : LoneAction Ep) : Prop :=
  ∀ g ∈ s.leases, s.lone.clock < g.2 + cfg.lease →
    (∀ ep, s.lone.grantee cfg act = some ep → ep = g.1) ∧
      ((s.lone.step cfg act).cand.role = .leader → s.lone.cand.role = .leader)

end Lessor

/-! ## What one section does to the lease -/

namespace Candidate

structure Leaves (c c' : Candidate Ep) : Prop where
  leaseHolder : c'.leaseHolder = c.leaseHolder
  leaseExpiry : c'.leaseExpiry = c.leaseExpiry
  votedFor : c'.votedFor = c.votedFor ∨ c'.votedFor = none ∨ c'.votedFor = some cfg.selfEndpoint
  leads : c'.role = .leader → c.role = .leader

attribute [grind] Leaves

variable {cfg} {c c' : Candidate Ep}

omit [DecidableEq Ep] in
lemma Follows.leaves (h : c.Follows c') : c.Leaves cfg c' := by grind

end Candidate

def Phase.Campaigns : Phase Ep → Prop
  | .prevoting _ _ | .claimed _ | .claiming _ _ _ => True
  | _ => False

omit [DecidableEq Ep] in
lemma Phase.campaigns_answered (polls : Replies Ep (LeaderReply Ep))
    (votes : Replies Ep (VoteReply Ep)) (p : Phase Ep) :
    (p.answered polls votes).Campaigns ↔ p.Campaigns := by cases p <;> exact .rfl

namespace Candidate

variable (now : ℚ) (disk : ℤ × Option Ep → Bool)

lemma tickStep_leaves (c : Candidate Ep) (phase : Phase Ep) :
    c.Leaves cfg (c.tickStep cfg now disk phase).1 ∨
      (phase.Campaigns ∧ (c.tickStep cfg now disk phase).1.leaseHolder = none) := by
  cases phase with
  | decided role =>
    cases role <;> grind [tickStep, leaderOpen_retains, followerOpen_retains]
  | _ => grind [tickStep, Phase.Campaigns, pollSection_follows, leaderClose_cases, prevoteClose_cases, claimClose_cases]

variable {cfg now disk}

lemma mayCampaign_unleased {c c' : Candidate Ep} (h : c.mayCampaign cfg now = (c', true)) :
    c.leaseValid now → c.leaseHolder = some cfg.selfEndpoint := by grind [mayCampaign]

lemma tickStep_campaigns {c : Candidate Ep} {phase : Phase Ep}
    (h : (c.tickStep cfg now disk phase).2.Campaigns) :
    phase.Campaigns ∨ (c.leaseValid now → c.leaseHolder = some cfg.selfEndpoint) := by
  cases phase with
  | decided role =>
    cases role <;>
      grind [tickStep, Phase.Campaigns, leaderOpen_phase, followerOpen, mayCampaign_unleased]
  | _ => grind [tickStep, Phase.Campaigns]

end Candidate

namespace Lone

variable {s : Lone Ep}

lemma lease_cases (term : ℤ) (endpoint : Ep) (clusterId : Option String)
    (disk : ℤ × Option Ep → Bool) :
    let act := .lease term endpoint clusterId disk
    (s.grantee cfg act = some endpoint ∧
        s.cand.Grants cfg s.clock (s.step cfg act).cand term endpoint) ∨
      (s.grantee cfg act = none ∧ s.cand.Follows (s.step cfg act).cand) := by
  have hsection := leaseSection_cases cfg s.clock disk s.cand term endpoint
  simp only [grantee, step, handleLease, inCluster]
  grind [Candidate.Retains.refl]

variable {clusterId : Option String} {disk : ℤ × Option Ep → Bool}

lemma grantee_of_overrides {term : ℤ} {endpoint : Ep}
    (h : s.Overrides cfg (.lease term endpoint clusterId disk)) :
    s.grantee cfg (.lease term endpoint clusterId disk) = some endpoint := by
  grind [leaseSection, persist, leaseAdopt, leaseVote, grantee, handleLease, inCluster]

lemma overrides_of_grantee {term : ℤ} {endpoint : Ep}
    (h : s.grantee cfg (.lease term endpoint clusterId disk) = some endpoint)
    (hterm : term = s.cand.term) (hvote : s.cand.votedFor = none)
    (hvalid : s.cand.leaseValid s.clock) (hne : s.cand.leaseHolder ≠ some endpoint) :
    s.Overrides cfg (.lease term endpoint clusterId disk) := by
  have hcluster : cfg.clusterOk clusterId := by
    by_contra hno
    simp [grantee, handleLease, inCluster, hno] at h
  have hsection : (s.cand.leaseSection cfg s.clock disk term endpoint).2 := by
    simpa [grantee, handleLease, inCluster, hcluster] using h
  have hbar : s.cand.voteBar cfg s.clock endpoint = none := by
    by_contra hno
    have hsome := Option.isSome_iff_ne_none.mpr hno
    simp [leaseSection, hsome] at hsection
  grind [persist, leaseSection, leaseAdopt, leaseVote]

lemma lease_of_grantee {act : LoneAction Ep} {ep : Ep} (h : s.grantee cfg act = some ep) :
    ∃ term clusterId disk, act = .lease term ep clusterId disk := by
  cases act with
  | lease term endpoint clusterId disk =>
    have hcases := lease_cases (s := s) cfg term endpoint clusterId disk
    grind
  | _ => cases h

end Lone

/-! ## Invariant -/

namespace Lessor

/-- The recorded lease is the latest one granted, and it is there as long as any
granted lease is running; a campaign goes on only when none is. -/
@[local grind]
structure Inv (s : Lessor Ep) : Prop where
  bound : ∀ g ∈ s.leases, s.lone.clock < g.2 + cfg.lease →
    s.lone.cand.leaseHolder = some g.1 ∧ g.2 + cfg.lease ≤ s.lone.cand.leaseExpiry
  past : ∀ g ∈ s.leases, g.2 ≤ s.lone.clock
  recorded : ∀ ep, s.lone.cand.leaseHolder = some ep →
    ∃ t, (ep, t) ∈ s.leases ∧ s.lone.cand.leaseExpiry = t + cfg.lease
  others : ∀ g ∈ s.leases, g.1 ≠ cfg.selfEndpoint
  ballot : ∀ ep holder, s.lone.cand.votedFor = some ep → s.lone.cand.leaseHolder = some holder →
    ep = cfg.selfEndpoint ∨ holder = ep
  campaign : s.lone.phase.Campaigns → ∀ g ∈ s.leases, g.2 + cfg.lease ≤ s.lone.clock

omit [DecidableEq Ep] in
lemma start_inv (readable : Bool) (store : ℤ × Option Ep) (clock : ℚ) :
    (start readable store clock).Inv cfg where
  bound := nofun
  past := nofun
  recorded ep h := by cases readable <;> cases h
  others := nofun
  ballot ep holder _ h := by cases readable <;> cases h
  campaign _ := nofun

variable {cfg} {s : Lessor Ep}

section

omit [DecidableEq Ep]

lemma Inv.valid (h : s.Inv cfg) {g : Ep × ℚ} (hg : g ∈ s.leases)
    (hlive : s.lone.clock < g.2 + cfg.lease) :
    s.lone.cand.leaseValid s.lone.clock ∧ s.lone.cand.leaseHolder = some g.1 := by
  have hbound := h.bound g hg hlive
  grind [leaseValid]

lemma Inv.granted (h : s.Inv cfg) {ep : Ep} (hholder : s.lone.cand.leaseHolder = some ep)
    (hvalid : s.lone.cand.leaseValid s.lone.clock) :
    ∃ t, (ep, t) ∈ s.leases ∧ s.lone.clock < t + cfg.lease := by
  have hrecorded := h.recorded ep hholder
  grind [leaseValid]

lemma Inv.leaves (h : s.Inv cfg) {lone : Lone Ep} (hclock : lone.clock = s.lone.clock)
    (hleaves : s.lone.cand.Leaves cfg lone.cand)
    (hcampaign : lone.phase.Campaigns → ∀ g ∈ s.leases, g.2 + cfg.lease ≤ lone.clock) :
    Inv cfg { lone := lone, leases := s.leases } := by
  obtain ⟨⟩ := h
  constructor <;> grind

lemma Inv.expired (h : s.Inv cfg) {lone : Lone Ep} (hclock : lone.clock = s.lone.clock)
    (hholder : lone.cand.leaseHolder = none)
    (hexpired : ∀ g ∈ s.leases, g.2 + cfg.lease ≤ s.lone.clock) :
    Inv cfg { lone := lone, leases := s.leases } := by
  obtain ⟨⟩ := h
  constructor <;> grind

end

lemma Inv.grantee_eq (h : s.Inv cfg) {act : LoneAction Ep} (hno : ¬ s.lone.Overrides cfg act)
    {g : Ep × ℚ} (hg : g ∈ s.leases) (hlive : s.lone.clock < g.2 + cfg.lease) {ep : Ep}
    (hep : s.lone.grantee cfg act = some ep) : ep = g.1 := by
  grind [Inv.valid, Lone.lease_of_grantee, Lone.lease_cases, Lone.overrides_of_grantee]

lemma Inv.tick (h : s.Inv cfg) (polls : Replies Ep (LeaderReply Ep))
    (votes : Replies Ep (VoteReply Ep)) (disk : ℤ × Option Ep → Bool) :
    (s.step cfg (.tick polls votes disk)).Inv cfg := by
  have hleases : s.leases ++ ((s.lone.grantee cfg (.tick polls votes disk)).map
      (·, s.lone.clock)).toList = s.leases := List.append_nil _
  rw [step, hleases]
  rcases tickStep_leaves cfg s.lone.clock disk s.lone.cand
    (s.lone.phase.answered polls votes) with hleaves | ⟨hcampaign, hnone⟩
  · refine h.leaves rfl hleaves fun hcampaign g hg => ?_
    rcases tickStep_campaigns hcampaign with hold | hfree
    · exact h.campaign ((Phase.campaigns_answered polls votes _).mp hold) g hg
    · by_contra hlive
      obtain ⟨hvalid, hholder⟩ := h.valid hg (not_le.mp hlive)
      rw [hholder] at hfree
      exact h.others g hg (Option.some.inj (hfree hvalid))
  · exact h.expired rfl hnone (h.campaign ((Phase.campaigns_answered polls votes _).mp hcampaign))

lemma Inv.lease (h : s.Inv cfg) {term : ℤ} {endpoint : Ep} {clusterId : Option String}
    {disk : ℤ × Option Ep → Bool} (hidle : s.lone.phase = .idle)
    (hno : ¬ s.lone.Overrides cfg (.lease term endpoint clusterId disk)) :
    (s.step cfg (.lease term endpoint clusterId disk)).Inv cfg := by
  have hphase : (s.lone.step cfg (.lease term endpoint clusterId disk)).phase = .idle := hidle
  have hquiet : ¬ (s.lone.step cfg (.lease term endpoint clusterId disk)).phase.Campaigns := by
    rw [hphase]
    exact id
  have hclock : (s.lone.step cfg (.lease term endpoint clusterId disk)).clock = s.lone.clock := rfl
  have hgrantee := fun g hg hlive ep => @Inv.grantee_eq _ _ _ _ h _ hno g hg hlive ep
  rw [step]
  obtain ⟨hep, hgrants⟩ | ⟨hnone, hfollows⟩ :=
    Lone.lease_cases (s := s.lone) cfg term endpoint clusterId disk
  · obtain ⟨⟩ := h
    rw [hep]
    constructor <;> simp only [Option.map_some, Option.toList_some] <;> grind
  · rw [hnone]
    simp only [Option.map_none, Option.toList_none, List.append_nil]
    exact h.leaves rfl hfollows.leaves fun hc => absurd hc hquiet

lemma Inv.step (h : s.Inv cfg) {act : LoneAction Ep} (hturn : s.InTurn act)
    (hno : ¬ s.lone.Overrides cfg act) : (s.step cfg act).Inv cfg := by
  cases act with
  | tick polls votes disk => exact h.tick polls votes disk
  | lease term endpoint clusterId disk => exact h.lease hturn hno
  | observe term bounded disk =>
    have hfollows := observeTerm_follows cfg s.lone.clock disk s.lone.cand term bounded
    have hnext : Inv cfg ⟨s.lone.step cfg (.observe term bounded disk), s.leases⟩ :=
      h.leaves rfl hfollows.leaves h.campaign
    simpa [Lessor.step, Lone.grantee] using hnext
  | restart readable => exact absurd hturn id
  | advance elapsed =>
    have hle : s.lone.clock ≤ s.lone.clock + elapsed := le_add_of_nonneg_right elapsed.2
    have hleases : (s.step cfg (.advance elapsed)).leases = s.leases := List.append_nil _
    have hclock : (s.step cfg (.advance elapsed)).lone.clock = s.lone.clock + elapsed := rfl
    have hcand : (s.step cfg (.advance elapsed)).lone.cand = s.lone.cand := rfl
    have hphase : (s.step cfg (.advance elapsed)).lone.phase = s.lone.phase := rfl
    obtain ⟨⟩ := h
    constructor <;> grind
  | _ => simpa [Lessor.step, Lone.step, Lone.grantee, World.handleLeader_fst,
      World.handlePrevote_fst] using h

lemma Inv.no_leader (h : s.Inv cfg) (act : LoneAction Ep) {g : Ep × ℚ} (hg : g ∈ s.leases)
    (hlive : s.lone.clock < g.2 + cfg.lease) (hrole : (s.lone.step cfg act).cand.role = .leader) :
    s.lone.cand.role = .leader := by
  cases act with
  | tick polls votes disk =>
    grind [tickStep_leaves, Lone.step, Phase.campaigns_answered]
  | lease term endpoint clusterId disk =>
    have hcases := Lone.lease_cases (s := s.lone) cfg term endpoint clusterId disk
    grind
  | observe term bounded disk =>
    have hfollows := observeTerm_follows cfg s.lone.clock disk s.lone.cand term bounded
    grind [Lone.step]
  | restart readable => cases readable <;> cases hrole
  | _ => simpa [Lone.step, World.handleLeader_fst, World.handlePrevote_fst] using hrole

lemma Inv.sticks_iff_not_overrides (h : s.Inv cfg) (act : LoneAction Ep) :
    s.Sticks cfg act ↔ ¬ s.lone.Overrides cfg act := by
  constructor
  · intro hsticks hover
    cases act with
    | lease term endpoint clusterId disk =>
      have hep := Lone.grantee_of_overrides cfg hover
      obtain ⟨-, -, -, -, hvalid, hother, -⟩ := hover
      obtain ⟨ep, hholder⟩ : ∃ ep, s.lone.cand.leaseHolder = some ep := by
        simp only [leaseValid, Bool.and_eq_true] at hvalid
        exact Option.isSome_iff_exists.mp hvalid.1
      obtain ⟨t, ht, hlive⟩ := h.granted hholder hvalid
      grind [(hsticks (ep, t) ht hlive).1 endpoint hep]
    | _ => exact hover
  · intro hno g hg hlive
    exact ⟨fun ep hep => h.grantee_eq hno hg hlive hep, h.no_leader act hg hlive⟩

/-- In every sequence of calls the leases bind, in every one of them, exactly when no
LEASE of the candidate's own term, in which it has not voted, comes while a lease of
another endpoint is running. -/
theorem sticks_iff (readable : Bool) (store : ℤ × Option Ep) (clock : ℚ)
    (actions : List (LoneAction Ep))
    (hturn : Along (step cfg) InTurn (start readable store clock) actions) :
    Along (step cfg) (Sticks cfg) (start readable store clock) actions ↔
      Along (step cfg) (fun s act => ¬ s.lone.Overrides cfg act) (start readable store clock)
        actions := by
  have hrun : ∀ (actions : List (LoneAction Ep)) (s : Lessor Ep), s.Inv cfg →
      Along (step cfg) InTurn s actions →
      (Along (step cfg) (Sticks cfg) s actions ↔
        Along (step cfg) (fun s act => ¬ s.lone.Overrides cfg act) s actions) := by
    intro actions
    induction actions with
    | nil => exact fun s _ _ => .rfl
    | cons act rest ih =>
      rintro s h ⟨hact, hrest⟩
      have hiff := h.sticks_iff_not_overrides act
      constructor
      · rintro ⟨hsticks, htail⟩
        have hno := hiff.mp hsticks
        exact ⟨hno, (ih _ (h.step hact hno) hrest).mp htail⟩
      · rintro ⟨hno, htail⟩
        exact ⟨hiff.mpr hno, (ih _ (h.step hact hno) hrest).mpr htail⟩
  exact hrun actions _ (start_inv cfg readable store clock) hturn

def overtaken : List (LoneAction (Fin 3)) :=
  [.advance 10, .lease 1 1 none fun _ => true, .observe 2 true fun _ => true,
    .lease 2 2 none fun _ => true]

lemma inTurn_overtaken :
    Along (step (trio.config (trio.node 0))) InTurn (start true (0, none) 0) overtaken :=
  ⟨trivial, rfl, rfl, rfl, trivial⟩

/-- The calls come one after the other, at one and the same time. -/
theorem sticks_iff_overtaken :
    let cfg := trio.config (trio.node 0)
    Along (step cfg) InTurn (start true (0, none) 0) overtaken ∧
      (Along (step cfg) (Sticks cfg) (start true (0, none) 0) overtaken ↔
        Along (step cfg) (fun s act => ¬ s.lone.Overrides cfg act) (start true (0, none) 0)
          overtaken) :=
  ⟨inTurn_overtaken, sticks_iff true (0, none) 0 overtaken inTurn_overtaken⟩

/-- Both endpoints hold a lease at time 10. -/
theorem second_lease_granted :
    let cfg := trio.config (trio.node 0)
    let s := run (step cfg) (start true (0, none) 0) overtaken
    s.leases = [(1, 10), (2, 10)] ∧ s.lone.clock = 10 ∧ s.lone.clock < 10 + cfg.lease := by
  decide +kernel

end Lessor

end HeimdallDaq.Election
