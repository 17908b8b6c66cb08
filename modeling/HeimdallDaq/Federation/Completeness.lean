/-
  Federation/Completeness.lean --- acknowledged versions and later leaders.

  A mutation is answered `ok` when a majority holds its pair.
-/
import HeimdallDaq.Federation.Versions

namespace HeimdallDaq.Federation

open Election HeimdallDaq.Foundation

variable {Ep : Type} [DecidableEq Ep] {C : Cluster Ep} {Doc : Type}

namespace Fed

/-! ## Careful moves -/

/-- A vote cast by the election step goes to a candidate whose version is not older than
the voter's. -/
def VotesForward (w : Fed C Doc) (act : Election.Action C) : Prop :=
  ∀ k a : C.Node, ((w.election.step act).cand k).votedFor = some a.1 →
    ((w.election.cand k).votedFor = some a.1 ∧
      (w.election.cand k).term = ((w.election.step act).cand k).term) ∨
    (w.held k).pair ≤ (w.held a).pair

/-- Votes go forward, documents of a term below the follower's own are not stored, and
commits are timely. -/
def Careful (static : C.Node → List Member) (w : Fed C Doc) : Move C Doc → Prop
  | .elect act => w.VotesForward act
  | .store k round _ =>
    ∀ r ∈ w.rounds[round]?, (w.held k).pair < r.doc.pair → (w.election.cand k).term ≤ r.doc.term
  | .install x =>
    ∀ d ∈ (w.repair x).document, (w.held x).pair < d.pair → (w.election.cand x).term ≤ d.term
  | m => w.Timely static m

instance decidableCareful (static : C.Node → List Member) (w : Fed C Doc) :
    ∀ m, Decidable (w.Careful static m)
  | .elect _ => inferInstanceAs (Decidable (∀ _ _ : C.Node, _ → _))
  | .store _ round _ => inferInstanceAs (Decidable (∀ r ∈ w.rounds[round]?, _ → _))
  | .install x => inferInstanceAs (Decidable (∀ d ∈ (w.repair x).document, _ → _))
  | .lock x i registered => decidableTimely static w (.lock x i registered)
  | .request .. | .push .. | .receive .. | .reply .. | .ask .. | .answer _ =>
    inferInstanceAs (Decidable True)

variable {static : C.Node → List Member} {w w' : Fed C Doc} {m : Move C Doc}

lemma Careful.timely (h : w.Careful static m) : w.Timely static m := by
  cases m with
  | lock x i registered => exact h
  | _ => exact trivial

lemma Careful.stores (h : w.Careful static m) {k : C.Node} {d : Held Doc}
    (hoffer : w.Offers k d m) (hnewer : (w.held k).pair < d.pair) :
    (w.election.cand k).term ≤ d.term := by
  cases hoffer with
  | sync round arrives r hround hdoc =>
    subst hdoc
    exact h r hround hnewer
  | pull hrepair => exact h d (by rw [hrepair]; rfl) hnewer

/-! ## The history of held pairs -/

abbrev History (C : Cluster Ep) : Type := C.Node → Set Pair

@[local grind]
def HeldByMajority (H : History C) (p : Pair) : Prop :=
  ∃ Q : Finset Ep, Q ⊆ C.candidates.toFinset ∧ C.candidates.length < 2 * Q.card ∧
    ∀ k : C.Node, k.1 ∈ Q → p ∈ H k

/-- `B` and `H` account for the votes and the versions of a careful run: whoever voted for
`a` in a term above that of a pair it has held finds the pair, or a newer one, at `a`. -/
@[local grind]
structure Complete (w : Fed C Doc) (B : Ballots C) (H : History C) : Prop where
  votes : VoteInv w.election B
  now : ∀ k, (w.held k).pair ∈ H k
  past : ∀ k, ∀ p ∈ H k, p ≤ (w.held k).pair
  ballots : ∀ k t (a : C.Node), B k t = some a.1 → ∀ p ∈ H k, (ofLex p).1 < t → p ≤ (w.held a).pair
  senders : ∀ r ∈ w.rounds, r.doc.pair ∈ H r.sender
  counted : ∀ r ∈ w.rounds, ∀ k : C.Node, r.counted k.1 → r.doc.pair ∈ H k
  acked : ∀ p ∈ w.acked, HeldByMajority H p

lemma Complete.start (store : C.Node → ℤ × Option Ep) (clock : C.Node → ℚ) :
    Complete (Fed.start store clock : Fed C Doc)
      (Ballots.record (World.start C store clock) fun _ _ => none) (fun _ => {toLex (0, 0)}) where
  votes := .start store clock
  now := fun _ => rfl
  past := fun _ _ hp => le_of_eq hp
  ballots := fun _ _ _ _ _ hp _ => le_of_eq hp
  senders := fun _ hr => by cases hr
  counted := fun _ hr => by cases hr
  acked := fun _ hp => by cases hp

@[local grind]
def History.record (w : Fed C Doc) (H : History C) : History C := fun k =>
  insert (w.held k).pair (H k)

omit [DecidableEq Ep] in
lemma HeldByMajority.record [DecidableEq Ep] {H : History C} {p : Pair}
    (h : HeldByMajority H p) : HeldByMajority (H.record w) p := by grind

/-! ## One move -/

section Step

variable {B : Ballots C} {H : History C}

lemma Complete.fresh_pair (h : Complete w B H) (hcareful : w.Careful static m) {k : C.Node}
    {d : Held Doc} (hk : HeldChange static w m k d) :
    d = w.held k ∨ ∀ t, d.term < t → B k t = none := by
  cases hk with
  | same => exact .inl rfl
  | commits term content hcommit => exact .inr fun t ht => h.votes.later k t ht
  | stores d hoffer hnewer =>
    exact .inr fun t ht => h.votes.later k t ((hcareful.stores hoffer hnewer).trans_lt ht)

lemma observe_votes (w : World C) (x : C.Node) (t : ℤ) (disk : ℤ × Option Ep → Bool)
    {k : C.Node} {ep : Ep}
    (h : ((w.step (.observe x t true disk)).cand k).votedFor = some ep) :
    (w.cand k).votedFor = some ep ∧
      (w.cand k).term = ((w.step (.observe x t true disk)).cand k).term := by
  have hcand : (w.step (.observe x t true disk)).cand = Function.update w.cand x
      ((w.cand x).observeTerm (C.config x) (w.clock x) disk t true).1 := rfl
  rw [hcand] at h ⊢
  grind [Election.Candidate.observeTerm_follows]

lemma Complete.new_ballot (h : Complete w B H) (hcareful : w.Careful static m)
    {act : Election.Action C} (hact : Elects m act) {k a : C.Node} {t : ℤ}
    (hvote : Ballots.record (w.election.step act) B k t = some a.1) :
    B k t = some a.1 ∨ (w.held k).pair ≤ (w.held a).pair := by
  unfold Ballots.record at hvote
  split at hvote
  · rename_i hnow
    have hcast : ((w.election.cand k).votedFor = some a.1 ∧
          (w.election.cand k).term = ((w.election.step act).cand k).term) ∨
        (w.held k).pair ≤ (w.held a).pair := by
      rcases hact with rfl | ⟨x, round, arrives, disk, t', rfl, rfl⟩
      · exact hcareful k a hvote
      · exact .inl (observe_votes w.election x t' disk hvote)
    rcases hcast with ⟨hold, hterm⟩ | hle
    · left
      rw [← hnow.1, ← hterm, h.votes.current k, hold]
    · exact .inr hle
  · exact .inl hvote

/-- The votes after a careful move: a vote either is an old one, or goes forward in a move
that changes no version. -/
lemma Complete.ballots_step (h : Complete w B H) (he : Effect static w m w')
    (hcareful : w.Careful static m)
    (hquorum : ∀ x ∈ C.candidates, (C.settings x).requireQuorum) :
    ∃ B', VoteInv w'.election B' ∧ ∀ k t (a : C.Node), B' k t = some a.1 →
      B k t = some a.1 ∨ ((w.held k).pair ≤ (w.held a).pair ∧ w'.held k = w.held k) := by
  rcases he.election with heq | ⟨act, hstep, hact⟩
  · grind
  · refine ⟨.record (w.election.step act) B, ?_, fun k t a hvote => ?_⟩
    · rw [hstep]
      exact h.votes.step hquorum act
    grind [Complete.new_ballot, Effect.held_of_elects]

lemma Complete.step (hquorum : ∀ x ∈ C.candidates, (C.settings x).requireQuorum)
    (h : ∃ B H, Complete w B H) (hcareful : w.Careful static m) :
    ∃ B H, Complete (w.step static m) B H := by
  obtain ⟨B, H, h⟩ := h
  have he := effect_step static w m
  generalize w.step static m = w' at he
  have hmono : ∀ k, (w.held k).pair ≤ (w'.held k).pair :=
    fun k => (he.held k).pair_le hcareful.timely
  obtain ⟨B', hB', hvotes⟩ := h.ballots_step he hcareful hquorum
  refine ⟨B', H.record w', hB', fun k => Set.mem_insert _ _, ?_, ?_, ?_, ?_, ?_⟩
  · grind
  · intro k t a hvote p hp hlt
    -- an old pair is covered by the old vote or by the vote going forward
    have hold : ∀ q ∈ H k, (ofLex q).1 < t → q ≤ (w'.held a).pair := by grind
    rcases hp with rfl | hp
    · rcases h.fresh_pair hcareful (he.held k) with hsame | hnone
      · grind
      · rcases hvotes k t a hvote with hB | ⟨-, hsame⟩
        · rw [hnone t hlt] at hB
          cases hB
        all_goals grind
    · exact hold p hp hlt
  · intro r' hr'
    rcases he.rounds r' hr' with ⟨r, hr, hsender, hdoc, -⟩ | ⟨hdoc, -⟩
    all_goals grind
  · intro r' hr' k hk
    rcases he.rounds r' hr' with ⟨r, hr, -, hdoc, hcounted⟩ | ⟨-, hnone⟩
    all_goals grind
  · intro p hp
    rcases he.acked p hp with hold | ⟨r, hr, rfl, hmajority⟩
    · exact (h.acked p hold).record
    · obtain ⟨Q, hsub, hcard, hQ⟩ :=
        C.exists_quorum r.sender r.counted (hmajority (hquorum _ r.sender.2))
      grind

end Step

/-- A leader of a later term holds every acknowledged pair or a newer one: a voter of its
majority has held the pair. -/
lemma Complete.leader_holds {B : Ballots C} {H : History C} (h : Complete w B H) {p : Pair}
    (hp : p ∈ w.acked) {x : C.Node} (hrole : (w.election.cand x).role = .leader)
    (hterm : (ofLex p).1 < (w.election.cand x).term) : p ≤ (w.held x).pair := by
  obtain ⟨Q, hQ, hQcard, hheld⟩ := h.acked p hp
  obtain ⟨R, hR, hRcard, hvoted⟩ := h.votes.leaders x hrole
  obtain ⟨k, hkQ, hkR⟩ := C.quorums_meet hQ hR hQcard hRcard
  grind

lemma acked_run (static : C.Node → List Member) (moves : List (Move C Doc)) (w : Fed C Doc)
    {p : Pair} (hp : p ∈ w.acked) : p ∈ (run (Fed.step static) w moves).acked :=
  run_of_step (.step static) (fun w m h => (effect_step static w m).kept p h) moves w hp

/-- In every run of careful moves, whoever leads a term above `t` after `(t, v)` was
acknowledged holds `(t, v)` or a newer version at that time, whatever it commits then. -/
theorem leader_above_acked (C : Cluster Ep)
    (hquorum : ∀ x ∈ C.candidates, (C.settings x).requireQuorum)
    (static : C.Node → List Member) (store : C.Node → ℤ × Option Ep) (clock : C.Node → ℚ)
    (first later : List (Move C Doc))
    (hcareful : Along (Fed.step static) (Careful static) (Fed.start store clock) (first ++ later))
    (t : ℤ) (v : ℕ)
    (hacked : toLex (t, v) ∈ (run (Fed.step static) (Fed.start store clock) first).acked)
    (x : C.Node)
    (hleader : ((run (Fed.step static) (Fed.start store clock) (first ++ later)).election.cand
      x).role = .leader)
    (hterm : t < ((run (Fed.step static) (Fed.start store clock) (first ++ later)).election.cand
      x).term) :
    toLex (t, v) ≤ ((run (Fed.step static) (Fed.start store clock) (first ++ later)).held x).pair := by
  have hstep : ∀ (w : Fed C Doc) m, (∃ B H, Complete w B H) → w.Careful static m →
      ∃ B H, Complete (w.step static m) B H := fun _ _ => Complete.step hquorum
  obtain ⟨B, H, h⟩ := run_invariant (Fed.step static) hstep (first ++ later) _
    ⟨_, _, Complete.start store clock⟩ hcareful
  refine h.leader_holds ?_ hleader hterm
  rw [run_append]
  exact acked_run static later _ hacked

end Fed

namespace Trio

open Election.trio (node tick ask)

def acknowledged : List (Fed.Move trio ℕ) :=
  elections trio.firstElection ++ [set 0 7, lock 0] ++ replicate 0 1 ++ [.reply (node 0) 0]

def failover : List (Fed.Move trio ℕ) :=
  elections [.restart (node 0), .advance fun _ => 20, tick 1, tick 1, tick 1, ask 1 2, tick 1,
    tick 1, ask 1 2, tick 1]

/-- The theorem at a careful failover. -/
theorem leader_above_acked_failover :
    toLex (1, 1) ≤ ((run step start (acknowledged ++ failover)).held (node 1)).pair :=
  Fed.leader_above_acked trio (fun _ _ => rfl) (fun _ => []) (fun _ => (0, none)) (fun _ => 0)
    acknowledged failover (by decide +kernel) 1 1 (by decide +kernel) (node 1)
    (by decide +kernel) (by decide +kernel)

/-- Candidate 0 crashes, candidate 2 leads term 2 with the vote of candidate 1 and serves
a SET. -/
def staleFailover : List (Fed.Move trio ℕ) :=
  elections ([.restart (node 0), .advance fun _ => 20] ++ secondElection) ++ [set 2 8]

/-- The pair `(1, 1)` was acknowledged, candidate 2 never held it or a newer one, leads term
2 and commits `(2, 1)` over the initial version. -/
theorem acked_dropped : toLex (1, 1) ∈ (run step start acknowledged).acked ∧
      ((run step start (acknowledged ++ staleFailover)).election.cand (node 2)).role = .leader ∧
      ((run step start (acknowledged ++ staleFailover)).election.cand (node 2)).term = 2 ∧
      (∀ n ≤ (acknowledged ++ staleFailover).length,
        ((run step start ((acknowledged ++ staleFailover).take n)).held (node 2)).pair <
          toLex (1, 1)) ∧
      ((run step start (acknowledged ++ staleFailover ++ [lock 2])).held (node 2)).pair =
        toLex (2, 1) ∧
      ((run step start (acknowledged ++ staleFailover ++ [lock 2])).held
        (node 2)).content.schedule = some (8, .roundRobin) := by decide +kernel

end Trio

end HeimdallDaq.Federation
