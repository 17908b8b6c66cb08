/-
  Election/Durability.lean --- what the term store of one candidate remembers.

  One candidate is run against an arbitrary outside world: every reply of a round, every
  request and every verdict of the disk is an input, and `Election.__init__` may find
  the term file unreadable.
-/
import HeimdallDaq.Election.Moves
import Mathlib

namespace HeimdallDaq.Election

open Foundation

variable {Ep : Type}

/-- A later stored pair has a higher term, or the same term with the vote, once
cast, unchanged. -/
@[local grind]
def Upholds (p q : ℤ × Option Ep) : Prop :=
  p.1 < q.1 ∨ (p.1 = q.1 ∧ ∀ ep, p.2 = some ep → q.2 = some ep)

lemma Upholds.refl (p : ℤ × Option Ep) : Upholds p p := .inr ⟨rfl, fun _ h => h⟩

lemma Upholds.trans {p q r : ℤ × Option Ep} (h : Upholds p q) (h' : Upholds q r) :
    Upholds p r := by grind

variable {p q : ℤ × Option Ep}

/-! ## One candidate and its inputs -/

@[local grind]
def Candidate.bootUnread (store : ℤ × Option Ep) (now : ℚ) : Candidate Ep where
  term := 0
  votedFor := none
  store := store
  stateError := true
  startMono := now
  lastLeaderSeen := now
  lastQuorumMono := now

variable (readable : Bool)

@[local grind]
def Candidate.init (store : ℤ × Option Ep) (now : ℚ) : Candidate Ep :=
  if readable then .boot store now else .bootUnread store now

def Phase.answered (polls : Replies Ep (LeaderReply Ep)) (votes : Replies Ep (VoteReply Ep)) :
    Phase Ep → Phase Ep
  | .polling _ => .polling polls
  | .leasing term sendTime _ => .leasing term sendTime votes
  | .prevoting base _ => .prevoting base votes
  | .claiming tNew sendTime _ => .claiming tNew sendTime votes
  | other => other

structure Lone (Ep : Type) where
  clock : ℚ
  cand : Candidate Ep
  phase : Phase Ep

@[local grind]
def Lone.start (store : ℤ × Option Ep) (clock : ℚ) : Lone Ep where
  clock := clock
  cand := .init readable store clock
  phase := .idle

inductive LoneAction (Ep : Type)
  | tick (polls : Replies Ep (LeaderReply Ep)) (votes : Replies Ep (VoteReply Ep))
      (disk : ℤ × Option Ep → Bool)
  | leader (clusterId : Option String)
  | prevote (term : ℤ) (endpoint : Ep) (clusterId : Option String)
  | lease (term : ℤ) (endpoint : Ep) (clusterId : Option String) (disk : ℤ × Option Ep → Bool)
  | observe (term : ℤ) (bounded : Bool) (disk : ℤ × Option Ep → Bool)
  | restart (readable : Bool)
  | advance (elapsed : ℚ≥0)

variable [DecidableEq Ep] (cfg : ElectionConfig Ep)

@[local grind]
def Lone.step (s : Lone Ep) : LoneAction Ep → Lone Ep
  | .tick polls votes disk =>
    let r := s.cand.tickStep cfg s.clock disk (s.phase.answered polls votes)
    { s with cand := r.1, phase := r.2 }
  | .leader clusterId => { s with cand := (s.cand.handleLeader cfg s.clock clusterId).1 }
  | .prevote term endpoint clusterId =>
    { s with cand := (s.cand.handlePrevote cfg s.clock clusterId term endpoint).1 }
  | .lease term endpoint clusterId disk =>
    { s with cand := (s.cand.handleLease cfg s.clock clusterId disk term endpoint).1 }
  | .observe term bounded disk =>
    { s with cand := (s.cand.observeTerm cfg s.clock disk term bounded).1 }
  | .restart readable => .start readable s.cand.store s.clock
  | .advance elapsed => { s with clock := s.clock + elapsed }

/-- While memory and file disagree, a term that `observe_term` or a LEADER reply
brings is above the stored one, or its save raises. -/
def Lone.Guarded (s : Lone Ep) : LoneAction Ep → Prop
  | .tick polls _ disk =>
    match s.phase with
    | .polling _ => ¬ s.cand.Synced → ∀ ep r, polls ep = some r →
        disk (r.term, none) → s.cand.store.1 < r.term
    | _ => True
  | .observe term _ disk =>
    ¬ s.cand.Synced → disk (term, none) → s.cand.store.1 < term
  | _ => True

/-! ## Memory and file agree -/

namespace Candidate

variable (now : ℚ) (disk : ℤ × Option Ep → Bool) (c : Candidate Ep)

lemma tickStep_effect (phase : Phase Ep) : c.Effect cfg now (c.tickStep cfg now disk phase).1 := by
  cases phase with
  | decided role => cases role <;> grind [Effect, tickStep, leaderOpen_retains, followerOpen_retains]
  | _ => grind [Effect, tickStep, Retains.refl, pollSection_follows, leaderClose_cases,
      prevoteClose_cases, claimClose_cases]

lemma handleLease_effect (clusterId : Option String) (t : ℤ) (ep : Ep) :
    c.Effect cfg now (c.handleLease cfg now clusterId disk t ep).1 := by
  rcases World.handleLease_cases cfg now clusterId disk t ep c with h | h
  · exact .grants t ep h
  · exact .follows h.1

variable {cfg now}

lemma Effect.upholds {c c' : Candidate Ep} (h : c.Effect cfg now c') (hsynced : c.Synced) :
    Upholds c.store c'.store := by
  have hsynced' := h.synced hsynced
  have hvotes := h.votes
  grind [Synced]

end Candidate

/-! ## The file could not be read -/

/-- A process whose start could not read the file and that has saved nothing
yet: it follows at term 0 and its thread never gets past the poll. -/
@[local grind]
structure Lone.Blind (s : Lone Ep) : Prop where
  stateError : s.cand.stateError = true
  role : s.cand.role = .follower
  term : s.cand.term = 0
  votedFor : s.cand.votedFor = none
  phase : s.phase = .idle ∨ (∃ replies, s.phase = .polling replies) ∨ s.phase = .decided .follower

namespace Candidate

/-- Nothing was saved, and a state error stays. -/
@[local grind]
structure Unsaved (c c' : Candidate Ep) : Prop where
  store : c'.store = c.store
  stateError : c.stateError → c'.stateError

omit [DecidableEq Ep] in
lemma Unsaved.trans {c c' c'' : Candidate Ep} (h : c.Unsaved c') (h' : c'.Unsaved c'') :
    c.Unsaved c'' := by grind

variable (now : ℚ) (disk : ℤ × Option Ep → Bool)

omit [DecidableEq Ep] in
lemma persist_unsaved {c c' : Candidate Ep} {pair : ℤ × Option Ep}
    (h : c.persist cfg now disk pair = (c', false)) : c.Unsaved c' := by
  grind [persist, stepDown]

variable (c : Candidate Ep)

omit [DecidableEq Ep] in
lemma adopt_saves (term : ℤ) (bounded : Bool) : ((c.adopt cfg now disk term bounded).2 = false ∧
        c.Unsaved (c.adopt cfg now disk term bounded).1) ∨
      ((c.adopt cfg now disk term bounded).2 ∧ disk (term, none)) := by
  have hsame : c.Unsaved c := ⟨rfl, id⟩
  unfold adopt
  split_ifs
  · exact .inl ⟨rfl, hsame⟩
  · exact .inl ⟨rfl, hsame⟩
  · exact .inl ⟨rfl, hsame⟩
  · split <;> rename_i hp
    · exact .inl ⟨rfl, persist_unsaved cfg now disk hp⟩
    · exact .inr ⟨rfl, (persist_saved cfg now disk hp).1⟩

lemma noteLeader_unsaved (ep : Ep) (reply : Option (LeaderReply Ep)) :
    c.Unsaved (c.noteLeader cfg now ep reply) := by
  unfold noteLeader
  grind [stepDown]

variable (replies : Replies Ep (LeaderReply Ep))

lemma noteLeaders_unsaved (eps : List Ep) (c : Candidate Ep) :
    c.Unsaved (eps.foldl (fun c ep => c.noteLeader cfg now ep (replies ep)) c) :=
  List.foldlRecOn eps _ (motive := c.Unsaved) ⟨rfl, id⟩ fun d hd ep _ =>
    hd.trans (noteLeader_unsaved cfg now d ep (replies ep))

variable (terms : Replies Ep ℤ)

lemma bestTerm_mem : bestTerm cfg terms = 0 ∨ ∃ ep, terms ep = some (bestTerm cfg terms) := by
  refine List.foldlRecOn cfg.others _ (motive := fun best => best = 0 ∨ ∃ ep, terms ep = some best)
    (.inl rfl) fun best h ep _ => ?_
  grind

/-- `_absorb_terms` at a term not below 0 saves nothing, or adopts the term of
one of the replies. -/
lemma absorbTerms_saves (hterm : 0 ≤ c.term) : (c.Retains (c.absorbTerms cfg now disk terms).1 ∧
        c.Unsaved (c.absorbTerms cfg now disk terms).1) ∨
      ∃ ep t, terms ep = some t ∧ disk (t, none) ∧
        c.Adopts (c.absorbTerms cfg now disk terms).1 t := by
  grind [adopt_cases, adopt_saves, bestTerm_mem, absorbTerms, Retains.refl]

lemma pollSection_saves (hterm : c.term = 0) : (c.Retains (c.pollSection cfg now disk replies) ∧
        c.Unsaved (c.pollSection cfg now disk replies)) ∨
      ∃ ep r, replies ep = some r ∧ disk (r.term, none) ∧
        c.Adopts (c.pollSection cfg now disk replies) r.term := by
  have hbook : c.Retains (updatePeers cfg now replies { c with ticks := c.ticks + 1 }) :=
    retains_of_eq ⟨rfl, rfl, rfl, rfl, rfl, rfl, rfl, rfl⟩
  have hbook' : c.Unsaved (updatePeers cfg now replies { c with ticks := c.ticks + 1 }) := ⟨rfl, id⟩
  have habsorb := absorbTerms_saves cfg now disk
    (updatePeers cfg now replies { c with ticks := c.ticks + 1 })
    (fun ep => (replies ep).map (·.term)) (hbook.term.trans hterm).ge
  have hnote := noteLeaders_retains cfg now replies cfg.others
  have hnote' := noteLeaders_unsaved cfg now replies cfg.others
  rcases habsorb with ⟨hret, hun⟩ | ⟨ep, t, hep, hsave, hadopt⟩
  · exact .inl ⟨(hbook.trans hret).trans (hnote _), (hbook'.trans hun).trans (hnote' _)⟩
  · obtain ⟨r, hr, rfl⟩ := Option.map_eq_some_iff.mp hep
    exact .inr ⟨ep, r, hr, hsave, (hbook.adopts hadopt).retains (hnote _)⟩

end Candidate

namespace Lone

open Candidate

@[local grind]
def Tracks (s : Lone Ep) : Prop := s.cand.Synced ∨ s.Blind

variable (readable : Bool) (store : ℤ × Option Ep)

omit [DecidableEq Ep] in
lemma start_tracks (clock : ℚ) :
    (start readable store clock).Tracks := by grind [Candidate.boot_synced]

omit [DecidableEq Ep] in
lemma start_store (clock : ℚ) :
    (start readable store clock).cand.store = store := by cases readable <;> rfl

@[local grind]
def Keeps (s s' : Lone Ep) : Prop := Upholds s.cand.store s'.cand.store ∧ s'.Tracks

variable {s : Lone Ep} {c' : Candidate Ep} {p : Phase Ep}

lemma keeps_of_effect {cfg : ElectionConfig Ep}
    {now : ℚ} (hsynced : s.cand.Synced) (h : s.cand.Effect cfg now c') :
    s.Keeps { s with cand := c', phase := p } := ⟨h.upholds hsynced, .inl (h.synced hsynced)⟩

section

omit [DecidableEq Ep]

lemma Blind.follower (h : s.Blind) (hret : s.cand.Retains c') : c'.role = .follower := by
  have hrole := h.role
  grind [role_ne_leader]

lemma Blind.unsaved (h : s.Blind)
    (hret : s.cand.Retains c') (hun : s.cand.Unsaved c')
    (hphase : p = .idle ∨ (∃ replies, p = .polling replies) ∨ p = .decided .follower) :
    s.Keeps { s with cand := c', phase := p } := by
  have hfollower := h.follower hret
  obtain ⟨⟩ := h
  obtain ⟨⟩ := hun
  grind

lemma keeps_of_adopts {t : ℤ}
    (h : s.cand.Adopts c' t) (hlt : s.cand.store.1 < t) :
    s.Keeps { s with cand := c', phase := p } := by grind [Synced]

end

lemma Blind.followerOpen (h : s.Blind) : s.cand.followerOpen cfg s.clock = (s.cand, .idle) := by
  grind [Candidate.ineligibility, Candidate.followerOpen, Candidate.mayCampaign]

lemma Blind.handleLease (h : s.Blind) (clusterId : Option String)
    (disk : ℤ × Option Ep → Bool) (t : ℤ) (ep : Ep) :
    (s.cand.handleLease cfg s.clock clusterId disk t ep).1 = s.cand := by
  have hstate := h.stateError
  unfold Candidate.handleLease inCluster leaseSection voteBar
  grind

variable {disk : ℤ × Option Ep → Bool}

lemma Blind.tick (h : s.Blind) (hsync : ¬ s.cand.Synced)
    {polls : Replies Ep (LeaderReply Ep)} {votes : Replies Ep (VoteReply Ep)}
    (hguard : s.Guarded (.tick polls votes disk)) :
    s.Keeps (s.step cfg (.tick polls votes disk)) := by
  have hsame : s.cand.Unsaved s.cand := ⟨rfl, id⟩
  rcases h.phase with hphase | ⟨replies, hphase⟩ | hphase
  · simp only [step, hphase, Phase.answered, tickStep]
    exact h.unsaved (.refl _) hsame (.inr (.inl ⟨_, rfl⟩))
  · grind [Guarded, Phase.answered, Candidate.tickStep, Candidate.pollSection_saves, Blind.unsaved, Blind.follower, keeps_of_adopts]
  · simp only [step, hphase, Phase.answered, tickStep, h.followerOpen cfg]
    exact h.unsaved (.refl _) hsame (.inl rfl)

lemma Blind.observe (h : s.Blind) (hsync : ¬ s.cand.Synced) {term : ℤ} {bounded : Bool}
    (hguard : s.Guarded (.observe term bounded disk)) :
    s.Keeps (s.step cfg (.observe term bounded disk)) := by
  have hcases := adopt_cases cfg s.clock disk s.cand term bounded
  rcases adopt_saves cfg s.clock disk s.cand term bounded with ⟨hno, hun⟩ | ⟨hyes, hsave⟩
  · exact h.unsaved (hcases.resolve_right (by simp [hno])).2 hun h.phase
  · exact keeps_of_adopts (hcases.resolve_left (by simp [hyes])).2 (hguard hsync hsave)

lemma keeps_step (h : s.Tracks) {act : LoneAction Ep} (hguard : s.Guarded act) :
    s.Keeps (s.step cfg act) := by
  have hsame : s.Keeps s := ⟨.refl _, h⟩
  cases act with
  | tick polls votes disk =>
    by_cases hsync : s.cand.Synced
    · exact keeps_of_effect hsync (tickStep_effect cfg s.clock disk _ _)
    · exact (h.resolve_left hsync).tick cfg hsync hguard
  | leader clusterId => simpa only [step, World.handleLeader_fst] using hsame
  | prevote term endpoint clusterId => simpa only [step, World.handlePrevote_fst] using hsame
  | lease term endpoint clusterId disk =>
    rcases h with hsync | hblind
    · exact keeps_of_effect hsync (handleLease_effect cfg s.clock disk _ clusterId term endpoint)
    · simpa only [step, hblind.handleLease cfg] using hsame
  | observe term bounded disk =>
    grind [Candidate.Synced, Candidate.observeTerm_follows, Blind.observe]
  | restart readable =>
    refine ⟨?_, start_tracks readable s.cand.store s.clock⟩
    simpa only [step, start_store] using Upholds.refl _
  | advance elapsed =>
    exact ⟨.refl _, h.imp_right fun hblind => { hblind with }⟩

lemma keeps_run (h : s.Tracks) (actions : List (LoneAction Ep))
    (hguard : Along (step cfg) Guarded s actions) : s.Keeps (run (step cfg) s actions) := by
  have hstep : ∀ s' act, s.Keeps s' → s'.Guarded act → s.Keeps (s'.step cfg act) := by
    intro s' act hs' hact
    obtain ⟨hup, htracks⟩ := keeps_step cfg hs'.2 hact
    exact ⟨hs'.1.trans hup, htracks⟩
  exact run_invariant (step cfg) hstep actions s ⟨.refl _, h⟩ hguard

/-- In a run whose blind starts save no term at or below the stored one, the
stored term never decreases and a term never gets a second vote. -/
theorem stored_pair_upheld (readable : Bool) (store : ℤ × Option Ep) (clock : ℚ)
    (first second : List (LoneAction Ep))
    (hguard : Along (step cfg) Guarded (start readable store clock) (first ++ second)) :
    let earlier := (run (step cfg) (start readable store clock) first).cand.store
    let later := (run (step cfg) (start readable store clock) (first ++ second)).cand.store
    earlier.1 ≤ later.1 ∧
      ∀ a b, earlier.1 = later.1 → earlier.2 = some a → later.2 = some b → a = b := by
  intro earlier later
  grind [along_append, keeps_run, start_tracks, run_append]

/-- An unreadable start that catches up with the cluster at term 7, a readable
one, and a vote in term 7 once the candidate has settled. -/
def caughtUp : List (LoneAction (Fin 3)) :=
  [.observe 7 true fun _ => true, .restart true, .advance 10, .lease 7 2 none fun _ => true]

theorem stored_pair_upheld_caughtUp :
    let cfg := trio.config (trio.node 0)
    let later := (run (step cfg) (start false (5, some 1) 0) caughtUp).cand.store
    later = (7, some 2) ∧ (5 : ℤ) ≤ later.1 := by
  intro cfg later
  have hguard : Along (step cfg) Guarded (start false (5, some 1) 0) ([] ++ caughtUp) :=
    ⟨fun _ _ => by decide, trivial, trivial, trivial, trivial⟩
  exact ⟨by decide +kernel, (stored_pair_upheld cfg false (5, some 1) 0 [] caughtUp hguard).1⟩

/-- A vote for 1 in term 5 is stored.  A start that cannot read the file adopts
term 4 and then term 5 from observed terms; the next start reads `(5, None)` and,
settled, grants the LEASE of 2. -/
def forgotten : List (LoneAction (Fin 3)) :=
  [.restart false, .observe 4 true fun _ => true, .observe 5 true fun _ => true, .restart true,
    .advance 10, .lease 5 2 none fun _ => true]

/-- The stored term falls, and term 5 gets a second vote. -/
theorem exists_second_vote :
    let cfg := trio.config (trio.node 0)
    let stored := fun n => (run (step cfg) (start true (5, some 1) 0) (forgotten.take n)).cand.store
    stored 1 = (5, some 1) ∧ stored 2 = (4, none) ∧ stored 6 = (5, some 2) := by decide +kernel

end Lone

end HeimdallDaq.Election
