/-
  Election/Effects.lean --- what each section of the election can do.

  A section either leaves the vote and the lease alone (`Retains`), moves to a higher
  term (`Adopts`), votes for an endpoint and grants it the lease (`Grants`), stores a
  vote for itself (`Claims`), becomes leader (`Leads`) or renews the grants of a leader
  (`Renews`).
-/
import HeimdallDaq.Election.Tick

namespace HeimdallDaq.Election

variable {Ep : Type}

namespace Candidate

variable (c : Candidate Ep)

def Synced : Prop := c.store = (c.term, c.votedFor)

lemma boot_synced (store : ℤ × Option Ep) (now : ℚ) : (boot store now).Synced := rfl

structure Retains (c c' : Candidate Ep) : Prop where
  term : c'.term = c.term
  votedFor : c'.votedFor = c.votedFor
  startMono : c'.startMono = c.startMono
  leaseHolder : c'.leaseHolder = c.leaseHolder
  leaseExpiry : c'.leaseExpiry = c.leaseExpiry
  synced : c.Synced → c'.Synced
  leads : c'.role = .leader → c.role = .leader ∧ c'.grants = c.grants

structure Adopts (c c' : Candidate Ep) (t : ℤ) : Prop where
  lt : c.term < t
  term : c'.term = t
  votedFor : c'.votedFor = none
  startMono : c'.startMono = c.startMono
  leaseHolder : c'.leaseHolder = c.leaseHolder
  leaseExpiry : c'.leaseExpiry = c.leaseExpiry
  synced : c'.Synced
  role : c'.role = .follower

def Follows (c c' : Candidate Ep) : Prop := c.Retains c' ∨ ∃ t, c.Adopts c' t

attribute [grind] Retains Adopts Follows

attribute [local grind] Synced

lemma Retains.refl : c.Retains c := by grind

variable {c c' c'' : Candidate Ep}

lemma Retains.trans (h : c.Retains c') (h' : c'.Retains c'') : c.Retains c'' := by grind

lemma role_ne_leader {c : Candidate Ep} : c.role ≠ .leader ↔ c.role = .follower := by
  cases c.role <;> simp

lemma Adopts.retains {t : ℤ} (h : c.Adopts c' t)
    (h' : c'.Retains c'') : c.Adopts c'' t := by grind [role_ne_leader]

lemma Retains.adopts {t : ℤ} (h : c.Retains c')
    (h' : c'.Adopts c'' t) : c.Adopts c'' t := by grind

lemma Follows.retains (h : c.Follows c') (h' : c'.Retains c'') : c.Follows c'' := by
  rcases h with h | ⟨t, h⟩
  · exact Or.inl (h.trans h')
  · exact Or.inr ⟨t, h.retains h'⟩

lemma Retains.follows (h : c.Retains c') (h' : c'.Follows c'') : c.Follows c'' := by
  rcases h' with h' | ⟨t, h'⟩
  · exact Or.inl (h.trans h')
  · exact Or.inr ⟨t, h.adopts h'⟩

section Sections

variable (cfg : ElectionConfig Ep) (now : ℚ) (disk : ℤ × Option Ep → Bool)

lemma stepDown_retains (c : Candidate Ep) (reason : Reason) :
    c.Retains (c.stepDown cfg now reason) := by grind [stepDown]

variable {pair : ℤ × Option Ep}

lemma persist_failed
    (h : c.persist cfg now disk pair = (c', false)) : c.Retains c' := by grind [persist, stepDown]

lemma persist_saved
    (h : c.persist cfg now disk pair = (c', true)) : disk pair ∧ c' = { c with store := pair } := by
  grind [persist]

lemma adopt_cases (c : Candidate Ep) (term : ℤ) (bounded : Bool) :
    ((c.adopt cfg now disk term bounded).2 = false ∧
        c.Retains (c.adopt cfg now disk term bounded).1) ∨
      ((c.adopt cfg now disk term bounded).2 ∧
        c.Adopts (c.adopt cfg now disk term bounded).1 term) := by
  unfold adopt
  grind [persist, stepDown, role_ne_leader]

lemma observeTerm_follows (c : Candidate Ep) (term : ℤ) (bounded : Bool) :
    c.Follows (c.observeTerm cfg now disk term bounded).1 := by grind [adopt_cases, observeTerm]

lemma retains_of_eq (h : c'.term = c.term ∧ c'.votedFor = c.votedFor ∧
    c'.store = c.store ∧ c'.startMono = c.startMono ∧ c'.leaseHolder = c.leaseHolder ∧
    c'.leaseExpiry = c.leaseExpiry ∧ c'.role = c.role ∧ c'.grants = c.grants) : c.Retains c' := by
  grind

variable [DecidableEq Ep]

section

variable (c : Candidate Ep)

lemma absorbTerms_cases (terms : Replies Ep ℤ) : ((c.absorbTerms cfg now disk terms).2 = false ∧
        c.Retains (c.absorbTerms cfg now disk terms).1) ∨
      ((c.absorbTerms cfg now disk terms).2 ∧
        ∃ t, c.Adopts (c.absorbTerms cfg now disk terms).1 t) := by
  unfold absorbTerms
  grind [adopt_cases]

lemma absorbTerms_follows (terms : Replies Ep ℤ) :
    c.Follows (c.absorbTerms cfg now disk terms).1 := by grind [absorbTerms_cases]

/-! ## Handlers -/

/-- The endpoint got the vote of term `t` and the lease. -/
structure Grants (c c' : Candidate Ep) (t : ℤ) (ep : Ep) : Prop where
  le : c.term ≤ t
  term : c'.term = t
  votedFor : c'.votedFor = some ep
  startMono : c'.startMono = c.startMono
  leaseHolder : c'.leaseHolder = some ep
  leaseExpiry : c'.leaseExpiry = now + cfg.lease
  synced : c.Synced → c'.Synced
  leads : c'.role = .leader → c.role = .leader ∧ c'.grants = c.grants ∧ c.term = t
  vote : c.term = t → c.votedFor = none ∨ c.votedFor = some ep
  sticky : c.term < t → c.leaseValid now → c.leaseHolder = some ep
  settled : c.settling cfg now = false
  candidate : ep ∈ cfg.candidates ∧ ep ≠ cfg.selfEndpoint

attribute [grind] Grants

lemma leaseVote_cases (term : ℤ) (ep : Ep) : ((c.leaseVote cfg now disk term ep).2 = false ∧
        c.Retains (c.leaseVote cfg now disk term ep).1) ∨
      ((c.leaseVote cfg now disk term ep).2 ∧ term = c.term ∧
        (c.votedFor = none ∨ c.votedFor = some ep) ∧
        ∃ c₁ : Candidate Ep, (c₁ = { c with store := (c.term, some ep) } ∨
            c₁ = c ∧ c.votedFor = some ep) ∧
          (c.leaseVote cfg now disk term ep).1 =
            { c₁ with
              votedFor := some ep
              leaseHolder := some ep
              leaseExpiry := now + cfg.lease
              leader := some (ep, term)
              lastLeaderSeen := now }) := by
  unfold leaseVote
  grind [persist_failed, persist_saved]

lemma leaseAdopt_cases (term : ℤ) (ep : Ep) : ((c.leaseAdopt cfg now disk term ep).2 = false ∧
        c.Retains (c.leaseAdopt cfg now disk term ep).1) ∨
      ((c.leaseAdopt cfg now disk term ep).2 ∧
        ((c.term < term ∧ c.Adopts (c.leaseAdopt cfg now disk term ep).1 term ∧
            (c.leaseValid now → c.leaseHolder = some ep)) ∨
          (term ≤ c.term ∧ (c.leaseAdopt cfg now disk term ep).1 = c))) := by
  unfold leaseAdopt
  grind [adopt_cases]

lemma leaseSection_cases (term : ℤ) (ep : Ep) : ((c.leaseSection cfg now disk term ep).2 = false ∧
        c.Follows (c.leaseSection cfg now disk term ep).1) ∨
      ((c.leaseSection cfg now disk term ep).2 ∧
        c.Grants cfg now (c.leaseSection cfg now disk term ep).1 term ep) := by
  have hadopt := leaseAdopt_cases cfg now disk c term ep
  unfold leaseSection
  split
  · grind
  · rename_i hopen
    have hbar : c.voteBar cfg now ep = none := by simpa using (not_or.mp hopen).1
    unfold voteBar at hbar
    split
    · grind
    · rename_i c' hA
      rw [hA] at hadopt
      rcases leaseVote_cases cfg now disk c' term ep with hv | ⟨hgr, hterm, hvote, c₁, hc₁, heq⟩
      · have hfollows : c.Follows c' := by grind
        exact Or.inl ⟨hv.1, hfollows.retains hv.2⟩
      all_goals grind

/-! ## Tick sections -/

lemma noteLeader_retains (ep : Ep) (reply : Option (LeaderReply Ep)) :
    c.Retains (c.noteLeader cfg now ep reply) := by
  unfold noteLeader
  grind [stepDown]

lemma noteLeaders_retains (replies : Replies Ep (LeaderReply Ep)) (eps : List Ep)
    (c : Candidate Ep) : c.Retains (eps.foldl (fun c ep => c.noteLeader cfg now ep (replies ep)) c) :=
  List.foldlRecOn eps _ (motive := c.Retains) (.refl c) fun d hd ep _ =>
    hd.trans (noteLeader_retains cfg now d ep (replies ep))

lemma pollSection_follows (replies : Replies Ep (LeaderReply Ep)) :
    c.Follows (c.pollSection cfg now disk replies) := by
  have hbook : c.Retains (updatePeers cfg now replies { c with ticks := c.ticks + 1 }) :=
    retains_of_eq ⟨rfl, rfl, rfl, rfl, rfl, rfl, rfl, rfl⟩
  exact hbook.follows ((absorbTerms_follows cfg now disk _ _).retains
    (noteLeaders_retains cfg now replies cfg.others _))

lemma leaderOpen_retains : c.Retains (c.leaderOpen cfg now).1 := by
  unfold leaderOpen
  grind [stepDown_retains]

lemma leaderOpen_phase :
    (c.leaderOpen cfg now).2 = .idle ∨ (c.leaderOpen cfg now).2 = .renewing c.term := by
  grind [leaderOpen]

lemma mayCampaign_retains : c.Retains (c.mayCampaign cfg now).1 := by
  unfold mayCampaign
  grind

lemma mayCampaign_settled {c : Candidate Ep} (h : c.mayCampaign cfg now = (c', true)) :
    c.settling cfg now = false := by grind [mayCampaign, ineligibility]

lemma followerOpen_retains : c.Retains (c.followerOpen cfg now).1 := by
  grind [followerOpen, mayCampaign_retains cfg now c]

lemma followerOpen_phase : (c.followerOpen cfg now).2 = .idle ∨
      ((c.followerOpen cfg now).2 = .prevoting c.term noReplies ∧ c.settling cfg now = false) := by
  have h := mayCampaign_retains cfg now c
  unfold followerOpen
  grind [mayCampaign_settled]

structure Renews (c c' : Candidate Ep) (t : ℤ) (sendTime : ℚ)
    (replies : Replies Ep (VoteReply Ep)) : Prop where
  term : c'.term = c.term
  votedFor : c'.votedFor = c.votedFor
  startMono : c'.startMono = c.startMono
  leaseHolder : c'.leaseHolder = c.leaseHolder
  leaseExpiry : c'.leaseExpiry = c.leaseExpiry
  synced : c.Synced → c'.Synced
  leads : c'.role = .leader → c.role = .leader ∧ c.term = t ∧
    c'.grants = addGrants cfg sendTime replies c.grants

attribute [grind] Renews

lemma leaderClose_cases (t : ℤ) (sendTime : ℚ)
    (replies : Replies Ep (VoteReply Ep)) :
    c.Follows (c.leaderClose cfg now disk t sendTime replies) ∨
      c.Renews cfg (c.leaderClose cfg now disk t sendTime replies) t sendTime replies := by
  grind [absorbTerms_cases, leaderClose, stepDown]

structure Claims (c c' : Candidate Ep) (base : ℤ) : Prop where
  start : c.term = base
  term : c'.term = base + 1
  votedFor : c'.votedFor = some cfg.selfEndpoint
  startMono : c'.startMono = c.startMono
  leaseHolder : c'.leaseHolder = c.leaseHolder
  leaseExpiry : c'.leaseExpiry = c.leaseExpiry
  synced : c'.Synced
  role : c'.role = .follower

attribute [grind] Claims

lemma prevoteClose_cases (base : ℤ) (replies : Replies Ep (VoteReply Ep)) :
    (c.Follows (c.prevoteClose cfg now disk base replies).1 ∧
        (c.prevoteClose cfg now disk base replies).2 = .idle) ∨
      (c.Claims cfg (c.prevoteClose cfg now disk base replies).1 base ∧
        (c.prevoteClose cfg now disk base replies).2 = .claimed (base + 1) ∧
        (c.prevoteWon cfg now disk base replies).2 ∧
        disk (base + 1, some cfg.selfEndpoint)) := by
  have habs := absorbTerms_cases cfg now disk c (fun ep => (replies ep).map (·.term))
  have hwon : c.Follows (c.prevoteWon cfg now disk base replies).1 ∧
      ((c.prevoteWon cfg now disk base replies).2 → c.term = base ∧ c.role = .follower ∧
          c.Retains (c.prevoteWon cfg now disk base replies).1) := by
    -- an adopted term is above `base`, which the last test excludes
    unfold prevoteWon
    grind [role_ne_leader]
  unfold prevoteClose
  split
  · grind
  · rename_i c' heq
    rw [heq] at hwon
    obtain ⟨hbase, hrole, hret⟩ := hwon.2 rfl
    have hrole' : c'.role = .follower := by grind [role_ne_leader]
    split
    · grind [Retains.trans, persist_failed]
    · rename_i c'' hp
      obtain ⟨hd, rfl⟩ := persist_saved cfg now disk hp
      grind

/-- The claim of term `t` was carried. -/
structure Leads (c c' : Candidate Ep) (t : ℤ) (sendTime : ℚ)
    (replies : Replies Ep (VoteReply Ep)) : Prop where
  start : c.term = t
  term : c'.term = t
  votedFor : c'.votedFor = c.votedFor
  startMono : c'.startMono = c.startMono
  leaseHolder : c'.leaseHolder = none
  synced : c.Synced → c'.Synced
  role : c'.role = .leader
  grants : c'.grants = addGrants cfg sendTime replies (fun _ => none)
  carried : carries cfg replies

attribute [grind] Leads

lemma claimClose_cases (t : ℤ) (sendTime : ℚ)
    (replies : Replies Ep (VoteReply Ep)) :
    c.Follows (c.claimClose cfg now disk t sendTime replies) ∨
      c.Leads cfg (c.claimClose cfg now disk t sendTime replies) t sendTime replies := by
  grind [absorbTerms_cases, claimClose]

/-! ## Any section -/

inductive Effect (c c' : Candidate Ep) : Prop
  | follows (h : c.Follows c')
  | grants (t : ℤ) (ep : Ep) (h : c.Grants cfg now c' t ep)
  | renews (t : ℤ) (sendTime : ℚ) (replies : Replies Ep (VoteReply Ep))
      (h : c.Renews cfg c' t sendTime replies)
  | claims (base : ℤ) (h : c.Claims cfg c' base)
  | leads (t : ℤ) (sendTime : ℚ) (replies : Replies Ep (VoteReply Ep))
      (h : c.Leads cfg c' t sendTime replies)

end

variable {cfg now}

lemma Effect.synced (h : c.Effect cfg now c') (hsynced : c.Synced) :
    c'.Synced := by cases h <;> grind

lemma Effect.votes (h : c.Effect cfg now c') :
    c.term < c'.term ∨ (c'.term = c.term ∧ (c.votedFor = none ∨ c'.votedFor = c.votedFor)) := by
  cases h <;> grind

end Sections

end Candidate

end HeimdallDaq.Election
