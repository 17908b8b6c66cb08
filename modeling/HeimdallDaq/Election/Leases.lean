/-
  Election/Leases.lean --- when at most one candidate has a quorum.

  A leader counts a grant for `L * (1 - eps)` after it sent the LEASE; the granter keeps
  the lease for `L` after it served it and, after a restart, stays silent for the settle
  period.
-/
import HeimdallDaq.Election.Votes
import Mathlib

namespace HeimdallDaq.Election

open Foundation Candidate

variable {Ep : Type} [DecidableEq Ep] {C : Cluster Ep}

def Action.SameClocks : Action C → Prop
  | .advance elapsed => ∀ x y, elapsed x = elapsed y
  | _ => True

def Candidate.KeepsLease (c : Candidate Ep) (now : ℚ) (t : ℤ) (ep : Ep) : Prop :=
  c.term = t → c.votedFor = none → c.leaseValid now → c.leaseHolder = some ep

instance (c : Candidate Ep) (now : ℚ) (t : ℤ) (ep : Ep) : Decidable (c.KeepsLease now t ep) :=
  inferInstanceAs (Decidable (_ → _ → _ → _))

instance : ∀ act : Action C, Decidable act.SameClocks
  | .advance elapsed => inferInstanceAs (Decidable (∀ x y, elapsed x = elapsed y))
  | .tick _ _ | .deliver _ _ _ _ | .leader _ _ | .prevote _ _ _ _ | .lease _ _ _ _ _
  | .observe _ _ _ _ | .restart _ => inferInstanceAs (Decidable True)

attribute [local grind cases] Candidate.Retains Candidate.Adopts Candidate.Grants Candidate.Renews
  Candidate.Claims Candidate.Leads

attribute [local grind] Candidate.Follows

namespace World

variable (w : World C)

def CommitGuarded (a : C.Node) (disk : ℤ × Option Ep → Bool) : Phase Ep → Prop
  | .prevoting base replies =>
    ((w.cand a).prevoteWon (C.config a) (w.clock a) disk base replies).2 →
      disk (base + 1, some a.1) → (w.cand a).leaseValid (w.clock a) = false
  | _ => True

def ServeGuarded (a x : C.Node) : Phase Ep → Prop
  | .leasing t _ _ => (w.cand x).KeepsLease (w.clock x) t a.1
  | .claiming t _ _ => (w.cand x).KeepsLease (w.clock x) t a.1
  | _ => True

/-- The action does not make a candidate commit or vote under a running lease of
another endpoint. -/
def Guarded : Action C → Prop
  | .tick a disk => w.CommitGuarded a disk (w.phase a)
  | .deliver a x _ _ => w.ServeGuarded a x (w.phase a)
  | .lease x t ep _ _ => (w.cand x).KeepsLease (w.clock x) t ep
  | _ => True

instance (w : World C) (a : C.Node) (disk : ℤ × Option Ep → Bool) :
    ∀ p : Phase Ep, Decidable (w.CommitGuarded a disk p)
  | .prevoting _ _ => inferInstanceAs (Decidable (_ → _ → _))
  | .idle | .polling _ | .decided _ | .renewing _ | .leasing _ _ _ | .claimed _
  | .claiming _ _ _ => inferInstanceAs (Decidable True)

instance (w : World C) (a x : C.Node) : ∀ p : Phase Ep, Decidable (w.ServeGuarded a x p)
  | .leasing t _ _ => inferInstanceAs (Decidable ((w.cand x).KeepsLease (w.clock x) t a.1))
  | .claiming t _ _ => inferInstanceAs (Decidable ((w.cand x).KeepsLease (w.clock x) t a.1))
  | .idle | .polling _ | .decided _ | .renewing _ | .prevoting _ _ | .claimed _ =>
    inferInstanceAs (Decidable True)

instance (w : World C) : ∀ act : Action C, Decidable (w.Guarded act)
  | .tick a disk => inferInstanceAs (Decidable (w.CommitGuarded a disk (w.phase a)))
  | .deliver a x _ _ => inferInstanceAs (Decidable (w.ServeGuarded a x (w.phase a)))
  | .lease x t ep _ _ =>
    inferInstanceAs (Decidable ((w.cand x).KeepsLease (w.clock x) t ep))
  | .leader _ _ | .prevote _ _ _ _ | .observe _ _ _ _ | .restart _ | .advance _ =>
    inferInstanceAs (Decidable True)

variable {w : World C}

lemma Guarded.of_asks {act : Action C} {x : C.Node} {t : ℤ} {ep : Ep}
    (h : w.Guarded act) (hask : w.Asks x t ep act) : (w.cand x).KeepsLease (w.clock x) t ep := by
  cases hask <;> grind [Guarded, ServeGuarded]

variable {a : C.Node}

lemma Guarded.of_commits {act : Action C} {base : ℤ}
    (h : w.Guarded act) (hcommit : w.Commits a base act) :
    (w.cand a).leaseValid (w.clock a) = false := by
  obtain ⟨replies, disk, rfl, hphase, hwon, hdisk⟩ := hcommit
  simp only [Guarded, CommitGuarded, hphase] at h
  exact h hwon hdisk

/-! ## Grants and their granters -/

/-- `a` counts, or will count when its open round closes, a grant of `x` for a
LEASE sent at `s`. -/
inductive Holds (w : World C) (a x : C.Node) (s : ℚ) : Prop
  | grant (hrole : (w.cand a).role = .leader) (hgrant : (w.cand a).grants x.1 = some s)
  | renewal (t : ℤ) (replies : Replies Ep (VoteReply Ep))
      (hphase : w.phase a = .leasing t s replies)
      (hgranted : Candidate.grantedBy replies x.1)
      (hrole : (w.cand a).role = .leader) (hterm : (w.cand a).term = t)
  | claim (t : ℤ) (replies : Replies Ep (VoteReply Ep))
      (hphase : w.phase a = .claiming t s replies)
      (hgranted : Candidate.grantedBy replies x.1) (hterm : (w.cand a).term = t)

/-- `a` counts its own vote: it leads, or its claim is open. -/
inductive Stands (w : World C) (a : C.Node) : Prop
  | leader (hrole : (w.cand a).role = .leader)
  | claimed (t : ℤ) (hphase : w.phase a = .claimed t) (hterm : (w.cand a).term = t)
  | claiming (t : ℤ) (s : ℚ) (replies : Replies Ep (VoteReply Ep))
      (hphase : w.phase a = .claiming t s replies) (hterm : (w.cand a).term = t)

def Locked (x a : C.Node) (u : ℚ) : Prop :=
  u ≤ w.clock x ∨ ((w.cand x).leaseHolder = some a.1 ∧ u ≤ (w.cand x).leaseExpiry) ∨
    u ≤ (w.cand x).startMono + (C.config x).settle

def Settled (a : C.Node) : Prop := (w.cand a).startMono + (C.config a).settle ≤ w.clock a

omit [DecidableEq Ep] in
lemma settled_of_not_settling
    (h : (w.cand a).settling (C.config a) (w.clock a) = false) : w.Settled a := by
  simp only [settling, decide_eq_false_iff_not, not_lt] at h
  unfold Settled
  linarith

lemma settled_step (act : Action C) (hsettled : w.Settled a) :
    (w.step act).Settled a ∨ (w.step act).phase a = .idle := by
  have hclock := w.clock_le_step act a
  unfold Settled at hsettled ⊢
  cases w.step_cand act a <;> grind

def InOrder (a : C.Node) : Phase Ep → Prop
  | .prevoting _ _ => w.Settled a
  | .claimed t => t ≤ (w.cand a).term ∧ w.Settled a
  | .claiming t s _ => t ≤ (w.cand a).term ∧ s ≤ w.clock a ∧ w.Settled a
  | .renewing t => t ≤ (w.cand a).term
  | .leasing t s _ => t ≤ (w.cand a).term ∧ s ≤ w.clock a
  | _ => True

end World

/-- A grant that is still counted binds its granter, to one candidate only. -/
@[local grind]
structure LeaseInv (w : World C) : Prop where
  clocks : ∀ x y, w.clock x = w.clock y
  synced : ∀ x, (w.cand x).Synced
  rounds : ∀ a, w.InOrder a (w.phase a)
  own : ∀ a, w.Stands a → (w.cand a).votedFor = some a.1
  ballot : ∀ x ep holder, (w.cand x).votedFor = some ep → (w.cand x).leaseHolder = some holder →
    ep = x.1 ∨ holder = ep
  sent : ∀ a x s, w.Holds a x s → s ≤ w.clock x
  locked : ∀ a x s, w.Holds a x s → w.Locked x a (s + (C.config x).lease)
  alone : ∀ a x s, w.Stands x → w.Holds a x s → s + (C.config x).lease ≤ w.clock x
  exclusive : ∀ a b x s s', a ≠ b → w.Holds a x s → w.Holds b x s' →
    s + (C.config x).lease ≤ w.clock x ∨ s' + (C.config x).lease ≤ w.clock x

namespace LeaseInv

variable {w : World C} (h : LeaseInv w) (act : Action C)

include h

/-! ## One action -/

lemma term_le_step (x : C.Node) : (w.cand x).term ≤ ((w.step act).cand x).term := by
  rcases (w.step_cand act x).voteStep (h.synced x) with hlt | ⟨heq, -⟩ <;> omega

variable {a x : C.Node}

attribute [local grind] World.Holds World.Stands World.InOrder

/-- A grant is counted because it was counted before, or because the action made
the granter grant it. -/
lemma holds_step {s : ℚ} (hholds : (w.step act).Holds a x s) :
    w.Holds a x s ∨ ∃ t, w.Asks x t a.1 act ∧
      (w.cand x).Grants (C.config x) (w.clock x) ((w.step act).cand x) t a.1 ∧ s ≤ w.clock x := by
  have hup := h.term_le_step act a
  have hmoves := w.step_phase act a
  have hround := h.rounds a
  have hclocks := h.clocks x a
  have hnone : grantedBy noReplies x.1 = false := rfl
  cases hholds with
  | grant hrole hgrant =>
    left
    cases w.step_cand act a with
    | follows hf =>
      rcases hf with hr | ⟨t, ha⟩
      · exact .grant (hr.leads hrole).1 ((hr.leads hrole).2 ▸ hgrant)
      · grind
    | grants t ep hask hg => exact .grant (hg.leads hrole).1 ((hg.leads hrole).2.1 ▸ hgrant)
    | renews t sendTime replies hphase hr =>
      obtain ⟨hlead, hterm, hadd⟩ := hr.leads hrole
      simp only [hadd, addGrants] at hgrant
      grind
    | leads t sendTime replies hphase hl =>
      have hstart := hl.start
      simp only [hl.grants, addGrants] at hgrant
      grind
    | _ => grind [boot]
  | renewal t replies hphase hgranted hrole hterm =>
    rw [hphase] at hmoves
    have hlead := (w.step_cand act a).leader hrole
    generalize hp : Phase.leasing t s replies = p at hmoves
    cases hmoves with
    | renewed t' s' replies₀ y reply hne hopen hans =>
      simp only [Phase.leasing.injEq] at hp
      obtain ⟨rfl, rfl, rfl⟩ := hp
      have hcases := World.granted_update hans hgranted
      grind
    | _ => grind
  | claim t replies hphase hgranted hterm =>
    rw [hphase] at hmoves
    generalize hp : Phase.claiming t s replies = p at hmoves
    cases hmoves with
    | answered t' s' replies₀ y reply hne hopen hans =>
      simp only [Phase.claiming.injEq] at hp
      obtain ⟨rfl, rfl, rfl⟩ := hp
      have hcases := World.granted_update hans hgranted
      grind
    | _ => grind

/-- A candidate counts itself because it did before, in the same term, or because
the action committed its vote for itself. -/
lemma stands_step {a : C.Node} (hstands : (w.step act).Stands a) :
    (w.Stands a ∧ ((w.step act).cand a).term = (w.cand a).term) ∨ ∃ base, w.Commits a base act ∧
        (w.cand a).Claims (C.config a) ((w.step act).cand a) base := by
  have hup := h.term_le_step act a
  have hround := h.rounds a
  have hmoves := w.step_phase act a
  cases hstands with
  | leader hrole =>
    have hlead := (w.step_cand act a).leader hrole
    grind
  | claimed t hphase hterm =>
    rw [hphase] at hmoves
    generalize hp : Phase.claimed t = p at hmoves
    cases hmoves <;> grind
  | claiming t s replies hphase hterm =>
    rw [hphase] at hmoves
    generalize hp : Phase.claiming t s replies = p at hmoves
    cases hmoves <;> grind

lemma rounds_step (a : C.Node) : (w.step act).InOrder a ((w.step act).phase a) := by
  have hclock := w.clock_le_step act a
  have hup := h.term_le_step act a
  have hround := h.rounds a
  have hset : w.Settled a → (w.step act).Settled a ∨ (w.step act).phase a = .idle :=
    World.settled_step act
  generalize hp : (w.step act).phase a = p at hset ⊢
  have hmoves := w.step_phase act a
  rw [hp] at hmoves
  cases hmoves with
  | same => cases hphase : w.phase a <;> grind
  | _ => grind [World.settled_of_not_settling, World.Commits]

lemma own_step (a : C.Node) (hstands : (w.step act).Stands a) :
    ((w.step act).cand a).votedFor = some a.1 := by
  have hself := h.own a
  have hendpoint : (C.config a).selfEndpoint = a.1 := rfl
  have hvote := (w.step_cand act a).voteStep (h.synced a)
  grind [h.stands_step act hstands, World.VoteStep]

lemma ballot_step (x : C.Node) (ep holder : Ep) (hvote : ((w.step act).cand x).votedFor = some ep)
    (hholder : ((w.step act).cand x).leaseHolder = some holder) : ep = x.1 ∨ holder = ep := by
  have hold := h.ballot x ep holder
  have hself : (C.config x).selfEndpoint = x.1 := rfl
  cases w.step_cand act x <;> grind [boot]

lemma sent_step (a x : C.Node) (s : ℚ) (hholds : (w.step act).Holds a x s) :
    s ≤ (w.step act).clock x := by
  have hold := h.sent a x s
  have hclock := w.clock_le_step act x
  grind [h.holds_step act hholds]

variable {act} (hguard : w.Guarded act)

include hguard

lemma expired_of_grants {u : ℚ} {t : ℤ} {ep : Ep} {c' : Candidate Ep}
    (hlocked : w.Locked x a u) (hask : w.Asks x t ep act)
    (hg : (w.cand x).Grants (C.config x) (w.clock x) c' t ep) (hne : a.1 ≠ ep) : u ≤ w.clock x := by
  have hsettled := World.settled_of_not_settling hg.settled
  have hballot := h.ballot x ep a.1
  have hkeeps := hguard.of_asks hask
  have hself : (C.config x).selfEndpoint = x.1 := rfl
  rcases hlocked with hpast | ⟨hholder, hexp⟩ | hsettle
  · exact hpast
  · by_contra hlive
    have hvalid : (w.cand x).leaseValid (w.clock x) := by
      simp only [leaseValid, hholder, Option.isSome_some, Bool.true_and, decide_eq_true_eq]
      linarith
    grind [Candidate.KeepsLease]
  · exact hsettle.trans hsettled

lemma expired_of_commits {u : ℚ} {base : ℤ} (hlocked : w.Locked x a u)
    (hcommit : w.Commits x base act) : u ≤ w.clock x := by
  have hinvalid := hguard.of_commits hcommit
  have hround := h.rounds x
  obtain ⟨r, disk, -, hphase, -, -⟩ := hcommit
  grind [World.Locked, leaseValid, World.Settled]

lemma locked_step (a x : C.Node) (s : ℚ) (hholds : (w.step act).Holds a x s) :
    (w.step act).Locked x a (s + (C.config x).lease) := by
  have hclock := w.clock_le_step act x
  have hsettle := (C.config x).lease_le_settle
  rcases h.holds_step act hholds with hold | ⟨t, -, hg, hs⟩
  · have hlocked := h.locked a x s hold
    have hsent := h.sent a x s hold
    have halone := h.alone a x s
    cases w.step_cand act x with
    | grants t ep hask hg =>
      have hexpired := h.expired_of_grants hguard hlocked hask hg
      grind [World.Locked]
    | leads t s' r hphase hl =>
      exact .inl ((h.alone a x s (.claiming t s' r hphase hl.start) hold).trans hclock)
    | _ => grind [World.Locked, boot]
  · grind [World.Locked]

lemma alone_step (a x : C.Node) (s : ℚ) (hstands : (w.step act).Stands x)
    (hholds : (w.step act).Holds a x s) : s + (C.config x).lease ≤ (w.step act).clock x := by
  refine le_trans ?_ (w.clock_le_step act x)
  have hself := h.own x
  have hendpoint : (C.config x).selfEndpoint = x.1 := rfl
  have hold := h.alone a x s
  grind [stands_step, holds_step, expired_of_commits]

lemma exclusive_step (a b x : C.Node) (s s' : ℚ) (hne : a ≠ b)
    (ha : (w.step act).Holds a x s) (hb : (w.step act).Holds b x s') :
    s + (C.config x).lease ≤ (w.step act).clock x ∨
      s' + (C.config x).lease ≤ (w.step act).clock x := by
  have hclock := w.clock_le_step act x
  have hold := h.exclusive a b x s s' hne
  grind [holds_step, expired_of_grants]

lemma step (hsame : act.SameClocks) : LeaseInv (w.step act) where
  clocks := by
    intro x y
    cases act with
    | deliver a z arrives disk =>
      simp only [World.step]
      split <;> exact h.clocks x y
    | advance elapsed =>
      simp only [World.step]
      rw [h.clocks x y, hsame x y]
    | _ => exact h.clocks x y
  synced := fun x => (w.step_cand act x).synced (h.synced x)
  rounds := h.rounds_step act
  own := h.own_step act
  ballot := h.ballot_step act
  sent := h.sent_step act
  locked := h.locked_step hguard
  alone := h.alone_step hguard
  exclusive := h.exclusive_step hguard

omit hguard

lemma quorum_unique (hcounts : ∀ a x : C.Node, (C.config a).horizon ≤ (C.config x).lease)
    {a b : C.Node} (ha : (w.cand a).hasQuorum (C.config a) (w.clock a))
    (hb : (w.cand b).hasQuorum (C.config b) (w.clock b)) : a = b := by
  simp only [hasQuorum, Bool.and_eq_true, decide_eq_true_eq] at ha hb
  obtain ⟨Q, hQ, hQcard, hQmem⟩ := C.exists_quorum a _ (of_decide_eq_true ha.2)
  obtain ⟨R, hR, hRcard, hRmem⟩ := C.exists_quorum b _ (of_decide_eq_true hb.2)
  obtain ⟨x, hxQ, hxR⟩ := C.quorums_meet hQ hR hQcard hRcard
  -- a counted grant is held, and its granter is bound past the present
  have hlive : ∀ c : C.Node, (w.cand c).role = .leader →
      (w.cand c).liveGrant (C.config c) (w.clock c) x.1 →
      ∃ s, w.Holds c x s ∧ w.clock x < s + (C.config x).lease := by
    intro c hrole hcount
    unfold liveGrant at hcount
    split at hcount
    · rename_i s hgrant
      refine ⟨s, .grant hrole hgrant, ?_⟩
      have hnow := of_decide_eq_true hcount
      rw [h.clocks c x] at hnow
      linarith [hcounts c x]
    · simp at hcount
  by_contra hne
  rcases hQmem x.1 hxQ with hxa | hcountA
  · rcases hRmem x.1 hxR with hxb | hcountB
    · exact hne (Subtype.ext (hxa.symm.trans hxb))
    · obtain ⟨s, hholds, hfuture⟩ := hlive b hb.1 hcountB
      have hstands : w.Stands x := .leader ((Subtype.ext hxa : x = a) ▸ ha.1)
      linarith [h.alone b x s hstands hholds]
  · obtain ⟨s, hholds, hfuture⟩ := hlive a ha.1 hcountA
    rcases hRmem x.1 hxR with hxb | hcountB
    · have hstands : w.Stands x := .leader ((Subtype.ext hxb : x = b) ▸ hb.1)
      linarith [h.alone a x s hstands hholds]
    all_goals grind

omit h

/-! ## Whole runs -/

omit [DecidableEq Ep] in
lemma start (store : C.Node → ℤ × Option Ep) (t₀ : ℚ) :
    LeaseInv (World.start C store (fun _ => t₀)) := by
  have hnone : ∀ a x s, ¬ (World.start C store (fun _ => t₀)).Holds a x s := by
    rintro a x s (_ | _ | _) <;> simp_all [World.start, boot]
  have hnobody : ∀ a, ¬ (World.start C store (fun _ => t₀)).Stands a := by
    rintro a (_ | _ | _) <;> simp_all [World.start, boot]
  exact {
    clocks := fun _ _ => rfl
    synced := fun _ => boot_synced _ _
    rounds := fun _ => trivial
    own := fun a ha => absurd ha (hnobody a)
    ballot := fun x ep holder _ hh => by simp [World.start, boot] at hh
    sent := fun a x s hx => absurd hx (hnone a x s)
    locked := fun a x s hx => absurd hx (hnone a x s)
    alone := fun a x s hx => absurd hx (hnobody x)
    exclusive := fun a b x s s' _ hx => absurd hx (hnone a x s) }

end LeaseInv

/-- With equal clocks, at most one candidate has a quorum at any point of a run
in which no candidate commits or votes under a running lease of another. -/
theorem quorum_unique_of_guarded (C : Cluster Ep)
    (hcounts : ∀ a x : C.Node, (C.config a).horizon ≤ (C.config x).lease)
    (store : C.Node → ℤ × Option Ep) (t₀ : ℚ) (actions : List (Action C))
    (hrun : Along World.step (fun w act => act.SameClocks ∧ w.Guarded act)
      (World.start C store fun _ => t₀) actions)
    (w : World C) (hw : w = run World.step (World.start C store fun _ => t₀) actions)
    (a b : C.Node) (ha : (w.cand a).hasQuorum (C.config a) (w.clock a))
    (hb : (w.cand b).hasQuorum (C.config b) (w.clock b)) : a = b := by
  have hinv : LeaseInv w := hw ▸ run_invariant World.step
    (fun w act h hadm => h.step hadm.2 hadm.1) actions _ (.start store t₀) hrun
  exact hinv.quorum_unique hcounts ha hb

namespace trio

/-- The theorem at the run that elects candidate 0. -/
theorem quorum_unique_of_firstElection :
    Along World.step (fun w act => act.SameClocks ∧ w.Guarded act) start firstElection ∧
      ((run World.step start firstElection).cand (node 0)).hasQuorum (trio.config (node 0)) 10 =
        true ∧ node 0 = node 0 :=
  ⟨by decide +kernel, by decide +kernel,
    quorum_unique_of_guarded trio (fun a _ => (trio.config a).horizon_le_lease)
      (fun _ => (0, none)) 0 firstElection (by decide +kernel) _ rfl (node 0) (node 0)
      (by decide +kernel) (by decide +kernel)⟩

/-- Candidate 1 campaigns when the lease of candidate 0 has run out and wins the
PREVOTE of candidate 2; candidate 0 then renews with candidate 1, which commits
term 2 all the same and wins the LEASE of candidate 2. -/
def renewedDuringPrevote : List (Action trio) :=
  [.advance fun _ => 8, tick 1, tick 1, tick 1, ask 1 2,
    tick 0, tick 0, tick 0, tick 0, ask 0 1, tick 0,
    tick 1, tick 1, ask 1 2, tick 1]

/-- Two candidates have a quorum at the same instant. -/
theorem two_quorums :
    (run World.step start (firstElection ++ renewedDuringPrevote)).clock = (fun _ => 18) ∧
      ((run World.step start (firstElection ++ renewedDuringPrevote)).cand
        (node 0)).hasQuorum (trio.config (node 0)) 18 ∧
      ((run World.step start (firstElection ++ renewedDuringPrevote)).cand
        (node 1)).hasQuorum (trio.config (node 1)) 18 ∧ node 0 ≠ node 1 := by
  refine ⟨?_, by decide +kernel, by decide +kernel, by decide⟩
  funext x
  decide +revert +kernel

end trio

end HeimdallDaq.Election
