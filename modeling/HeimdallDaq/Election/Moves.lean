/-
  Election/Moves.lean --- what one action of the cluster can do.

  `step_cand` says how an action changes each candidate and `step_phase` how it moves
  each election thread, guards included.
-/
import HeimdallDaq.Election.Cluster

namespace HeimdallDaq.Election

variable {Ep : Type} [DecidableEq Ep] {C : Cluster Ep}

namespace World

open Candidate

/-- The action makes `x` serve `LEASE t ep`. -/
@[local grind]
inductive Asks (w : World C) (x : C.Node) (t : ℤ) : Ep → Action C → Prop
  | lease (ep : Ep) (clusterId : Option String) (disk : ℤ × Option Ep → Bool) :
      Asks w x t ep (.lease x t ep clusterId disk)
  | renewal (a : C.Node) (arrives : Bool) (disk : ℤ × Option Ep → Bool) (sendTime : ℚ)
      (replies : Replies Ep (VoteReply Ep)) (hne : x ≠ a)
      (hphase : w.phase a = .leasing t sendTime replies) :
      Asks w x t a.1 (.deliver a x arrives disk)
  | claim (a : C.Node) (arrives : Bool) (disk : ℤ × Option Ep → Bool) (sendTime : ℚ)
      (replies : Replies Ep (VoteReply Ep)) (hne : x ≠ a)
      (hphase : w.phase a = .claiming t sendTime replies) :
      Asks w x t a.1 (.deliver a x arrives disk)

/-- The action is the section of `_follower_step` that stores the vote of `a` for
itself at `base + 1`: the PREVOTE round was won and the save succeeds. -/
def Commits (w : World C) (a : C.Node) (base : ℤ) (act : Action C) : Prop :=
  ∃ replies disk, act = .tick a disk ∧ w.phase a = .prevoting base replies ∧
    ((w.cand a).prevoteWon (C.config a) (w.clock a) disk base replies).2 ∧
    disk (base + 1, some a.1)

/-- What an action does to the candidate `x`. -/
inductive Change (w : World C) (act : Action C) (x : C.Node) (c' : Candidate Ep) : Prop
  | follows (h : (w.cand x).Follows c')
  | grants (t : ℤ) (ep : Ep) (hask : w.Asks x t ep act)
      (h : (w.cand x).Grants (C.config x) (w.clock x) c' t ep)
  | renews (t : ℤ) (sendTime : ℚ) (replies : Replies Ep (VoteReply Ep))
      (hphase : w.phase x = .leasing t sendTime replies)
      (h : (w.cand x).Renews (C.config x) c' t sendTime replies)
  | claims (base : ℤ) (hcommit : w.Commits x base act)
      (h : (w.cand x).Claims (C.config x) c' base)
  | leads (t : ℤ) (sendTime : ℚ) (replies : Replies Ep (VoteReply Ep))
      (hphase : w.phase x = .claiming t sendTime replies)
      (h : (w.cand x).Leads (C.config x) c' t sendTime replies)
  | reboot (hidle : (w.step act).phase x = .idle)
      (h : c' = .boot (w.cand x).store (w.clock x))

lemma Change.refl (w : World C) (act : Action C) (x : C.Node) : w.Change act x (w.cand x) :=
  .follows (.inl (.refl _))

lemma tick_change (w : World C) (a : C.Node) (disk : ℤ × Option Ep → Bool) :
    w.Change (.tick a disk) a
      ((w.cand a).tickStep (C.config a) (w.clock a) disk (w.phase a)).1 := by
  cases hphase : w.phase a with
  | idle => exact .refl w _ a
  | polling replies => exact .follows (pollSection_follows _ _ disk _ replies)
  | decided role =>
    cases role with
    | leader => exact .follows (.inl (leaderOpen_retains _ _ _))
    | follower => exact .follows (.inl (followerOpen_retains _ _ _))
  | renewing t => exact .refl w _ a
  | leasing t sendTime replies =>
    rcases leaderClose_cases (C.config a) (w.clock a) disk (w.cand a) t sendTime replies with h | h
    · exact .follows h
    · exact .renews t sendTime replies hphase h
  | prevoting base replies =>
    rcases prevoteClose_cases (C.config a) (w.clock a) disk (w.cand a) base replies with h | h
    · exact .follows h.1
    · obtain ⟨h, -, hwon, hdisk⟩ := h
      exact .claims base ⟨replies, disk, rfl, hphase, hwon, hdisk⟩ h
  | claimed t => exact .refl w _ a
  | claiming t sendTime replies =>
    rcases claimClose_cases (C.config a) (w.clock a) disk (w.cand a) t sendTime replies with h | h
    · exact .follows h
    · exact .leads t sendTime replies hphase h

variable (cfg : ElectionConfig Ep) (now : ℚ)

lemma handleLease_cases (clusterId : Option String)
    (disk : ℤ × Option Ep → Bool) (t : ℤ) (ep : Ep) (c : Candidate Ep) :
    c.Grants cfg now (c.handleLease cfg now clusterId disk t ep).1 t ep ∨
      (c.Follows (c.handleLease cfg now clusterId disk t ep).1 ∧
        ∀ r, (c.handleLease cfg now clusterId disk t ep).2.toOption = some r →
          r.granted = false) := by
  have hsection := leaseSection_cases cfg now disk c t ep
  unfold handleLease inCluster
  grind [Except.toOption, Retains.refl]

lemma handleLeader_fst (clusterId : Option String)
    (c : Candidate Ep) : (c.handleLeader cfg now clusterId).1 = c := by
  grind [handleLeader, inCluster]

lemma handlePrevote_fst (clusterId : Option String)
    (t : ℤ) (ep : Ep) (c : Candidate Ep) :
    (c.handlePrevote cfg now clusterId t ep).1 = c := by grind [handlePrevote, inCluster]

lemma serve_change (w : World C) (a x : C.Node) (arrives : Bool)
    (disk : ℤ × Option Ep → Bool) (hne : x ≠ a) :
    w.Change (.deliver a x arrives disk) x (w.serve a x disk).1 := by
  unfold serve
  cases hphase : w.phase a with
  | polling replies =>
    simp only [handleLeader_fst]
    exact .refl w _ x
  | prevoting base replies =>
    simp only [handlePrevote_fst]
    exact .refl w _ x
  | leasing t sendTime replies =>
    rcases handleLease_cases (C.config x) (w.clock x) (C.config a).suffix disk t a.1 (w.cand x)
      with h | h
    · exact .grants t a.1 (.renewal a arrives disk sendTime replies hne hphase) h
    · exact .follows h.1
  | claiming t sendTime replies =>
    rcases handleLease_cases (C.config x) (w.clock x) (C.config a).suffix disk t a.1 (w.cand x)
      with h | h
    · exact .grants t a.1 (.claim a arrives disk sendTime replies hne hphase) h
    · exact .follows h.1
  | idle => exact .refl w _ x
  | decided role => exact .refl w _ x
  | renewing t => exact .refl w _ x
  | claimed t => exact .refl w _ x

variable {w : World C} {act : Action C}

lemma update_change {y : C.Node} {c' : Candidate Ep}
    (h : w.Change act y c') (x : C.Node) :
    w.Change act x (Function.update w.cand y c' x) := by grind [Change.refl]

lemma step_cand (w : World C) (act : Action C) (x : C.Node) :
    w.Change act x ((w.step act).cand x) := by
  cases act with
  | tick a disk => exact update_change (tick_change w a disk) x
  | deliver a y arrives disk =>
    simp only [step]
    split
    · exact .refl w _ x
    · rename_i hne
      exact update_change (serve_change w a y arrives disk hne) x
  | leader y clusterId =>
    refine update_change (y := y) ?_ x
    rw [handleLeader_fst]
    exact .refl w _ y
  | prevote y t ep clusterId =>
    refine update_change (y := y) ?_ x
    rw [handlePrevote_fst]
    exact .refl w _ y
  | lease y t ep clusterId disk =>
    refine update_change (y := y) ?_ x
    rcases handleLease_cases (C.config y) (w.clock y) clusterId disk t ep (w.cand y) with h | h
    · exact .grants t ep (.lease ep clusterId disk) h
    · exact .follows h.1
  | observe y t bounded disk =>
    exact update_change (.follows (observeTerm_follows _ _ disk _ t bounded)) x
  | restart y => exact update_change (.reboot (by simp [step]) rfl) x
  | advance elapsed => exact .refl w _ x

/-! ## Election threads -/

/-- The reply of `x` to `LEASE t ep` of an action: a granting one means that the
action made `x` grant. -/
@[local grind]
def Answers (w : World C) (act : Action C) (x : C.Node) (t : ℤ) (ep : Ep)
    (reply : Option (VoteReply Ep)) : Prop :=
  ∀ r, reply = some r → r.granted → w.Asks x t ep act ∧
    (w.cand x).Grants (C.config x) (w.clock x) ((w.step act).cand x) t ep

lemma granted_update {a x y : C.Node} {t : ℤ}
    {replies : Replies Ep (VoteReply Ep)} {reply : Option (VoteReply Ep)}
    (hans : w.Answers act y t a.1 reply)
    (hgranted : grantedBy (Function.update replies y.1 reply) x.1) :
    grantedBy replies x.1 ∨ w.Asks x t a.1 act ∧
      (w.cand x).Grants (C.config x) (w.clock x) ((w.step act).cand x) t a.1 := by
  grind [Candidate.grantedBy]

/-- Where an action leaves the election thread of `a`. -/
@[local grind]
inductive Moves (w : World C) (act : Action C) (a : C.Node) : Phase Ep → Prop
  | same : Moves w act a (w.phase a)
  | idle : Moves w act a .idle
  | polling (replies : Replies Ep (LeaderReply Ep)) : Moves w act a (.polling replies)
  | decided (role : Role) : Moves w act a (.decided role)
  | renewing : Moves w act a (.renewing (w.cand a).term)
  | campaigns (hsettled : (w.cand a).settling (C.config a) (w.clock a) = false) :
      Moves w act a (.prevoting (w.cand a).term noReplies)
  | prevoted (base : ℤ) (replies replies' : Replies Ep (VoteReply Ep))
      (hphase : w.phase a = .prevoting base replies) : Moves w act a (.prevoting base replies')
  | claims (base : ℤ) (hcommit : w.Commits a base act)
      (h : (w.cand a).Claims (C.config a) ((w.step act).cand a) base) :
      Moves w act a (.claimed (base + 1))
  | sendsRenewal (t : ℤ) (hphase : w.phase a = .renewing t) :
      Moves w act a (.leasing t (w.clock a) noReplies)
  | sendsClaim (t : ℤ) (hphase : w.phase a = .claimed t) :
      Moves w act a (.claiming t (w.clock a) noReplies)
  | renewed (t : ℤ) (sendTime : ℚ) (replies : Replies Ep (VoteReply Ep)) (x : C.Node)
      (reply : Option (VoteReply Ep)) (hne : x ≠ a)
      (hphase : w.phase a = .leasing t sendTime replies) (h : w.Answers act x t a.1 reply) :
      Moves w act a (.leasing t sendTime (Function.update replies x.1 reply))
  | answered (t : ℤ) (sendTime : ℚ) (replies : Replies Ep (VoteReply Ep)) (x : C.Node)
      (reply : Option (VoteReply Ep)) (hne : x ≠ a)
      (hphase : w.phase a = .claiming t sendTime replies) (h : w.Answers act x t a.1 reply) :
      Moves w act a (.claiming t sendTime (Function.update replies x.1 reply))

lemma tick_moves (w : World C) (a : C.Node) (disk : ℤ × Option Ep → Bool) :
    w.Moves (.tick a disk) a ((w.cand a).tickStep (C.config a) (w.clock a) disk (w.phase a)).2 := by
  have hself : (C.config a).selfEndpoint = a.1 := rfl
  have hcand : (w.step (.tick a disk)).cand a =
      ((w.cand a).tickStep (C.config a) (w.clock a) disk (w.phase a)).1 := by
    simp [step]
  cases hphase : w.phase a with
  | decided role => cases role <;> grind [tickStep, leaderOpen_phase, followerOpen_phase]
  | _ => grind [tickStep, prevoteClose_cases, Commits]

lemma handleLease_answers (w : World C) (act : Action C) (x : C.Node)
    (clusterId : Option String) (disk : ℤ × Option Ep → Bool) (t : ℤ) (ep : Ep)
    (hask : w.Asks x t ep act) (hcand : (w.step act).cand x =
      ((w.cand x).handleLease (C.config x) (w.clock x) clusterId disk t ep).1) :
    w.Answers act x t ep
      ((w.cand x).handleLease (C.config x) (w.clock x) clusterId disk t ep).2.toOption := by
  grind [handleLease_cases]

lemma serve_moves (w : World C) (a x : C.Node) (disk : ℤ × Option Ep → Bool) (hne : x ≠ a) :
    w.Moves (.deliver a x true disk) a (w.serve a x disk).2 := by
  have hcand : (w.step (.deliver a x true disk)).cand x = (w.serve a x disk).1 := by
    simp [step, hne]
  grind [serve, handleLease_answers]

lemma update_moves {y : C.Node} {p : Phase Ep}
    (h : w.Moves act y p) (a : C.Node) : w.Moves act a (Function.update w.phase y p a) := by grind

lemma step_phase (w : World C) (act : Action C) (a : C.Node) :
    w.Moves act a ((w.step act).phase a) := by
  cases act with
  | tick b disk => exact update_moves (tick_moves w b disk) a
  | deliver b x arrives disk =>
    by_cases hne : x = b
    · simpa [step, hne] using Moves.same
    · cases arrives with
      | false => simpa [step, hne] using Moves.same
      | true => simpa [step, hne] using update_moves (serve_moves w b x disk hne) a
  | restart x => exact update_moves .idle a
  | _ => exact .same

lemma clock_le_step (w : World C) (act : Action C) (x : C.Node) :
    w.clock x ≤ (w.step act).clock x := by
  cases act with
  | deliver a y arrives disk =>
    simp only [step]
    split <;> exact le_refl _
  | advance elapsed => exact le_add_of_nonneg_right (elapsed x).2
  | _ => exact le_refl _

end World

end HeimdallDaq.Election
