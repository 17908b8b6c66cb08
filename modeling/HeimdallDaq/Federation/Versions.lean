/-
  Federation/Versions.lean --- what one move does to versions, rounds and votes.

  A coordinator changes the version it holds in two ways only: a request commits the
  next one, or a document that was already under way and is newer replaces it.
-/
import HeimdallDaq.Federation.Replication

namespace HeimdallDaq.Federation

open Election HeimdallDaq.Foundation

variable {Ep : Type} [DecidableEq Ep] {C : Cluster Ep} {Doc : Type}

namespace Fed

@[local grind]
def Travels (w : Fed C Doc) (d : Held Doc) : Prop :=
  (∃ k, w.held k = d) ∨ (∃ r ∈ w.rounds, r.doc = d) ∨ ∃ x, w.repair x = .answered d

variable (static : C.Node → List Member)

/-- The move is the section of a request of `x` that commits `content`; `term` is the
term of its gate. -/
@[local grind]
def Commits (w : Fed C Doc) (m : Move C Doc) (x : C.Node)
    (term : ℤ) (content : Content Doc) : Prop :=
  ∃ i registered r, m = .lock x i registered ∧ (w.requests x)[i]? = some r ∧ r.term = term ∧
    r.next (static x) registered (w.held x) = .commits content

/-- The move is a section of `k` that compares the version it holds with `d`. -/
@[local grind]
inductive Offers (w : Fed C Doc) (k : C.Node) (d : Held Doc) : Move C Doc → Prop
  | sync (round : ℕ) (arrives : Bool) (r : Round C.Node Ep Doc)
      (hround : w.rounds[round]? = some r) (hdoc : r.doc = d) : Offers w k d (.store k round arrives)
  | pull (hrepair : w.repair k = .answered d) : Offers w k d (.install k)

/-- What a move does to the version of `k`. -/
@[local grind]
inductive HeldChange (static : C.Node → List Member) (w : Fed C Doc) (m : Move C Doc)
    (k : C.Node) : Held Doc → Prop where
  | same : HeldChange static w m k (w.held k)
  | commits (term : ℤ) (content : Content Doc) (h : w.Commits static m k term content) :
      HeldChange static w m k (w.nextVersion k content)
  | stores (d : Held Doc) (hoffer : w.Offers k d m) (hnewer : (w.held k).pair < d.pair) :
      HeldChange static w m k d

/-- A commit that finds the leadership of its gate: the coordinator still leads
`req.term`, and the version it holds is not of a later term. -/
def Timely (w : Fed C Doc) : Move C Doc → Prop
  | .lock x i registered =>
    ∀ r ∈ (w.requests x)[i]?, (r.next (static x) registered (w.held x)).isCommit →
      (w.election.cand x).role = .leader ∧ (w.election.cand x).term = r.term ∧
        (w.held x).term ≤ r.term
  | _ => True

instance decidableTimely (static : C.Node → List Member) (w : Fed C Doc) :
    ∀ m, Decidable (w.Timely static m)
  | .lock x i _ => inferInstanceAs (Decidable (∀ r ∈ (w.requests x)[i]?, _ → _))
  | .elect _ | .request .. | .push .. | .receive .. | .store .. | .reply .. | .ask .. | .answer _
  | .install _ => inferInstanceAs (Decidable True)

@[local grind]
def Elects (m : Move C Doc) (act : Election.Action C) : Prop :=
  m = .elect act ∨ ∃ k round arrives disk t,
    m = .receive k round arrives disk ∧ act = .observe k t true disk

@[local grind]
def RoundChange (w w' : Fed C Doc) (r' : Round C.Node Ep Doc) : Prop :=
  (∃ r ∈ w.rounds, r'.sender = r.sender ∧ r'.doc = r.doc ∧
    ∀ k : C.Node, r'.counted k.1 → r.counted k.1 ∨ (w'.held k).pair = r.doc.pair) ∨
  (r'.doc = w.held r'.sender ∧ ∀ ep, r'.counted ep = false)

@[local grind]
def Replicated (r : Round C.Node Ep Doc) : Prop :=
  (C.config r.sender).IsMajority (1 + ((C.config r.sender).others.filter r.counted).length)

/-- Everything one move can do to versions, rounds and votes. -/
@[local grind]
structure Effect (static : C.Node → List Member) (w : Fed C Doc) (m : Move C Doc)
    (w' : Fed C Doc) : Prop where
  election : w'.election = w.election ∨ ∃ act, w'.election = w.election.step act ∧ Elects m act
  held : ∀ k, HeldChange static w m k (w'.held k)
  rounds : ∀ r' ∈ w'.rounds, RoundChange w w' r'
  repair : ∀ x d, w'.repair x = .answered d → w.repair x = .answered d ∨ ∃ y, w.held y = d
  kept : ∀ p ∈ w.acked, p ∈ w'.acked
  acked : ∀ p ∈ w'.acked, p ∈ w.acked ∨ ∃ r ∈ w.rounds, r.doc.pair = p ∧
    ((C.settings r.sender.1).requireQuorum → Replicated r)

/-! ## Parts of a move -/

section Parts

variable {static : C.Node → List Member} {w w' : Fed C Doc} {m : Move C Doc}

variable {r : Round C.Node Ep Doc}

omit [DecidableEq Ep] in
lemma RoundChange.same (h : r ∈ w.rounds) : RoundChange w w' r :=
  Or.inl ⟨r, h, rfl, rfl, fun _ hk => .inl hk⟩

lemma Effect.rest (he : w'.election = w.election) (hh : w'.held = w.held)
    (hr : w'.rounds = w.rounds) (hp : w'.repair = w.repair) (ha : w'.acked = w.acked) :
    Effect static w m w' where
  election := .inl he
  held := fun _ => hh ▸ .same
  rounds := fun _ hmem => .same (hr ▸ hmem)
  repair := fun _ _ hd => .inl (hp ▸ hd)
  kept := fun _ hmem => ha ▸ hmem
  acked := fun _ hmem => .inl (ha ▸ hmem)

lemma Effect.id : Effect static w m w := .rest rfl rfl rfl rfl rfl

lemma Effect.elects (act : Election.Action C) (he : w'.election = w.election.step act)
    (hact : Elects m act) (hh : w'.held = w.held)
    (hr : ∀ r' ∈ w'.rounds, RoundChange w w' r')
    (hp : ∀ x d, w'.repair x = .answered d → w.repair x = .answered d)
    (ha : w'.acked = w.acked) : Effect static w m w' where
  election := .inr ⟨act, he, hact⟩
  held := fun _ => hh ▸ .same
  rounds := hr
  repair := fun x d hd => .inl (hp x d hd)
  kept := fun _ hmem => ha ▸ hmem
  acked := fun _ hmem => .inl (ha ▸ hmem)

lemma Effect.changes {x : C.Node} {h : Held Doc} (hx : HeldChange static w m x h)
    (he : w'.election = w.election) (hh : w'.held = Function.update w.held x h)
    (hr : w'.rounds = w.rounds) (hp : ∀ x d, w'.repair x = .answered d → w.repair x = .answered d)
    (ha : w'.acked = w.acked) : Effect static w m w' where
  election := .inl he
  held := by
    intro k
    rw [hh]
    by_cases hk : k = x
    · subst hk
      simpa using hx
    · rw [Function.update_of_ne hk]
      exact .same
  rounds := fun _ hmem => .same (hr ▸ hmem)
  repair := fun y d hd => .inl (hp y d hd)
  kept := fun _ hmem => ha ▸ hmem
  acked := fun _ hmem => .inl (ha ▸ hmem)

lemma mem_modify {α : Type} {f : α → α} {l : List α} {i : ℕ} {y : α} (h : y ∈ l.modify i f) :
    y ∈ l ∨ ∃ x, l[i]? = some x ∧ y = f x := by
  obtain ⟨j, hj⟩ := List.mem_iff_getElem?.mp h
  rw [List.getElem?_modify] at hj
  obtain ⟨x, hx, rfl⟩ := Option.map_eq_some_iff.mp hj
  by_cases hij : i = j
  · subst hij
    exact .inr ⟨x, hx, by simp⟩
  · exact .inl (by simpa [hij] using List.mem_of_getElem? hx)

variable {k : C.Node}

lemma Effect.counts (h : Effect static w m w') {round : ℕ}
    (hround : w.rounds[round]? = some r) (hr : w'.rounds = w.rounds)
    (hpair : (w'.held k).pair = r.doc.pair) : Effect static w m (w'.count k round) where
  election := h.election
  held := h.held
  rounds := by
    intro r' hmem
    rcases mem_modify hmem with hold | ⟨r₀, hr₀, rfl⟩
    · exact .same (hr ▸ hold)
    · obtain rfl : r₀ = r := by
        rw [hr, hround] at hr₀
        exact (Option.some.inj hr₀).symm
      refine .inl ⟨r₀, List.mem_of_getElem? hround, rfl, rfl, ?_⟩
      intro y hy
      by_cases hyk : y = k
      · subst hyk
        exact .inr hpair
      · have hne : y.1 ≠ k.1 := fun heq => hyk (Subtype.ext heq)
        exact .inl (by simpa [Function.update_of_ne hne] using hy)
  repair := h.repair
  kept := h.kept
  acked := h.acked

lemma Effect.answersSync (h : Effect static w m w') {round : ℕ}
    (hround : w.rounds[round]? = some r) (hr : w'.rounds = w.rounds)
    {stored arrives : Bool} (hstored : stored → w'.held k = r.doc) :
    Effect static w m (w'.answerSync k round r.doc stored arrives) := by
  grind [answerSync, Effect.counts]

lemma effect_storeDoc {d : Held Doc} (hoffer : w.Offers k d m)
    (admitted : List (C.Node × ℕ)) :
    Effect static w m { w.storeDoc k d with admitted := admitted } := by
  unfold storeDoc
  split
  · rename_i hnewer
    exact .changes (.stores d hoffer hnewer) rfl rfl rfl (fun _ _ h => h) rfl
  · exact .rest rfl rfl rfl rfl rfl

end Parts

/-! ## One move -/

section Moves

variable (static : C.Node → List Member) (w : Fed C Doc)

lemma effect_elect (act : Election.Action C) : Effect static w (.elect act) (w.elect act) := by
  cases act with
  | restart x =>
    refine .elects _ rfl (.inl rfl) rfl ?_ ?_ rfl
    · intro r' hmem
      obtain ⟨r, hr, rfl⟩ := List.mem_map.mp hmem
      refine .inl ⟨r, hr, ?_⟩
      split <;> exact ⟨rfl, rfl, fun _ hk => .inl hk⟩
    · intro y d hd
      by_cases hy : y = x
      · subst hy
        simp [elect, crash] at hd
      · simpa [elect, crash, Function.update_of_ne hy] using hd
  | _ => exact .elects _ rfl (.inl rfl) rfl (fun r h => .same h) (fun _ _ h => h) rfl

variable (x : C.Node)

lemma effect_lock (i : ℕ) (registered : Bool) :
    Effect static w (.lock x i registered) (w.lock static x i registered) := by
  unfold lock
  split
  · exact .id
  · rename_i r hr
    split
    · exact .rest rfl rfl rfl rfl rfl
    · exact .rest rfl rfl rfl rfl rfl
    · exact .rest rfl rfl rfl rfl rfl
    · exact .rest rfl rfl rfl rfl rfl
    · rename_i content hnext
      exact .changes (.commits r.term content ⟨i, registered, r, rfl, hr, rfl, hnext⟩)
        rfl rfl rfl (fun _ _ h => h) rfl
    · exact .id

lemma effect_push (i : ℕ) : Effect static w (.push x i) (w.push x i) := by
  unfold push
  split
  · have hid : Effect static w (.push x i) w := .id
    refine { hid with rounds := ?_ }
    grind
  · exact .id

lemma effect_receive (k : C.Node) (round : ℕ) (arrives : Bool) (disk : ℤ × Option Ep → Bool) :
    Effect static w (.receive k round arrives disk) (w.receive k round arrives disk) := by
  unfold receive
  split
  · exact .id
  · rename_i r hround
    dsimp only
    split_ifs with hself hlead hknown hterm hbehind
    · exact .id
    · exact Effect.id.answersSync hround rfl (by simp)
    · exact .id
    · exact .elects _ rfl (.inr ⟨k, round, arrives, disk, r.doc.term, rfl, rfl⟩) rfl (fun r h => .same h)
        (fun _ _ h => h) rfl
    · exact .elects _ rfl (.inr ⟨k, round, arrives, disk, r.doc.term, rfl, rfl⟩) rfl (fun r h => .same h)
        (fun _ _ h => h) rfl
    · exact .rest rfl rfl rfl rfl rfl

lemma effect_store (k : C.Node) (round : ℕ) (arrives : Bool) :
    Effect static w (.store k round arrives) (w.store k round arrives) := by
  unfold store
  split
  · exact .id
  · rename_i r hround
    split
    · refine (effect_storeDoc (.sync round arrives r hround rfl) _).answersSync hround ?_ ?_
      · unfold storeDoc
        split <;> rfl
      · intro hstored
        simp [storeDoc, of_decide_eq_true hstored, setHeld]
    · exact .id

lemma effect_reply (i : ℕ) : Effect static w (.reply x i) (w.reply x i) := by
  unfold reply
  split
  · rename_i verb term round hrequest
    split
    · rename_i r hround
      have hclosed : ∀ r' ∈ w.rounds.modify round fun r => { r with waiting := false },
          ∃ r ∈ w.rounds, r'.sender = r.sender ∧ r'.doc = r.doc ∧ r'.counted = r.counted := by
        intro r' hmem
        rcases mem_modify hmem with hold | ⟨r₀, hr₀, rfl⟩
        · exact ⟨r', hold, rfl, rfl, rfl⟩
        · exact ⟨r₀, List.mem_of_getElem? hr₀, rfl, rfl, rfl⟩
      have hrounds : ∀ {w' : Fed C Doc},
          ∀ r' ∈ w.rounds.modify round fun r => { r with waiting := false }, RoundChange w w' r' := by
        intro w' r' hmem
        obtain ⟨r₀, hr₀, hsender, hdoc, hcounted⟩ := hclosed r' hmem
        exact .inl ⟨r₀, hr₀, hsender, hdoc, fun k hk => .inl (hcounted ▸ hk)⟩
      dsimp only
      split
      · rename_i hok
        obtain ⟨rfl, -, hmajority⟩ := hok
        refine ⟨.inl rfl, fun k => .same, hrounds, fun _ _ h => .inl h,
          fun p hp => List.mem_cons_of_mem _ hp, ?_⟩
        grind
      · exact ⟨.inl rfl, fun k => .same, hrounds, fun _ _ h => .inl h, fun _ h => h,
          fun _ h => .inl h⟩
    · exact .id
  · exact .id

lemma effect_repair (p : Repair C.Node Doc)
    (hp : ∀ d, p = .answered d → ∃ y, w.held y = d) (m : Move C Doc) :
    Effect static w m { w with repair := Function.update w.repair x p } := by
  have hid : Effect static w m w := .id
  grind

lemma effect_install : Effect static w (.install x) (w.install x) := by
  unfold install
  split
  · rename_i d hrepair
    have hstored : Effect static w (.install x) (w.storeDoc x d) :=
      effect_storeDoc (.pull hrepair) (w.storeDoc x d).admitted
    grind
  · exact .id

lemma effect_request (verb : Mutation Doc) :
    Effect static w (.request x verb) (w.request x verb) := by
  unfold request
  split
  · exact .rest rfl rfl rfl rfl rfl
  · exact .id

lemma effect_ask (x y : C.Node) : Effect static w (.ask x y) (w.ask x y) := by
  unfold ask
  split
  · split
    · exact .id
    · exact effect_repair static w x _ (by simp) _
  · exact .id

lemma effect_answer : Effect static w (.answer x) (w.answer x) := by
  grind [answer, effect_repair, Effect.id]

lemma effect_step (m : Move C Doc) : Effect static w m (w.step static m) := by
  cases m with
  | elect act => exact effect_elect static w act
  | request x verb => exact effect_request static w x verb
  | lock x i registered => exact effect_lock static w x i registered
  | push x i => exact effect_push static w x i
  | receive k round arrives disk => exact effect_receive static w k round arrives disk
  | store k round arrives => exact effect_store static w k round arrives
  | reply x i => exact effect_reply static w x i
  | ask x y => exact effect_ask static w x y
  | answer x => exact effect_answer static w x
  | install x => exact effect_install static w x

end Moves

/-! ## Commits and the order of versions -/

section Order

variable {static : C.Node → List Member} {w w' : Fed C Doc} {m : Move C Doc} {content : Content Doc}

section

omit [DecidableEq Ep]

lemma Commits.timely {x : C.Node} {term : ℤ}
    (h : w.Commits static m x term content) (ht : w.Timely static m) :
    (w.election.cand x).role = .leader ∧ (w.held x).term ≤ (w.election.cand x).term := by
  obtain ⟨i, registered, r, rfl, hr, -, hnext⟩ := h
  obtain ⟨hrole, hterm, hheld⟩ := ht r hr (by rw [hnext]; rfl)
  exact ⟨hrole, hterm ▸ hheld⟩

lemma Commits.unique {x y : C.Node} {t t' : ℤ} {c c' : Content Doc}
    (h : w.Commits static m x t c) (h' : w.Commits static m y t' c') : x = y ∧ c = c' := by grind

lemma pair_lt_nextVersion {x : C.Node} (h : (w.held x).term ≤ (w.election.cand x).term) :
    (w.held x).pair < (w.nextVersion x content).pair := by
  rw [Held.pair, Held.pair, Prod.Lex.toLex_lt_toLex]
  rcases h.lt_or_eq with hlt | heq
  · exact .inl hlt
  · exact .inr ⟨heq, Nat.lt_succ_self _⟩

lemma HeldChange.pair_le {k : C.Node} {h : Held Doc} (hk : HeldChange static w m k h)
    (ht : w.Timely static m) : (w.held k).pair ≤ h.pair := by
  grind [pair_lt_nextVersion, Commits.timely]

end

lemma Effect.held_of_elects (h : Effect static w m w') {act : Election.Action C}
    (hact : Elects m act) (k : C.Node) : w'.held k = w.held k := by grind

lemma Effect.travels (h : Effect static w m w') {d : Held Doc} (hd : w'.Travels d) :
    w.Travels d ∨ ∃ x term content, w.Commits static m x term content ∧
      d = w.nextVersion x content := by
  rcases hd with ⟨k, hk⟩ | ⟨r', hmem, hr⟩ | ⟨x, hx⟩
  · grind
  all_goals grind

lemma Effect.votes (h : Effect static w m w')
    (hquorum : ∀ x ∈ C.candidates, (C.settings x).requireQuorum) {B : Ballots C}
    (hB : VoteInv w.election B) : ∃ B', VoteInv w'.election B' ∧ B.Extends B' := by
  rcases h.election with heq | ⟨act, hact, -⟩
  · exact ⟨B, heq ▸ hB, Ballots.Extends.refl B⟩
  · exact ⟨_, hact ▸ hB.step hquorum act, hB.extends_step act⟩

end Order

end Fed

end HeimdallDaq.Federation
