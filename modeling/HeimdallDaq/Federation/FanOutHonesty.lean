/-
  Federation/FanOutHonesty.lean --- what `applied: false` of a fan-out means.

  A worker publishes a sent phase before it tests the cancel event, and the main thread
  sets the cancel event before it reads a phase.
-/
import HeimdallDaq.Federation.FanOut

namespace HeimdallDaq.Federation

open Foundation Cmd

@[local grind]
def Result.Denies (r : Result) : Prop := r.applied = .no ∧ r.Stopped

@[local grind]
def Result.MayDeny (r : Result) : Prop := (r.applied = .no ∨ r.applied = .absent) ∧ r.Stopped

lemma Result.Denies.mayDeny {r : Result} (h : r.Denies) : r.MayDeny := ⟨.inl h.1, h.2⟩

variable {T : Type}

/-- The worker has sent no mutating frame and will send none: its future is done, or
the cancel event is set and no check has found it clear. -/
@[local grind]
def Clean (t : T) (x : Shared T × Log T) : Prop :=
  t ∉ x.2.sent ∧ ((x.1.future t).done ∨ (x.1.cancel ∧ x.2.cleared t = false))

/-- The invariant of a fan-out. -/
@[local grind]
structure Sound (x : Shared T × Log T) : Prop where
  published : ∀ t, x.2.cleared t ∨ t ∈ x.2.sent → (x.1.phase t).sent = true
  finished : ∀ t r, x.1.future t = .finished r → r.MayDeny → t ∉ x.2.sent
  recorded : ∀ t r, (t, r) ∈ x.2.results → r.Denies → Clean t x

/-! ## What the programs do -/

def Quiet (t : T) : Cmd T → Prop
  | .setPhase u _ | .readPhase u | .peekCancel u => u = t
  | .send _ (.mutation _) => False
  | .send u _ => u = t
  | _ => False

section Programs

variable {t : T} {S : Cmd T → Prop}

lemma only_onSocketError {α : Type} {p timeout reset : Worker T α}
    (hp : Only S p) (ht : Only S timeout) (hr : Only S reset) :
    Only S (onSocketError p timeout reset) := by
  refine hp.catching fun e => ?_
  grind

lemma only_receive : Only S (receive : Worker T Reply) := by
  refine .bind Only.answer fun r => ?_
  cases r <;> trivial

lemma quiet_xack (t : T) : Only (Quiet t) (xack t) := by
  refine .bind (.does rfl) fun _ => ?_
  refine .bind (only_onSocketError (.bind (.does rfl) fun _ =>
    Only.bind only_receive fun _ => .ret _) (.ret _) (.ret _)) fun reply => ?_
  cases reply with
  | error r => trivial
  | ok reply =>
    cases reply with
    | xackOk info => exact .bind Only.answer fun b => .ite (fun _ => trivial) fun _ => trivial
    | _ => trivial

lemma quiet_openSession (t : T) (timed : Bool) : Only (Quiet t) (openSession t timed) := by
  refine .bind (.does rfl) fun _ => ?_
  refine .bind (.reads rfl) fun _ => .ite (fun _ => trivial) fun _ => ?_
  iterate 6 refine .bind Only.answer fun _ => .ite (fun _ => trivial) fun _ => ?_
  refine .bind ?_ fun o => ?_
  · refine .bind Only.answer fun r => ?_
    rcases r with (_ | _ | _) | _ <;> trivial
  · cases o with
    | some msg => trivial
    | none => exact quiet_xack t

lemma quiet_fillWindow (t : T) : ∀ k, Only (Quiet t) (fillWindow t k) := by
  intro k
  induction k with
  | zero => trivial
  | succ k ih =>
    exact .bind (.reads rfl) fun _ => .ite (fun _ => trivial) fun _ =>
      Only.bind (.does rfl) fun _ => ih

lemma quiet_chunkReply : Only (Quiet t) (chunkReply : Worker T (Except Result Unit)) := by
  refine .bind only_receive fun reply => ?_
  cases reply <;> trivial

lemma quiet_chunkLoop (t : T) (total window : ℕ) :
    ∀ left sent, Only (Quiet t) (chunkLoop t total window left sent) := by
  intro left
  induction left with
  | zero => intro sent; trivial
  | succ left ih =>
    intro sent
    refine (quiet_fillWindow t _).bind fun r => ?_
    cases r with
    | error r => trivial
    | ok _ =>
      refine quiet_chunkReply.bind fun r => ?_
      cases r with
      | error r => trivial
      | ok _ => exact ih _

lemma not_mayDeny_mapReply (reply : Reply) (mutating : Bool) :
    ¬(mapReply reply mutating).MayDeny := by
  rintro ⟨-, hstopped⟩
  cases mutating <;> cases reply <;> simp [mapReply, Result.Stopped] at hstopped

lemma not_mayDeny_of_null {r : Result} (h : r.applied = .null) : ¬r.MayDeny := by
  grind

lemma yields_inPhase {r : Result} (h : r.applied = .null) :
    Yields (fun r => ¬r.MayDeny) (inPhase t r) := .after _ fun _ => not_mayDeny_of_null h

lemma yields_exchange (t : T) (v : Verb) (mutating : Bool) :
    Yields (fun r => ¬r.MayDeny) (exchange t v mutating) := by
  refine .catching (.after _ fun _ => .after _ fun reply => ?_) fun e => ?_
  · cases reply with
    | short => exact yields_inPhase rfl
    | _ => exact not_mayDeny_mapReply _ mutating
  · cases e with
    | timeout => exact yields_inPhase rfl
    | osError msg => exact yields_inPhase rfl
    | other msg => trivial

lemma only_exchange (t : T) (v : Verb) (mutating : Bool) :
    Only (fun c => c = .readPhase t ∨ c = .send t (if mutating then .mutation v else .query v))
      (exchange t v mutating) := by
  have hphase : ∀ r : Result, Only (fun c => c = .readPhase t ∨
      c = .send t (if mutating then .mutation v else .query v)) (inPhase t r) := fun r =>
    Only.bind (.reads (.inl rfl)) fun _ => trivial
  refine only_onSocketError ?_ (hphase _) (hphase _)
  refine .bind (.does (.inr rfl)) fun _ => .bind only_receive fun reply => ?_
  cases reply with
  | short => exact hphase _
  | _ => trivial

end Programs

/-! ## What the threads owe each other -/

/-- What a worker owes with a command: it is about its own target, a phase is unsent
only before the first mutating frame, and such a frame follows a check that found the
cancel event clear. -/
def Owns (t : T) : Cmd T → Shared T × Log T → Prop
  | .start u, _ => u = t
  | .readPhase u, _ => u = t
  | .peekCancel u, _ => u = t
  | .finish u r, x => u = t ∧ x.1.future t = .running ∧ (r.MayDeny → t ∉ x.2.sent)
  | .setPhase u p, x => u = t ∧ (p.sent = false → t ∉ x.2.sent)
  | .testCancel u, x => u = t ∧ (x.1.phase t).sent = true
  | .send u (.mutation _), x => u = t ∧ x.1.future t = .running ∧ x.2.cleared t = true
  | .send u _, _ => u = t
  | _, _ => False

def Collects : Cmd T → Shared T × Log T → Prop
  | .wait, _ | .look _, _ | .snapshot _, _ | .setCancel, _ | .cancelFuture _, _ => True
  | .record t r, x => r.Denies → Clean t x
  | _, _ => False

def guarantees : Thread T → Cmd T → Shared T × Log T → Prop
  | .main, c, x => Collects c x
  | .worker t, c, x => Owns t c x
  | .canceller, c, _ => c = .setCancel

@[local grind]
def relies : Thread T → Shared T × Log T → Shared T × Log T → Prop
  | .main, x, y =>
    (Sound x → Sound y) ∧ (∀ t, Clean t x → Clean t y) ∧ (x.1.cancel → y.1.cancel) ∧
      ∀ t, (x.1.future t).done → y.1.future t = x.1.future t
  | .worker t, x, y =>
    y.1.phase t = x.1.phase t ∧ y.2.cleared t = x.2.cleared t ∧ (t ∈ y.2.sent ↔ t ∈ x.2.sent) ∧
      (x.1.future t ≠ .pending → y.1.future t = x.1.future t)
  | .canceller, _, _ => True

variable [DecidableEq T] {c : Cmd T} {th : Thread T} {x : Shared T × Log T} {t : T}

lemma done_apply (hg : guarantees th c x)
    (hdone : (x.1.future t).done) : ((watch.step c x).1).future t = x.1.future t := by
  cases th <;> cases c <;>
    simp [guarantees, Owns, Collects, watch, Watch.step, apply, apply_ite Shared.future,
      ite_apply, Function.update_apply] at hg ⊢ <;> grind [Future.done]

lemma Clean.step (h : Clean t x) (hg : guarantees th c x) : Clean t (watch.step c x) := by
  obtain ⟨hsent, hstop⟩ := h
  have hdone := done_apply hg (t := t)
  cases c with
  | send u f =>
    cases f <;> cases th <;> simp [guarantees, Owns, Collects, Clean, watch, Watch.step, apply, obs] at * <;> grind [Future.done]
  | _ =>
    simp [Clean, watch, Watch.step, apply, obs, Function.update_apply] at * <;> grind

lemma Sound.step (h : Sound x) (hg : guarantees th c x) : Sound (watch.step c x) := by
  have hclean : ∀ t, Clean t x → Clean t (watch.step c x) := fun t ht => ht.step hg
  obtain ⟨hpublished, hfinished, hrecorded⟩ := h
  cases c with
  | send u f =>
    cases f <;> cases th <;> simp [guarantees, Owns, Collects] at hg <;> constructor <;>
      simp [watch, Watch.step, apply, obs] at hclean ⊢ <;> grind
  | _ =>
    cases th <;> simp [guarantees, Owns, Collects] at hg <;> constructor <;>
      simp [watch, Watch.step, apply, obs, apply_ite Shared.future,
        apply_ite Shared.phase, ite_apply, Function.update_apply] at hclean ⊢ <;> grind

lemma worker_rely
    (hne : th ≠ .worker t) (hg : guarantees th c x) : relies (.worker t) x (watch.step c x) := by
  cases c with
  | send u f =>
    cases f <;> cases th <;> simp [guarantees, relies, Owns, Collects, watch, Watch.step, apply, obs] at * <;> grind
  | _ =>
    cases th <;> simp [guarantees, relies, Owns, Collects, watch, Watch.step, apply, obs,
      apply_ite Shared.future, apply_ite Shared.phase, ite_apply, Function.update_apply] at * <;> grind

lemma cancel_apply (c : Cmd T) {s : Shared T} (h : s.cancel) : (c.apply s).cancel := by
  cases c <;> grind [apply]

@[local grind]
def team : Team (Thread T) (Shared T) (Cmd T) (Log T) where
  toWatch := watch
  admits := fun _ _ _ => True
  rely := relies
  guar := guarantees
  rely_refl := by
    intro th x
    cases th with
    | main => exact ⟨id, fun _ h => h, id, fun _ _ => rfl⟩
    | worker t => exact ⟨rfl, rfl, Iff.rfl, fun _ => rfl⟩
    | canceller => trivial
  rely_trans := by
    intro th x y z hxy hyz
    cases th with
    | main =>
      obtain ⟨hs, hc, he, hd⟩ := hxy
      obtain ⟨hs', hc', he', hd'⟩ := hyz
      refine ⟨hs' ∘ hs, fun t h => hc' t (hc t h), he' ∘ he, fun t ht => ?_⟩
      have hty := hd t ht
      rw [← hty] at ht ⊢
      exact hd' t ht
    | worker t =>
      obtain ⟨hp, hc, hs, hf⟩ := hxy
      obtain ⟨hp', hc', hs', hf'⟩ := hyz
      refine ⟨hp'.trans hp, hc'.trans hc, hs'.trans hs, fun ht => ?_⟩
      have hty := hf ht
      rw [← hty] at ht ⊢
      exact hf' ht
    | canceller => trivial
  rely_of_guar := by
    intro th u c x hne _ hg
    cases u with
    | main => exact ⟨fun h => h.step hg, fun t h => h.step hg, cancel_apply c, fun t => done_apply hg⟩
    | worker t => exact worker_rely hne hg
    | canceller => trivial

/-! ## Workers -/

/-- A worker that runs, with what is known of its phase, of its last check and of
whether it has sent. -/
@[local grind]
def Local (t : T) (Q : Phase → Bool → Prop → Prop) (x : Shared T × Log T) : Prop :=
  x.1.future t = .running ∧ Q (x.1.phase t) (x.2.cleared t) (t ∈ x.2.sent)

@[local grind]
def Kept (D : Prop) (p : Phase) (_ : Bool) (sent : Prop) : Prop := (sent → p.sent) ∧ (D → ¬sent)

abbrev workerCtx (t : T) : Context (Shared T) (Cmd T) (Log T) := team.ctx (.worker t)

@[local grind]
def Unsent (_ : Phase) (_ : Bool) (sent : Prop) : Prop := ¬sent

@[local grind]
def Passed (D : Prop) (p : Phase) (cleared : Bool) (sent : Prop) : Prop :=
  p.sent ∧ cleared ∧ (D → ¬sent)

section Locals

variable {Q Q' : Phase → Bool → Prop → Prop} {D : Prop}
  {E : Exc → Shared T × Log T → Prop}

lemma local_stable (t : T) (Q : Phase → Bool → Prop → Prop) : (workerCtx t).Stable (Local t Q) := by
  rintro x y ⟨hrun, hq⟩ ⟨hp, hc, hs, hf⟩
  grind

omit [DecidableEq T] in
lemma Local.mono (h : ∀ p c s, Q p c s → Q' p c s) (hx : Local t Q x) : Local t Q' x :=
  ⟨hx.1, h _ _ _ hx.2⟩

omit [DecidableEq T] in
lemma Local.kept (hx : Local t Unsent x) : Local t (Kept D) x :=
  hx.mono fun _ _ _ hs => ⟨fun h => absurd h hs, fun _ => hs⟩

lemma triple_setPhase {p : Phase} (Q' : Phase → Bool → Prop → Prop)
    (h : ∀ p' c s, Q p' c s → (p.sent = false → ¬s) ∧ Q' p false s) :
    Triple (ι := Answer) (workerCtx t) (Local t Q) (.does (.setPhase t p))
      (fun _ => Local t Q') E := by
  refine .does (local_stable t Q) fun y hy _ => ?_
  obtain ⟨hunsent, hq⟩ := h _ _ _ hy.2
  refine ⟨⟨rfl, hunsent⟩, hy.1, ?_⟩
  simpa [team, Team.ctx, watch, Watch.step, apply, obs] using hq

lemma triple_readPhase :
    Triple (ι := Answer) (workerCtx t) (Local t Q) (.reads (.readPhase t) (·.phase t))
      (fun p => Local t fun p' c s => p' = p ∧ Q p' c s) E :=
  Triple.reads (local_stable t Q) fun _ hy _ => ⟨rfl, hy.1, rfl, hy.2⟩

lemma triple_testCancel {P : Bool → Phase → Bool → Prop → Prop}
    (h : ∀ p c s, Q p c s → p.sent ∧ ∀ b, P b p (!b) s) :
    Triple (ι := Answer) (workerCtx t) (Local t Q) (.reads (.testCancel t) (·.cancel))
      (fun b => Local t (P b)) E := by
  refine .reads (local_stable t Q) fun y hy _ => ?_
  obtain ⟨hphase, hq⟩ := h _ _ _ hy.2
  refine ⟨⟨rfl, hphase⟩, hy.1, ?_⟩
  simpa [team, Team.ctx, watch, Watch.step, apply, obs] using hq y.1.cancel

variable {α : Type}

lemma triple_answer {P : Shared T × Log T → Prop} {f : Answer → α} :
    Triple (workerCtx t) P (Prog.answer f : Worker T α) (fun _ => P) E := fun _ hx _ => hx

variable {p : Worker T α}

lemma keeps_unsent (hp : Only (Quiet t) p) : Keeps (workerCtx t) (Local t Unsent) p := by
  refine .of_only (local_stable t Unsent) (fun c hc y hy _ => ?_) hp
  obtain ⟨hrun, hunsent⟩ := hy
  cases c with
  | setPhase u p => exact ⟨⟨hc, fun _ => hunsent⟩, hrun, hunsent⟩
  | send u f =>
    cases f with
    | mutation v => exact hc.elim
    | _ => exact ⟨hc, hrun, hunsent⟩
  | readPhase u => exact ⟨hc, hrun, hunsent⟩
  | peekCancel u => exact ⟨hc, hrun, hunsent⟩
  | _ => exact hc.elim

/-! ### The session -/

variable {r : Result}

lemma appliedForPhase_mayDeny {p : Phase} (happ : r.applied = appliedForPhase p)
    (hd : r.MayDeny) : p.sent = false := by grind [appliedForPhase]

variable {timed : Bool}

/-- The guards pass only if the cancel event was found clear, and a result of theirs
denies only what the old phase denies. -/
lemma triple_sendGuards {old : Phase} : Triple (workerCtx t)
      (Local t fun p _ s => p.sent = true ∧ (s → old.sent = true) ∧ (D → ¬s)) (sendGuards t timed old)
      (fun o => Local t fun p c s => (p.sent = true ∧ (s → old.sent = true) ∧ (D → ¬s)) ∧
        match o with
        | none => c = true
        | some r => r.applied = appliedForPhase old) E := by
  refine .bind triple_answer fun valid => ?_
  refine .ite (fun _ => .ret fun x hx => hx.mono fun _ _ _ hq => ⟨hq, rfl⟩) fun _ => ?_
  refine .bind (triple_testCancel
    (P := fun b p c s => (p.sent = true ∧ (s → old.sent = true) ∧ (D → ¬s)) ∧ (c = !b))
    fun p c s hq => ⟨hq.1, fun b => ⟨hq, rfl⟩⟩) fun b => ?_
  refine .ite (fun _ => .ret fun x hx => hx.mono fun _ _ _ hq => ⟨hq.1, rfl⟩) fun hb => ?_
  refine .bind triple_answer fun enough => ?_
  refine .ite (fun _ => .ret fun x hx => hx.mono fun _ _ _ hq => ⟨hq.1, rfl⟩) fun _ => ?_
  refine .ret fun x hx => hx.mono fun _ _ _ hq => ⟨hq.1, ?_⟩
  simpa [hb] using hq.2

lemma triple_checkBeforeSend {next : Phase} (hnext : next.sent) :
    Triple (workerCtx t) (Local t (Kept D)) (checkBeforeSend t timed next)
      (fun o =>
        match o with
        | none => Local t (Passed D)
        | some r => Local t (Kept (D ∨ r.MayDeny))) E := by
  rw [checkBeforeSend, if_pos hnext]
  refine .bind triple_readPhase fun old => ?_
  refine .bind (triple_setPhase
    (fun p _ s => p.sent = true ∧ (s → old.sent = true) ∧ (D → ¬s)) ?_) fun _ => ?_
  · grind
  · refine .bind triple_sendGuards fun o => ?_
    cases o with
    | none => exact .ret fun x hx => hx.mono fun p c s hq => ⟨hq.1.1, hq.2, hq.1.2.2⟩
    | some r =>
      refine .bind (triple_setPhase (Kept (D ∨ r.MayDeny)) ?_) fun _ =>
        Triple.ret fun _ hx => hx
      grind [appliedForPhase_mayDeny]

variable {v : Verb}

lemma keeps_passed {mutating : Bool} (hmut : mutating → ¬D)
    (hp : Only (fun c => c = .readPhase t ∨
      c = .send t (if mutating then .mutation v else .query v)) p) :
    Keeps (workerCtx t) (Local t (Passed D)) p := by
  refine .of_only (local_stable t _) (fun c hc y hy _ => ?_) hp
  obtain ⟨hrun, hphase, hcleared, hD⟩ := hy
  rcases hc with rfl | rfl
  · exact ⟨rfl, hrun, hphase, hcleared, hD⟩
  · cases mutating with
    | false => exact ⟨rfl, hrun, hphase, hcleared, hD⟩
    | true => exact ⟨⟨rfl, hrun, hcleared⟩, hrun, hphase, hcleared, fun h => absurd h (hmut rfl)⟩

lemma triple_inPhase : Triple (workerCtx t) (Local t Q) (inPhase t r)
      (fun r' => Local t fun p c s => Q p c s ∧ ∃ p', r' = { r with phase := some p' }) E :=
  Triple.bind triple_readPhase fun p => .ret fun _ hx =>
    hx.mono fun _ _ _ hq => ⟨hq.2, p, rfl⟩

variable {info : Info} {values : Option ℕ}

lemma triple_query {next : Phase} (hnext : next.sent) :
    Triple (workerCtx t) (Local t (Kept D)) (command t info v false values next)
      (fun _ => Local t (Kept D)) fun _ => Local t (Kept D) := by
  unfold command
  refine .ite (fun _ => ?_) fun _ => .ite (fun _ => .ret fun _ hx => hx) fun _ => ?_
  · exact triple_inPhase.mono (fun _ hx => hx) (fun _ _ hx => hx.mono fun _ _ _ hq => hq.1)
      fun _ _ hx => hx
  · refine .bind (triple_checkBeforeSend hnext) fun o => ?_
    cases o with
    | some r => exact .ret fun _ hx => hx.mono fun _ _ _ hq => ⟨hq.1, hq.2 ∘ Or.inl⟩
    | none =>
      have hkept : ∀ x, Local t (Passed D) x → Local t (Kept D) x := fun x hx =>
        hx.mono fun _ _ _ hq => ⟨fun _ => hq.1, hq.2.2⟩
      exact (keeps_passed (D := D) (by simp) (only_exchange t v false)).mono (fun _ hx => hx)
        (fun _ => hkept) fun _ => hkept

lemma triple_command :
    Triple (workerCtx t) (Local t (Kept False)) (command t info v true values .command)
      (fun r => Local t (Kept r.MayDeny)) fun _ => Local t (Kept False) := by
  have hother : ∀ {r : Result} {x : Shared T × Log T}, ¬r.Stopped → Local t (Kept False) x →
      Local t (Kept r.MayDeny) x := by
    intro r x hr hx
    exact hx.mono fun _ _ _ hq => ⟨hq.1, fun hd => absurd hd.2 hr⟩
  unfold command
  refine .ite (fun _ => ?_) fun _ => .ite (fun _ => .ret fun _ hx => ?_) fun _ => ?_
  · refine triple_inPhase.mono (fun _ hx => hx) (fun r x hx => ?_) fun _ _ hx => hx
    grind [Result.Stopped]
  · exact hother (by simp [Result.Stopped]) hx
  · refine .bind (triple_checkBeforeSend rfl) fun o => ?_
    cases o with
    | some r => exact .ret fun _ hx => hx.mono fun _ _ _ hq => ⟨hq.1, hq.2 ∘ Or.inr⟩
    | none =>
      have hkeeps := keeps_passed (D := False) (fun _ => id) (only_exchange t v true)
      refine (Triple.yields hkeeps (yields_exchange t v true)).mono (fun _ hx => hx) ?_ ?_
      all_goals grind

/-- A job that starts unsent and denies a frame only if none was sent. -/
abbrev Honest (t : T) (p : Worker T Result) : Prop :=
  Triple (workerCtx t) (Local t Unsent) p (fun r => Local t (Kept r.MayDeny))
    fun _ => Local t (Kept False)

lemma honest_ret (r : Result) : Honest t (Prog.ret r) := .ret fun _ hx => hx.kept

lemma honest_command : Honest t (command t info v true values .command) :=
  triple_command.pre fun _ hx => hx.kept

lemma triple_sendChunked {total window : ℕ} : Honest t (sendChunked t info total window) := by
  have hquiet : ∀ {α : Type} {p : Worker T α}, Only (Quiet t) p →
      Triple (workerCtx t) (Local t Unsent) p (fun _ => Local t Unsent)
        fun _ => Local t (Kept False) := fun hp =>
    (keeps_unsent hp).mono (fun _ hx => hx) (fun _ _ hx => hx) fun _ _ hx => hx.kept
  unfold sendChunked
  refine .bind (hquiet (.does rfl)) fun _ => ?_
  refine .bind (hquiet (only_onSocketError (.bind (.does rfl) fun _ =>
    Only.bind quiet_chunkReply fun r => ?_) (.ret _) (.ret _))) fun o => ?_
  · cases r with
    | error r => trivial
    | ok _ => exact quiet_chunkLoop t total window total 0
  · cases o with
    | error r => exact honest_ret _
    | ok _ => exact honest_command

/-! ### The jobs -/

variable {doc : Document}

lemma triple_loadDocument : Honest t (loadDocument t info doc) := by
  have hphase : ∀ r : Result, Honest t (inPhase t r) := fun r =>
    triple_inPhase.mono (fun _ hx => hx) (fun r x hx => .kept (hx.mono fun _ _ _ hq => hq.1))
      fun _ _ hx => hx
  unfold loadDocument
  dsimp only
  split
  · exact honest_command
  · exact .ite (fun _ => honest_ret _) fun _ => triple_sendChunked
  · refine .bind triple_answer fun fits => ?_
    rcases fits with e | _ | _
    · exact .throw fun _ hx => hx.kept
    · exact hphase _
    · exact honest_command
  · exact hphase _

lemma triple_verifyLoad {byGen : Bool} :
    Triple (workerCtx t) (Local t (Kept D)) (verifyLoad t info byGen)
      (fun _ => Local t (Kept D)) fun _ => Local t (Kept D) := by
  refine .bind (triple_query rfl) fun q => ?_
  exact .ite (fun _ => triple_answer) fun _ => .ret fun _ hx => hx

lemma triple_loadVerified {byGen : Bool} : Honest t (loadVerified t info doc byGen) := by
  refine .bind triple_loadDocument fun r => ?_
  refine .ite (fun _ => ?_) fun _ => .ret fun _ hx => hx
  refine .bind (triple_verifyLoad.mono (fun _ hx => hx) (fun _ _ hx => hx) ?_) fun v =>
    Triple.ret fun _ hx => hx
  grind

lemma triple_sFrom : Triple (workerCtx t) (Local t (Kept r.MayDeny)) (sFrom t r)
      (fun r => Local t (Kept r.MayDeny)) E := by
  refine .bind triple_readPhase fun p => .ret fun x hx => hx.mono ?_
  rintro p' c s ⟨-, hkept, hdeny⟩
  refine ⟨hkept, fun ⟨happ, hstopped⟩ => hdeny ⟨?_, ?_⟩⟩
  · grind [Result.settled]
  · simp only [Result.Stopped, Result.settled] at hstopped ⊢
    rcases hr : r.reason with _ | reason <;> rcases he : r.error with _ | e <;> grind

lemma triple_openSession : Triple (workerCtx t) (Local t Unsent) (openSession t timed)
      (fun _ => Local t Unsent) fun _ => Local t (Kept False) :=
  (keeps_unsent (quiet_openSession t timed)).mono (fun _ hx => hx) (fun _ _ hx => hx)
    fun _ _ hx => hx.kept

lemma triple_withSession {body : Info → Worker T Result}
    (hbody : ∀ info, Honest t (body info)) :
    Honest t (withSession t timed body) := by
  refine .bind triple_openSession fun o => ?_
  cases o with
  | error r => exact honest_ret _
  | ok info => exact hbody info

lemma triple_recalOn : Honest t (recalOn t info) := by
  refine .ite (fun _ => ?_) fun _ => honest_command
  refine .bind honest_command fun r => ?_
  refine .ite (fun _ => ?_) fun _ => .ret fun _ hx => hx
  exact triple_command.pre fun _ hx => hx.mono fun _ _ _ hq => ⟨hq.1, False.elim⟩

omit [DecidableEq T] in
lemma local_silent (hr : ¬r.Stopped) {D : Prop}
    (hx : Local t (Kept D) x) : Local t (Kept r.MayDeny) x :=
  hx.mono fun _ _ _ hq => ⟨hq.1, fun hd => absurd hd.2 hr⟩

lemma triple_resend {inactive : Bool} : Honest t (resend t info inactive doc) := by
  refine .bind (Q := fun r => Local t (Kept r.MayDeny)) ?_ fun r => ?_
  · exact .ite (fun _ => honest_command) fun _ => triple_loadVerified
  · refine .bind triple_sFrom fun s => .ret fun _ hx => ?_
    exact local_silent (by simp [Result.Stopped]) hx

lemma triple_reconcileMember {inactive legacy restarted : Bool} :
    Honest t (reconcileMember t inactive legacy restarted doc) := by
  refine .ite (fun _ => honest_ret _) fun _ => ?_
  refine .bind triple_openSession fun o => ?_
  cases o with
  | error r => exact honest_ret _
  | ok info =>
    refine .ite (fun _ => triple_resend) fun _ => ?_
    refine .ite (fun _ => ?_) fun _ =>
      Triple.ite (fun _ => triple_resend) fun _ => honest_ret _
    -- SCHG leaves the worker in a sent phase, but it has sent no mutating frame yet
    have hquery : Triple (workerCtx t) (Local t Unsent)
        (command t info .schg false none .verify) (fun _ => Local t Unsent)
        fun _ => Local t (Kept False) :=
      (triple_query (D := True) rfl).mono (fun _ hx => hx.kept)
        (fun _ _ hx => hx.mono fun _ _ _ hq => hq.2 trivial)
        fun _ _ hx => hx.mono fun _ _ _ hq => ⟨hq.1, False.elim⟩
    refine .bind hquery fun q => ?_
    refine .ite (fun _ => ?_) fun _ => honest_ret _
    refine .bind triple_answer fun b => ?_
    exact .ite (fun _ => triple_resend) fun _ => honest_ret _

/-- Every job sends a mutating frame only after a check that found the cancel event
clear, and its result denies a frame only if none was sent. -/
lemma triple_work (t : T) (job : Job) : Honest t (job.work t) := by
  cases job with
  | command v mutating values =>
    refine triple_withSession fun info => ?_
    cases mutating with
    | true => exact honest_command
    | false =>
      exact (triple_query (D := True) rfl).mono (fun _ hx => hx.kept)
        (fun _ _ hx => .kept (hx.mono fun _ _ _ hq => hq.2 trivial))
        fun _ _ hx => hx.mono fun _ _ _ hq => ⟨hq.1, False.elim⟩
  | recal => exact triple_withSession fun info => triple_recalOn
  | sendSchedule doc gen => exact triple_withSession fun info => triple_loadVerified
  | stopTarget =>
    refine .bind triple_openSession fun o => ?_
    cases o with
    | error r => exact triple_sFrom.pre fun _ hx => hx.kept
    | ok info =>
      exact .bind honest_command fun r => triple_sFrom
  | loadTarget doc =>
    refine .bind triple_openSession fun o => ?_
    cases o with
    | error r => exact triple_sFrom.pre fun _ hx => hx.kept
    | ok info => exact .bind triple_loadVerified fun r => triple_sFrom
  | reconcile inactive legacy restarted doc => exact triple_reconcileMember
  | probe => exact triple_withSession fun info => honest_ret _
  | line => exact fun x hx i => hx.kept

end Locals

/-! ## The threads -/

lemma triple_runWorker (t : T) (job : Job) :
    Triple (workerCtx t) (fun x => t ∉ x.2.sent) (runWorker t job)
      (fun _ _ => True) fun _ _ => True := by
  have hstable : (workerCtx t).Stable fun x => t ∉ x.2.sent := by
    rintro x y hx ⟨-, -, hs, -⟩
    exact fun hy => hx (hs.mp hy)
  refine .bind (Q := fun f x => f = .pending → Local t Unsent x)
    (.reads hstable fun y hy _ => ⟨rfl, fun hf => ⟨?_, hy⟩⟩) fun f => ?_
  · simp [team, Team.ctx, watch, Watch.step, apply, hf]
  refine .ite (fun hf => ?_) fun _ => .ret fun _ _ => trivial
  refine .bind (Q := fun r => Local t (Kept r.MayDeny))
    (.catching ((triple_work t job).pre fun x hx => hx hf) fun e => ?_) fun r => ?_
  · refine .bind triple_readPhase fun p => .ret fun x hx => ?_
    grind [Result.Stopped]
  · exact .does (local_stable t _) fun y hy _ => ⟨⟨rfl, hy.1, hy.2.2⟩, trivial⟩

/-! ### The main thread -/

@[local grind]
def Waited (targets : List T) (x : Shared T × Log T) : Prop :=
  Sound x ∧ (x.1.cancel ∨ ∀ t ∈ targets, (x.1.future t).done)

lemma waited_stable (targets : List T) : (team.ctx .main).Stable (Waited targets) := by
  rintro x y ⟨hs, hstop⟩ ⟨hsound, -, hcancel, hdone⟩
  grind

variable {targets : List T}

lemma Waited.step (h : Waited targets x)
    (hg : Collects c x) : Waited targets (watch.step c x) := by
  have hg' : guarantees .main c x := hg
  refine ⟨h.1.step hg', h.2.imp (cancel_apply c) fun hd t ht => ?_⟩
  grind [done_apply]

/-- A future that is not finished when the main thread looks at it is cancelled, or
the cancel event is set. -/
@[local grind]
def Halted (t : T) (x : Shared T × Log T) : Prop := x.1.cancel ∨ (x.1.future t).done

lemma halted_stable (targets : List T) (t : T) :
    (team.ctx .main).Stable fun x => Waited targets x ∧ Halted t x := by
  rintro x y ⟨hw, hh⟩ hrely
  refine ⟨waited_stable targets x y hw hrely, hh.imp hrely.2.2.1 fun hd => ?_⟩
  rw [hrely.2.2.2 t hd]
  exact hd

omit [DecidableEq T] in
lemma Sound.clean (h : Sound x) (hh : Halted t x)
    (hp : (x.1.phase t).sent = false) : Clean t x := by grind

lemma keeps_collect (ht : t ∈ targets) : Keeps (team.ctx .main) (Waited targets) (collect t) := by
  have hrecord : ∀ {r : Result}, Triple (ι := Answer) (team.ctx .main)
      (fun x => Waited targets x ∧ (r.Denies → Clean t x)) (.does (.record t r))
      (fun _ => Waited targets) fun _ : Exc => Waited targets := by
    intro r
    refine .does ?_ fun y hy _ => ⟨hy.2, hy.1.step hy.2⟩
    rintro x y ⟨hw, hc⟩ hrely
    exact ⟨waited_stable targets x y hw hrely, fun hd => hrely.2.1 t (hc hd)⟩
  have hstraggler : Triple (ι := Answer) (team.ctx .main)
      (fun x => Waited targets x ∧ Halted t x)
      (do
        Prog.does (.cancelFuture t)
        let p ← Prog.reads (.snapshot t) (·.phase t)
        Prog.does (.record t { applied := appliedForPhase p, error := some .timeout, phase := some p }))
      (fun _ => Waited targets) fun _ : Exc => Waited targets := by
    refine .bind (Q := fun _ x => Waited targets x ∧ Halted t x)
      (.does (halted_stable targets t) fun y hy _ => ⟨trivial, hy.1.step trivial, ?_⟩)
      fun _ => ?_
    · exact hy.2.imp (cancel_apply _) fun hd =>
        (done_apply (show guarantees .main (.cancelFuture t) y from trivial) hd).symm ▸ hd
    · refine .bind (Q := fun p x => Waited targets x ∧ (p.sent = false → Clean t x))
        (.reads (halted_stable targets t) fun y hy _ =>
          ⟨trivial, hy.1.step trivial, fun hp => ?_⟩) fun p => ?_
      · exact (hy.1.1.clean hy.2 hp).step (show guarantees .main (.snapshot t) y from trivial)
      · refine hrecord.pre fun x hx => ⟨hx.1, fun hd => hx.2 ?_⟩
        exact appliedForPhase_mayDeny rfl hd.mayDeny
  unfold collect
  refine Triple.bind (Q := fun f x => Waited targets x ∧
      (∀ r, f = .finished r → r.Denies → Clean t x) ∧ ((∀ r, f ≠ .finished r) → Halted t x))
    (Triple.reads (waited_stable targets) fun y hy _ => ⟨trivial, hy, ?_, ?_⟩) fun f => ?_
  · intro r hf hd
    exact ⟨hy.1.finished t r hf hd.mayDeny, .inl (by simp [team, Team.ctx, watch, Watch.step,
      apply, hf, Future.done])⟩
  · intro _
    exact hy.2.imp_right fun hd => hd t ht
  all_goals grind

lemma triple_fanOut (targets : List T) :
    Triple (team.ctx .main) Sound (fanOut targets) (fun _ _ => True) fun _ _ => True := by
  have hstable : (team.ctx .main).Stable (Sound : Shared T × Log T → Prop) :=
    fun _ _ hx hrely => hrely.1 hx
  have hcollect : Keeps (team.ctx .main) (Waited targets) (.forEach targets collect) :=
    Keeps.forEach targets fun t ht => keeps_collect ht
  have hrest : Triple (team.ctx .main) (Waited targets) (.forEach targets collect)
      (fun _ _ => True) fun _ _ => True :=
    hcollect.mono (fun _ hx => hx) (fun _ _ _ => trivial) fun _ _ _ => trivial
  refine .bind (Q := fun done x => Sound x ∧
      (done = true → ∀ t ∈ targets, (x.1.future t).done = true))
    (.reads hstable fun y hy _ => ⟨trivial, ?_, ?_⟩) fun done => ?_
  · exact hy.step (show guarantees .main .wait y from trivial)
  · intro hd t ht
    exact List.all_eq_true.mp hd t ht
  · refine .ite (fun _ => ?_) fun hd => hrest.pre fun x hx => ⟨hx.1, .inr (hx.2 (by simpa using hd))⟩
    have hcancel : Triple (ι := Answer) (team.ctx .main) Sound (.does .setCancel)
        (fun _ => Waited targets) fun (_ : Exc) _ => True :=
      Triple.does hstable fun y hy _ =>
        ⟨trivial, hy.step (show guarantees .main .setCancel y from trivial), .inl rfl⟩
    exact .bind (hcancel.pre fun x hx => hx.1) fun _ => hrest

/-! ## Fan-outs -/

omit [DecidableEq T] in
lemma sound_start : Sound (({}, {}) : Shared T × Log T) := by constructor <;> simp

lemma meets_submitted (targets : List T) (job : T → Job) : team.Meets (submitted targets job) := by
  intro th
  cases th with
  | main => exact triple_fanOut targets _ sound_start
  | worker t =>
    simp only [submitted, program]
    split
    · exact triple_runWorker t (job t) _ (by simp)
    · exact trivial
  | canceller => exact fun y _ _ => ⟨rfl, trivial⟩

lemma results_mono (c : Cmd T) (x : Shared T × Log T) :
    ∀ e ∈ x.2.results, e ∈ (watch.step c x).2.results := by
  intro e he
  cases c with
  | record t r => exact List.mem_cons_of_mem _ he
  | send t f => cases f <;> exact he
  | _ => exact he

/-- In every interleaving of a fan-out, whatever its workers do and however often it
is cancelled, a target whose result is `applied: false` with error `timeout`,
`cancelled` or `leadership_lost`, or with reason `rto_exceeds_deadline`, was sent no
mutating frame when the result was recorded and is sent none later. -/
theorem fanOut_honest (targets : List T) (job : T → Job)
    (first second : List (Move (Thread T) Answer)) (t : T) (r : Result)
    (hresult : (t, r) ∈ (run (Pool.step watch) (submitted targets job) first).shared.2.results)
    (happlied : r.applied = .no) (hstopped : r.Stopped) :
    t ∉ (run (Pool.step watch) (submitted targets job) (first ++ second)).shared.2.sent := by
  have hlater : (t, r) ∈
      (run (Pool.step watch) (submitted targets job) (first ++ second)).shared.2.results := by
    rw [run_append]
    exact Pool.run_shared (fun c x => results_mono c x (t, r)) second _ hresult
  have hsound := (Team.Meets.run (fun th c x h _ hg => h.step hg) (meets_submitted targets job)
    sound_start (along_of_forall (Pool.step watch) (fun P m => ?_) (first ++ second) _)).2
  · grind
  · cases m with
    | act th => exact fun _ _ _ => trivial
    | ask th i => trivial

def freqJob (_ : Unit) : Job := .command .freq true none

def workerActs (k : ℕ) : List (Move (Thread Unit) Answer) := List.replicate k (.act (.worker ()))

def workerAsks (k : ℕ) : List (Move (Thread Unit) Answer) := List.replicate k (.ask (.worker ()) {})

def deadlineInXack : List (Move (Thread Unit) Answer) :=
  workerActs 3 ++ workerAsks 7 ++ workerActs 2 ++ List.replicate 6 (.act .main)

def lateAnswer : List (Move (Thread Unit) Answer) :=
  workerAsks 1 ++ workerActs 2 ++ workerAsks 1 ++ workerActs 3

theorem fanOut_honest_straggler :
    ((), { applied := .no, error := some .timeout, phase := some .xack }) ∈
        (run (Pool.step watch) (submitted [()] freqJob) deadlineInXack).shared.2.results ∧
      () ∉ (run (Pool.step watch) (submitted [()] freqJob)
        (deadlineInXack ++ lateAnswer)).shared.2.sent := by
  have hresult : ((), ({ applied := .no, error := some .timeout, phase := some .xack } : Result)) ∈
      (run (Pool.step watch) (submitted [()] freqJob) deadlineInXack).shared.2.results := by
    decide
  exact ⟨hresult, fanOut_honest [()] freqJob deadlineInXack lateAnswer () _ hresult rfl (.inl rfl)⟩

end HeimdallDaq.Federation
