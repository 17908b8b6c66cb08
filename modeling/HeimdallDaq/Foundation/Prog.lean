/-
  Foundation/Prog.lean --- interruptible programs over a shared state.

  A program is a tree of commands.
-/
import HeimdallDaq.Foundation.Runs

namespace HeimdallDaq.Foundation

/-- Programs over states `σ`, answers `ι`, exceptions `ε` and commands `τ`. -/
inductive Prog (σ ι ε τ α : Type)
  | ret (a : α)
  | throw (e : ε)
  | hang
  | act (cmd : τ) (next : σ → Prog σ ι ε τ α)
  | ask (next : ι → Prog σ ι ε τ α)

variable {σ ι ε τ μ α β : Type}

namespace Prog

def bind : Prog σ ι ε τ α → (α → Prog σ ι ε τ β) → Prog σ ι ε τ β
  | .ret a, f => f a
  | .throw e, _ => .throw e
  | .hang, _ => .hang
  | .act c k, f => .act c fun s => (k s).bind f
  | .ask k, f => .ask fun i => (k i).bind f

instance : Monad (Prog σ ι ε τ) where
  pure := .ret
  bind := .bind

lemma bind_ret (p : Prog σ ι ε τ α) : p.bind .ret = p := by
  induction p with
  | act c k ih => exact congrArg (act c) (funext ih)
  | ask k ih => exact congrArg ask (funext ih)
  | _ => rfl

lemma bind_bind {γ : Type} (p : Prog σ ι ε τ α) (f : α → Prog σ ι ε τ β)
    (g : β → Prog σ ι ε τ γ) : (p.bind f).bind g = p.bind fun a => (f a).bind g := by
  induction p with
  | act c k ih => exact congrArg (act c) (funext ih)
  | ask k ih => exact congrArg ask (funext ih)
  | _ => rfl

instance : LawfulMonad (Prog σ ι ε τ) := LawfulMonad.mk' _ bind_ret (fun _ _ => rfl) bind_bind

def catching : Prog σ ι ε τ α → (ε → Prog σ ι ε τ α) → Prog σ ι ε τ α
  | .ret a, _ => .ret a
  | .throw e, handler => handler e
  | .hang, _ => .hang
  | .act c k, handler => .act c fun s => (k s).catching handler
  | .ask k, handler => .ask fun i => (k i).catching handler

def does (c : τ) : Prog σ ι ε τ Unit := .act c fun _ => .ret ()

def reads (c : τ) (f : σ → α) : Prog σ ι ε τ α := .act c fun s => .ret (f s)

def answer (f : ι → α) : Prog σ ι ε τ α := .ask fun i => .ret (f i)

def forEach : List β → (β → Prog σ ι ε τ Unit) → Prog σ ι ε τ Unit
  | [], _ => .ret ()
  | b :: bs, f => f b >>= fun _ => forEach bs f

variable (p : Prog σ ι ε τ Unit)

def attempt : Prog σ ι ε τ Unit := p.catching fun _ => .ret ()

def succeeds : Prog σ ι ε τ Bool := (p >>= fun _ => .ret true).catching fun _ => .ret false

def relabel {τ' : Type} (f : τ → τ') : Prog σ ι ε τ α → Prog σ ι ε τ' α
  | .ret a => .ret a
  | .throw e => .throw e
  | .hang => .hang
  | .act c k => .act (f c) fun s => (k s).relabel f
  | .ask k => .ask fun i => (k i).relabel f

end Prog

/-! ## Executions -/

inductive Outcome (ε α : Type)
  | returned (a : α)
  | threw (e : ε)
  | hung
  deriving DecidableEq

/-- What a command does to the state, and what a monitor that sees it makes of
the command and of the state it was taken in. -/
structure Watch (σ τ μ : Type) where
  apply : τ → σ → σ
  obs : τ → σ → μ → μ

variable (W : Watch σ τ μ) (c : τ)

def Watch.step (x : σ × μ) : σ × μ := (W.apply c x.1, W.obs c x.1 x.2)

@[simp] lemma Watch.step_fst (x : σ × μ) : (W.step c x).1 = W.apply c x.1 := rfl

@[simp] lemma Watch.step_snd (x : σ × μ) : (W.step c x).2 = W.obs c x.1 x.2 := rfl

/-- Complete executions with interference `rely` before every command. -/
inductive Executes (W : Watch σ τ μ) (rely : σ × μ → σ × μ → Prop) :
    Prog σ ι ε τ α → σ × μ → Outcome ε α → σ × μ → Prop where
  | ret (a : α) (x : σ × μ) : Executes W rely (.ret a) x (.returned a) x
  | throw (e : ε) (x : σ × μ) : Executes W rely (.throw e) x (.threw e) x
  | hang (x : σ × μ) : Executes W rely .hang x .hung x
  | act {c : τ} {k : σ → Prog σ ι ε τ α} {x y z : σ × μ} {o : Outcome ε α}
      (hrely : rely x y) (hrest : Executes W rely (k y.1) (W.step c y) o z) :
      Executes W rely (.act c k) x o z
  | ask {k : ι → Prog σ ι ε τ α} {x z : σ × μ} {o : Outcome ε α} (i : ι)
      (hrest : Executes W rely (k i) x o z) : Executes W rely (.ask k) x o z

variable {W : Watch σ τ μ} {p : Prog σ ι ε τ α}

lemma Executes.mono {rely rely' : σ × μ → σ × μ → Prop}
    (hrely : ∀ x y, rely x y → rely' x y) {x z : σ × μ} {o : Outcome ε α}
    (h : Executes W rely p x o z) : Executes W rely' p x o z := by
  induction h with
  | act hr _ ih => exact .act (hrely _ _ hr) ih
  | _ => constructor <;> assumption

variable {rely : σ × μ → σ × μ → Prop}

lemma Executes.bind_hung
    (f : α → Prog σ ι ε τ β) {x z : σ × μ} (hp : Executes W rely p x .hung z) :
    Executes W rely (p >>= f) x .hung z := by
  induction p generalizing x with
  | act c k ih => cases hp with | act hrely hrest => exact .act hrely (ih _ hrest)
  | ask k ih => cases hp with | ask i hrest => exact .ask i (ih i hrest)
  | _ =>
    cases hp
    all_goals exact .hang _

/-- Run with the answers of a list; before each command the next function of `env`
interferes, and nothing once the list is used up. -/
def Prog.exec [Inhabited ι] (W : Watch σ τ μ) :
    Prog σ ι ε τ α → List (σ × μ → σ × μ) → List ι → σ × μ → Outcome ε α × (σ × μ)
  | .ret a, _, _, x => (.returned a, x)
  | .throw e, _, _, x => (.threw e, x)
  | .hang, _, _, x => (.hung, x)
  | .act c k, env, answers, x =>
    (k (env.headD id x).1).exec W env.tail answers (W.step c (env.headD id x))
  | .ask k, env, answers, x => (k (answers.headD default)).exec W env answers.tail x

lemma Prog.exec_executes [Inhabited ι] (W : Watch σ τ μ)
    (hrefl : ∀ x, rely x x) (p : Prog σ ι ε τ α) :
    ∀ (env : List (σ × μ → σ × μ)) (answers : List ι) (x : σ × μ), (∀ f ∈ env, ∀ y, rely y (f y)) →
      Executes W rely p x (p.exec W env answers x).1 (p.exec W env answers x).2 := by
  induction p with
  | act c k ih =>
    intro env answers x henv
    refine .act ?_ (ih _ env.tail answers _ fun f hf => henv f (List.mem_of_mem_tail hf))
    cases env <;> simp_all
  | ask k ih => exact fun env answers x henv => .ask _ (ih _ env answers.tail x henv)
  | _ => exact fun _ _ _ _ => by constructor

/-! ## Specifications -/

/-- What a program may expect of the others and owes to them: `rely` bounds what
happens between two of its commands, `guar c x` is what it owes when it takes
`c` in `x`.  Only commands that `admits` allows are considered. -/
structure Context (σ τ μ : Type) extends Watch σ τ μ where
  admits : τ → σ × μ → Prop
  rely : σ × μ → σ × μ → Prop
  guar : τ → σ × μ → Prop

def Context.Stable (ctx : Context σ τ μ) (J : σ × μ → Prop) : Prop :=
  ∀ x y, J x → ctx.rely x y → J y

/-- From `x`, every admitted command keeps the guarantee, a normal end satisfies
`Q` and an exception satisfies `E`. -/
def Spec (ctx : Context σ τ μ) :
    Prog σ ι ε τ α → (α → σ × μ → Prop) → (ε → σ × μ → Prop) → σ × μ → Prop
  | .ret a, Q, _, x => Q a x
  | .throw e, _, E, x => E e x
  | .hang, _, _, _ => True
  | .act c k, Q, E, x => ∀ y, ctx.rely x y → ctx.admits c y →
      ctx.guar c y ∧ Spec ctx (k y.1) Q E (ctx.step c y)
  | .ask k, Q, E, x => ∀ i, Spec ctx (k i) Q E x

section Rules

variable {ctx : Context σ τ μ} {Q : β → σ × μ → Prop} {E : ε → σ × μ → Prop}

lemma spec_bind (p : Prog σ ι ε τ α) (f : α → Prog σ ι ε τ β) :
    ∀ x, Spec ctx (p >>= f) Q E x ↔ Spec ctx p (fun a y => Spec ctx (f a) Q E y) E x := by
  induction p with
  | act c k ih => exact fun x => forall₃_congr fun y _ _ => and_congr_right fun _ => ih y.1 _
  | ask k ih => exact fun x => forall_congr' fun i => ih i x
  | _ => exact fun x => .rfl

lemma spec_catching (p : Prog σ ι ε τ β) (handler : ε → Prog σ ι ε τ β) :
    ∀ x, Spec ctx (p.catching handler) Q E x ↔
      Spec ctx p Q (fun e y => Spec ctx (handler e) Q E y) x := by
  induction p with
  | act c k ih => exact fun x => forall₃_congr fun y _ _ => and_congr_right fun _ => ih y.1 _
  | ask k ih => exact fun x => forall_congr' fun i => ih i x
  | _ => exact fun x => .rfl

lemma Spec.mono {Q' : β → σ × μ → Prop} {E' : ε → σ × μ → Prop}
    (hQ : ∀ b x, Q b x → Q' b x) (hE : ∀ e x, E e x → E' e x) (p : Prog σ ι ε τ β) :
    ∀ x, Spec ctx p Q E x → Spec ctx p Q' E' x := by
  induction p <;> grind [Spec]

lemma Spec.stable (htrans : ∀ x y z, ctx.rely x y → ctx.rely y z → ctx.rely x z)
    (hQ : ∀ b, ctx.Stable (Q b)) (hE : ∀ e, ctx.Stable (E e)) (p : Prog σ ι ε τ β) :
    ctx.Stable (Spec ctx p Q E) := by
  induction p <;> grind [Spec, Context.Stable]

def Context.comap {τ' : Type} (ctx : Context σ τ' μ) (f : τ → τ') : Context σ τ μ where
  apply c := ctx.apply (f c)
  obs c := ctx.obs (f c)
  admits c := ctx.admits (f c)
  rely := ctx.rely
  guar c := ctx.guar (f c)

lemma spec_relabel {τ' : Type} (ctx : Context σ τ' μ) (f : τ → τ') (p : Prog σ ι ε τ β) :
    ∀ x, Spec ctx (p.relabel f) Q E x ↔ Spec (ctx.comap f) p Q E x := by
  induction p with
  | act c k ih => exact fun x => forall₃_congr fun y _ _ => and_congr_right fun _ => ih y.1 _
  | ask k ih => exact fun x => forall_congr' fun i => ih i x
  | _ => exact fun x => .rfl

variable {p : Prog σ ι ε τ β}

lemma Spec.sound {x z : σ × μ} {o : Outcome ε β} (h : Spec ctx p Q E x)
    (hadm : ∀ c x, ctx.admits c x) (hexec : Executes ctx.toWatch ctx.rely p x o z) :
    (∀ b, o = .returned b → Q b z) ∧ (∀ e, o = .threw e → E e z) := by
  induction hexec with
  | act hrely _ ih => exact ih (h _ hrely (hadm _ _)).2
  | ask i _ ih => exact ih (h i)
  | _ => grind [Spec]

/-- At some point of a run that is interfered with, finished or not, the program takes `c`
in the given state. -/
inductive Takes (W : Watch σ τ μ) (rely : σ × μ → σ × μ → Prop) :
    Prog σ ι ε τ α → σ × μ → τ → σ × μ → Prop where
  | now {c : τ} {k : σ → Prog σ ι ε τ α} {x y : σ × μ} (hrely : rely x y) :
      Takes W rely (.act c k) x c y
  | later {c c' : τ} {k : σ → Prog σ ι ε τ α} {x y z : σ × μ} (hrely : rely x y)
      (hrest : Takes W rely (k y.1) (W.step c y) c' z) : Takes W rely (.act c k) x c' z
  | ask {c : τ} {k : ι → Prog σ ι ε τ α} {x z : σ × μ} (i : ι)
      (hrest : Takes W rely (k i) x c z) : Takes W rely (.ask k) x c z

lemma Spec.takes {x y : σ × μ} {c : τ} (h : Spec ctx p Q E x)
    (hadm : ∀ c x, ctx.admits c x) (htakes : Takes ctx.toWatch ctx.rely p x c y) :
    ctx.guar c y := by
  induction htakes with
  | now hrely => exact (h _ hrely (hadm _ _)).1
  | later hrely _ ih => exact ih (h _ hrely (hadm _ _)).2
  | ask i _ ih => exact ih (h i)

lemma Spec.call {P : α → σ × μ → Prop} {p : Prog σ ι ε τ α} {f : α → Prog σ ι ε τ β}
    {F : ε → σ × μ → Prop} {x : σ × μ} (hp : Spec ctx p P F x)
    (hf : ∀ a y, P a y → Spec ctx (f a) Q E y) (hE : ∀ e y, F e y → E e y) :
    Spec ctx (p >>= f) Q E x := (spec_bind p f x).mpr (.mono hf hE p x hp)

end Rules

/-! ## The commands of a program -/

def Only (S : τ → Prop) : Prog σ ι ε τ α → Prop
  | .ret _ => True
  | .throw _ => True
  | .hang => True
  | .act c k => S c ∧ ∀ s, Only S (k s)
  | .ask k => ∀ i, Only S (k i)

namespace Only

variable {S : τ → Prop}

lemma mono {S' : τ → Prop} (hS : ∀ c, S c → S' c) (hp : Only S p) : Only S' p := by
  induction p <;> grind [Only]

lemma bind {f : α → Prog σ ι ε τ β} (hp : Only S p)
    (hf : ∀ a, Only S (f a)) : Only S (p >>= f) := by
  show Only S (p.bind f)
  induction p <;> grind [Only, Prog.bind]

lemma catching {handler : ε → Prog σ ι ε τ α} (hp : Only S p)
    (hh : ∀ e, Only S (handler e)) : Only S (p.catching handler) := by
  induction p <;> grind [Only, Prog.catching]

variable {p : Prog σ ι ε τ Unit}

lemma attempt (hp : Only S p) : Only S p.attempt := hp.catching fun _ => trivial

lemma succeeds (hp : Only S p) : Only S p.succeeds :=
  (hp.bind (f := fun _ => .ret true) fun _ => trivial).catching fun _ => trivial

lemma ret (a : α) : Only S (Prog.ret a : Prog σ ι ε τ α) := trivial

lemma does {c : τ} (hc : S c) : Only S (Prog.does c : Prog σ ι ε τ Unit) := ⟨hc, fun _ => trivial⟩

lemma reads {c : τ} {f : σ → α} (hc : S c) : Only S (Prog.reads c f : Prog σ ι ε τ α) :=
  ⟨hc, fun _ => trivial⟩

lemma answer {f : ι → α} : Only S (Prog.answer f : Prog σ ι ε τ α) := fun _ => trivial

lemma ite {b : Prop} [Decidable b] {p q : Prog σ ι ε τ α} (hp : b → Only S p)
    (hq : ¬b → Only S q) : Only S (if b then p else q) := by
  split <;> simp_all

lemma forEach {f : β → Prog σ ι ε τ Unit} :
    ∀ l : List β, (∀ b ∈ l, Only S (f b)) → Only S (Prog.forEach l f) := by
  intro l h
  induction l with
  | nil => trivial
  | cons b l ih => exact (h b List.mem_cons_self).bind fun _ => ih (by simp_all)

attribute [grind] Only
attribute [grind ←] bind catching attempt succeeds does reads answer forEach

end Only

/-! ## Programs that never raise -/

def Calm : Prog σ ι ε τ α → Prop
  | .ret _ => True
  | .throw _ => False
  | .hang => True
  | .act _ k => ∀ s, Calm (k s)
  | .ask k => ∀ i, Calm (k i)

namespace Calm

lemma ret (a : α) : Calm (Prog.ret a : Prog σ ι ε τ α) := trivial

lemma bind {p : Prog σ ι ε τ α} {f : α → Prog σ ι ε τ β} (hp : Calm p) (hf : ∀ a, Calm (f a)) :
    Calm (p >>= f) := by
  show Calm (p.bind f)
  induction p <;> grind [Calm, Prog.bind]

lemma catching {handler : ε → Prog σ ι ε τ α} (hh : ∀ e, Calm (handler e))
    (p : Prog σ ι ε τ α) : Calm (p.catching handler) := by
  induction p <;> grind [Calm, Prog.catching]

lemma attempt (p : Prog σ ι ε τ Unit) : Calm p.attempt := catching (fun _ => ret ()) p

lemma does (c : τ) : Calm (Prog.does c : Prog σ ι ε τ Unit) := fun _ => trivial

lemma reads (c : τ) (f : σ → α) : Calm (Prog.reads c f : Prog σ ι ε τ α) := fun _ => trivial

lemma ite {b : Prop} [Decidable b] {p q : Prog σ ι ε τ α} (hp : b → Calm p)
    (hq : ¬b → Calm q) : Calm (if b then p else q) := by
  split <;> simp_all

lemma forEach {f : β → Prog σ ι ε τ Unit} (hf : ∀ b, Calm (f b)) :
    ∀ l : List β, Calm (Prog.forEach l f) := by
  intro l
  induction l with
  | nil => trivial
  | cons b l ih => exact (hf b).bind fun _ => ih

attribute [grind] Calm
attribute [grind ←] bind catching attempt does reads forEach

end Calm

variable {ctx : Context σ τ μ} {Q : α → σ × μ → Prop}

lemma Spec.of_calm {E E' : ε → σ × μ → Prop}
    (hp : Calm p) : ∀ x, Spec ctx p Q E x → Spec ctx p Q E' x := by
  induction p <;> grind [Spec]

/-! ## The values of a program -/

def Yields (V : α → Prop) : Prog σ ι ε τ α → Prop
  | .ret a => V a
  | .throw _ => True
  | .hang => True
  | .act _ k => ∀ s, Yields V (k s)
  | .ask k => ∀ i, Yields V (k i)

namespace Yields

variable {V : α → Prop}

lemma of_forall (h : ∀ a, V a) (p : Prog σ ι ε τ α) : Yields V p := by
  induction p <;> grind [Yields]

variable {U : β → Prop} {f : α → Prog σ ι ε τ β}

lemma bind (hp : Yields V p) (hf : ∀ a, V a → Yields U (f a)) : Yields U (p >>= f) := by
  show Yields U (p.bind f)
  induction p <;> grind [Yields, Prog.bind]

lemma after (p : Prog σ ι ε τ α) (hf : ∀ a, Yields U (f a)) : Yields U (p >>= f) :=
  (of_forall (V := fun _ => True) (fun _ => trivial) p).bind fun a _ => hf a

lemma catching {handler : ε → Prog σ ι ε τ α} (hp : Yields V p)
    (hh : ∀ e, Yields V (handler e)) : Yields V (p.catching handler) := by
  induction p <;> grind [Yields, Prog.catching]

lemma ite {b : Prop} [Decidable b] {p q : Prog σ ι ε τ α} (hp : b → Yields V p)
    (hq : ¬b → Yields V q) : Yields V (if b then p else q) := by
  split <;> simp_all

end Yields

lemma Spec.yields {E : ε → σ × μ → Prop} {V : α → Prop} (hp : Yields V p) :
    ∀ x, Spec ctx p Q E x → Spec ctx p (fun a y => Q a y ∧ V a) E x := by
  induction p <;> grind [Spec, Yields]

/-! ## Triples -/

def Triple (ctx : Context σ τ μ) (P : σ × μ → Prop) (p : Prog σ ι ε τ α)
    (Q : α → σ × μ → Prop) (E : ε → σ × μ → Prop) : Prop := ∀ x, P x → Spec ctx p Q E x

namespace Triple

variable  {P : σ × μ → Prop}
  {R : β → σ × μ → Prop} {E : ε → σ × μ → Prop}

lemma ret {a : α} (h : ∀ x, P x → Q a x) : Triple (ι := ι) ctx P (.ret a) Q E := h

lemma throw {e : ε} (h : ∀ x, P x → E e x) : Triple (ι := ι) ctx P (.throw e) Q E := h

lemma bind {f : α → Prog σ ι ε τ β} (hp : Triple ctx P p Q E)
    (hf : ∀ a, Triple ctx (Q a) (f a) R E) : Triple ctx P (p >>= f) R E :=
  fun x hx => .call (hp x hx) (fun a y hy => hf a y hy) fun _ _ he => he

variable {E' : ε → σ × μ → Prop}

lemma catching {handler : ε → Prog σ ι ε τ α}
    (hp : Triple ctx P p Q E) (hh : ∀ e, Triple ctx (E e) (handler e) Q E') :
    Triple ctx P (p.catching handler) Q E' := by
  intro x hx
  rw [spec_catching]
  exact .mono (fun _ _ hq => hq) (fun e y hy => hh e y hy) p x (hp x hx)

lemma succeeds {p : Prog σ ι ε τ Unit} {Q : Unit → σ × μ → Prop} {R : σ × μ → Prop}
    (h : Triple ctx P p Q fun _ => R) :
    Triple ctx P p.succeeds (fun ok x => (ok → Q () x) ∧ (ok = false → R x)) E := by
  refine catching (E := fun _ => R) (bind h fun _ => ret ?_) fun _ => ret ?_ <;> simp

variable {P' : σ × μ → Prop}

lemma mono {Q' : α → σ × μ → Prop} (h : Triple ctx P p Q E) (hP : ∀ x, P' x → P x)
    (hQ : ∀ a x, Q a x → Q' a x) (hE : ∀ e x, E e x → E' e x) : Triple ctx P' p Q' E' :=
  fun x hx => .mono hQ hE p x (h x (hP x hx))

lemma pre (h : Triple ctx P p Q E) (hP : ∀ x, P' x → P x) : Triple ctx P' p Q E :=
  fun x hx => h x (hP x hx)

variable {c : τ}

lemma act (hP : ctx.Stable P) {k : σ → Prog σ ι ε τ α}
    (h : ∀ y, P y → ctx.admits c y → ctx.guar c y ∧ Spec ctx (k y.1) Q E (ctx.step c y)) :
    Triple ctx P (.act c k) Q E := fun x hx y hrely hadm => h y (hP x y hx hrely) hadm

lemma does (hP : ctx.Stable P) {Q : Unit → σ × μ → Prop}
    (h : ∀ y, P y → ctx.admits c y → ctx.guar c y ∧ Q () (ctx.step c y)) :
    Triple (ι := ι) ctx P (.does c) Q E := act hP h

lemma reads (hP : ctx.Stable P) {f : σ → α}
    (h : ∀ y, P y → ctx.admits c y → ctx.guar c y ∧ Q (f y.1) (ctx.step c y)) :
    Triple (ι := ι) ctx P (.reads c f) Q E := act hP h

lemma ask {k : ι → Prog σ ι ε τ α} (h : ∀ i, Triple ctx P (k i) Q E) :
    Triple ctx P (.ask k) Q E := fun x hx i => h i x hx

lemma ite {b : Prop} [Decidable b] {p q : Prog σ ι ε τ α} (hp : b → Triple ctx P p Q E)
    (hq : ¬b → Triple ctx P q Q E) : Triple ctx P (if b then p else q) Q E := by
  split <;> simp_all

lemma of_calm (hp : Calm p) (h : Triple ctx P p Q E) : Triple ctx P p Q E' :=
  fun x hx => .of_calm hp x (h x hx)

lemma given {V : Prop} (h : V → Triple ctx P p Q E) : Triple ctx (fun x => P x ∧ V) p Q E :=
  fun x hx => h hx.2 x hx.1

lemma yields {V : α → Prop} (h : Triple ctx P p Q E) (hp : Yields V p) :
    Triple ctx P p (fun a x => Q a x ∧ V a) E := fun x hx => .yields hp x (h x hx)

end Triple

/-! ## Programs that keep an invariant -/

/-- From every state of the invariant the program keeps its guarantee and ends in
the invariant, normally or by an exception. -/
def Keeps (ctx : Context σ τ μ) (Inv : σ × μ → Prop) (p : Prog σ ι ε τ α) : Prop :=
  Triple ctx Inv p (fun _ => Inv) fun _ => Inv

namespace Keeps

variable {Inv : σ × μ → Prop}

lemma ret (a : α) : Keeps (ι := ι) (ε := ε) ctx Inv (.ret a) := fun _ h => h

lemma throw (e : ε) : Keeps (ι := ι) (α := α) ctx Inv (.throw e) := fun _ h => h

lemma bind {f : α → Prog σ ι ε τ β} (hp : Keeps ctx Inv p)
    (hf : ∀ a, Keeps ctx Inv (f a)) : Keeps ctx Inv (p >>= f) := Triple.bind hp hf

lemma catching {handler : ε → Prog σ ι ε τ α} (hp : Keeps ctx Inv p)
    (hh : ∀ e, Keeps ctx Inv (handler e)) : Keeps ctx Inv (p.catching handler) :=
  Triple.catching hp hh

variable {p : Prog σ ι ε τ Unit}

lemma attempt (hp : Keeps ctx Inv p) : Keeps ctx Inv p.attempt := hp.catching fun _ => .ret ()

lemma succeeds (hp : Keeps ctx Inv p) : Keeps ctx Inv p.succeeds :=
  (hp.bind fun _ => .ret true).catching fun _ => .ret false

lemma forEach {f : β → Prog σ ι ε τ Unit} :
    ∀ l : List β, (∀ b ∈ l, Keeps ctx Inv (f b)) → Keeps ctx Inv (Prog.forEach l f) := by
  intro l h
  induction l with
  | nil => exact .ret ()
  | cons b l ih => exact (h b List.mem_cons_self).bind fun _ => ih (by simp_all)

lemma answer {f : ι → α} : Keeps (ε := ε) ctx Inv (.answer f) := fun _ hx _ => hx

lemma ask {k : ι → Prog σ ι ε τ α} (h : ∀ i, Keeps ctx Inv (k i)) : Keeps ctx Inv (.ask k) :=
  Triple.ask h

lemma ite {b : Prop} [Decidable b] {p q : Prog σ ι ε τ α} (hp : b → Keeps ctx Inv p)
    (hq : ¬b → Keeps ctx Inv q) : Keeps ctx Inv (if b then p else q) := Triple.ite hp hq

lemma act (hstable : ctx.Stable Inv) {c : τ} {k : σ → Prog σ ι ε τ α}
    (hstep : ∀ y, Inv y → ctx.admits c y → ctx.guar c y ∧ Inv (ctx.step c y))
    (hk : ∀ s, Keeps ctx Inv (k s)) : Keeps ctx Inv (.act c k) := by
  refine Triple.act hstable fun y hy hadm => ?_
  obtain ⟨hguar, hinv⟩ := hstep y hy hadm
  exact ⟨hguar, hk y.1 _ hinv⟩

attribute [grind ←] ret throw bind catching attempt succeeds forEach answer ask

end Keeps

/-! ## Invariants by command -/

/-- A stable invariant that every command of `S` keeps is kept by every program
with commands of `S` only. -/
lemma Keeps.of_only {Inv : σ × μ → Prop} {S : τ → Prop} (hstable : ctx.Stable Inv)
    (hstep : ∀ c, S c → ∀ y, Inv y → ctx.admits c y → ctx.guar c y ∧ Inv (ctx.step c y)) :
    ∀ {p : Prog σ ι ε τ α}, Only S p → Keeps ctx Inv p := by
  intro p h
  induction p with
  | act c k ih => exact .act hstable (hstep c h.1) fun s => ih s (h.2 s)
  | ask k ih => exact fun x hx i => ih i (h i) x hx
  | _ => exact fun x hx => by trivial

end HeimdallDaq.Foundation
