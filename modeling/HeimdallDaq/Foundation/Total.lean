/-
  Foundation/Total.lean --- programs that never wait for ever.

  `Spec` promises nothing of a program that hangs.
-/
import HeimdallDaq.Foundation.Prog

namespace HeimdallDaq.Foundation

variable {σ ι ε τ μ α β : Type}

def Awake (ctx : Context σ τ μ) : Prog σ ι ε τ α → σ × μ → Prop
  | .ret _, _ => True
  | .throw _, _ => True
  | .hang, _ => False
  | .act c k, x => ∀ y, ctx.rely x y → ctx.admits c y → Awake ctx (k y.1) (ctx.step c y)
  | .ask k, x => ∀ i, Awake ctx (k i) x

section

variable {ctx : Context σ τ μ} {Q : α → σ × μ → Prop} {R : β → σ × μ → Prop}
  {E E' : ε → σ × μ → Prop} {P : σ × μ → Prop}

variable {p : Prog σ ι ε τ α}

lemma Awake.not_hung {x z : σ × μ} {o : Outcome ε α} (h : Awake ctx p x)
    (hadm : ∀ c x, ctx.admits c x) (hexec : Executes ctx.toWatch ctx.rely p x o z) : o ≠ .hung := by
  induction hexec with
  | ret a x => simp
  | throw e x => simp
  | hang x => exact h.elim
  | act hrely _ ih => exact ih (h _ hrely (hadm _ _))
  | ask i _ ih => exact ih (h i)

lemma Awake.bind {f : α → Prog σ ι ε τ β} :
    ∀ {x}, Awake ctx p x → Spec ctx p Q E x → (∀ a y, Q a y → Awake ctx (f a) y) →
      Awake ctx (p >>= f) x := by
  induction p with
  | ret a => intro x _ hspec hf; exact hf a x hspec
  | throw e => intro x _ _ _; exact trivial
  | hang => intro x h _ _; exact h
  | act c k ih =>
    intro x h hspec hf y hrely hadm
    exact ih y.1 (h y hrely hadm) (hspec y hrely hadm).2 hf
  | ask k ih => intro x h hspec hf i; exact ih i (h i) (hspec i) hf

lemma Awake.catching {handler : ε → Prog σ ι ε τ α} :
    ∀ {x}, Awake ctx p x → Spec ctx p Q E x → (∀ e y, E e y → Awake ctx (handler e) y) →
      Awake ctx (p.catching handler) x := by
  induction p with
  | ret a => intro x _ _ _; exact trivial
  | throw e => intro x _ hspec hh; exact hh e x hspec
  | hang => intro x h _ _; exact h
  | act c k ih =>
    intro x h hspec hh y hrely hadm
    exact ih y.1 (h y hrely hadm) (hspec y hrely hadm).2 hh
  | ask k ih => intro x h hspec hh i; exact ih i (h i) (hspec i) hh

def Total (ctx : Context σ τ μ) (P : σ × μ → Prop) (p : Prog σ ι ε τ α)
    (Q : α → σ × μ → Prop) (E : ε → σ × μ → Prop) : Prop :=
  ∀ x, P x → Spec ctx p Q E x ∧ Awake ctx p x

namespace Total

lemma ret {a : α} (h : ∀ x, P x → Q a x) : Total (ι := ι) ctx P (.ret a) Q E :=
  fun x hx => ⟨h x hx, trivial⟩

lemma throw {e : ε} (h : ∀ x, P x → E e x) : Total (ι := ι) ctx P (.throw e) Q E :=
  fun x hx => ⟨h x hx, trivial⟩

lemma mono {Q' : α → σ × μ → Prop} (hp : Total ctx P p Q E)
    (hQ : ∀ a x, Q a x → Q' a x) (hE : ∀ e x, E e x → E' e x) : Total ctx P p Q' E' :=
  fun x hx => ⟨.mono hQ hE p x (hp x hx).1, (hp x hx).2⟩

lemma bind {f : α → Prog σ ι ε τ β} (hp : Total ctx P p Q E)
    (hf : ∀ a, Total ctx (Q a) (f a) R E) : Total ctx P (p >>= f) R E := by
  intro x hx
  obtain ⟨hspec, hawake⟩ := hp x hx
  exact ⟨.call hspec (fun a y hy => (hf a y hy).1) fun _ _ he => he,
    hawake.bind hspec fun a y hy => (hf a y hy).2⟩

lemma catching {handler : ε → Prog σ ι ε τ α} (hp : Total ctx P p Q E)
    (hh : ∀ e, Total ctx (E e) (handler e) Q E') : Total ctx P (p.catching handler) Q E' := by
  intro x hx
  obtain ⟨hspec, hawake⟩ := hp x hx
  refine ⟨?_, hawake.catching hspec fun e y hy => (hh e y hy).2⟩
  rw [spec_catching]
  exact .mono (fun _ _ hq => hq) (fun e y hy => (hh e y hy).1) p x hspec

variable {c : τ}

lemma act (hP : ctx.Stable P) {k : σ → Prog σ ι ε τ α}
    (h : ∀ y, P y → ctx.admits c y → ctx.guar c y ∧ Spec ctx (k y.1) Q E (ctx.step c y) ∧
      Awake ctx (k y.1) (ctx.step c y)) : Total ctx P (.act c k) Q E := by
  intro x hx
  refine ⟨fun y hrely hadm => ?_, fun y hrely hadm => (h y (hP x y hx hrely) hadm).2.2⟩
  obtain ⟨hguar, hspec, _⟩ := h y (hP x y hx hrely) hadm
  exact ⟨hguar, hspec⟩

lemma does (hP : ctx.Stable P) {Q : Unit → σ × μ → Prop}
    (h : ∀ y, P y → ctx.admits c y → ctx.guar c y ∧ Q () (ctx.step c y)) :
    Total (ι := ι) ctx P (.does c) Q E :=
  act hP fun y hy hadm => ⟨(h y hy hadm).1, (h y hy hadm).2, trivial⟩

lemma reads (hP : ctx.Stable P) {f : σ → α}
    (h : ∀ y, P y → ctx.admits c y → ctx.guar c y ∧ Q (f y.1) (ctx.step c y)) :
    Total (ι := ι) ctx P (.reads c f) Q E :=
  act hP fun y hy hadm => ⟨(h y hy hadm).1, (h y hy hadm).2, trivial⟩

lemma ask {k : ι → Prog σ ι ε τ α} (h : ∀ i, Total ctx P (k i) Q E) : Total ctx P (.ask k) Q E :=
  fun x hx => ⟨fun i => (h i x hx).1, fun i => (h i x hx).2⟩

lemma ite {b : Prop} [Decidable b] {p q : Prog σ ι ε τ α} (hp : b → Total ctx P p Q E)
    (hq : ¬b → Total ctx P q Q E) : Total ctx P (if b then p else q) Q E := by grind

lemma returns (hp : Total ctx P p Q E) (hcalm : Calm p)
    (hadm : ∀ c x, ctx.admits c x) {x z : σ × μ} {o : Outcome ε α} (hx : P x)
    (hexec : Executes ctx.toWatch ctx.rely p x o z) : ∃ a, o = .returned a ∧ Q a z := by
  obtain ⟨hspec, hawake⟩ := hp x hx
  have hends := Spec.sound (E := fun _ _ => False) (Spec.of_calm hcalm x hspec) hadm hexec
  cases o with
  | returned a => exact ⟨a, rfl, hends.1 a rfl⟩
  | threw e => exact (hends.2 e rfl).elim
  | hung => exact (hawake.not_hung hadm hexec rfl).elim

end Total

/-! ## An invariant to the end -/

@[local grind]
def Ends (ctx : Context σ τ μ) (Inv : σ × μ → Prop) (p : Prog σ ι ε τ α) : Prop :=
  Total ctx Inv p (fun _ => Inv) fun _ => Inv

namespace Ends

variable {Inv : σ × μ → Prop}

lemma ret (a : α) : Ends (ι := ι) (ε := ε) ctx Inv (Prog.ret a) := Total.ret fun _ h => h

lemma throw (e : ε) : Ends (ι := ι) (α := α) ctx Inv (Prog.throw e) := Total.throw fun _ h => h

lemma bind {f : α → Prog σ ι ε τ β} (hp : Ends ctx Inv p)
    (hf : ∀ a, Ends ctx Inv (f a)) : Ends ctx Inv (p >>= f) := Total.bind hp hf

lemma catching {handler : ε → Prog σ ι ε τ α} (hp : Ends ctx Inv p)
    (hh : ∀ e, Ends ctx Inv (handler e)) : Ends ctx Inv (p.catching handler) := Total.catching hp hh

variable {p : Prog σ ι ε τ Unit}

lemma attempt (hp : Ends ctx Inv p) : Ends ctx Inv p.attempt := hp.catching fun _ => .ret ()

lemma succeeds (hp : Ends ctx Inv p) : Ends ctx Inv p.succeeds :=
  (hp.bind fun _ => .ret true).catching fun _ => .ret false

lemma ite {b : Prop} [Decidable b] {p q : Prog σ ι ε τ α} (hp : b → Ends ctx Inv p)
    (hq : ¬b → Ends ctx Inv q) : Ends ctx Inv (if b then p else q) := Total.ite hp hq

lemma ask {k : ι → Prog σ ι ε τ α} (h : ∀ i, Ends ctx Inv (k i)) : Ends ctx Inv (.ask k) :=
  Total.ask h

lemma act (hstable : ctx.Stable Inv) {c : τ} {k : σ → Prog σ ι ε τ α}
    (hstep : ∀ y, Inv y → ctx.admits c y → ctx.guar c y ∧ Inv (ctx.step c y))
    (hk : ∀ s, Ends ctx Inv (k s)) : Ends ctx Inv (.act c k) := by grind [Total.act, Total]

lemma forEach {f : β → Prog σ ι ε τ Unit} (hf : ∀ b, Ends ctx Inv (f b)) :
    ∀ l : List β, Ends ctx Inv (Prog.forEach l f) := by
  intro l
  induction l with
  | nil => exact .ret ()
  | cons b l ih => exact (hf b).bind fun _ => ih

end Ends

/-! ## Programs that may hang -/

def Hangs (ctx : Context σ τ μ) (p : Prog σ ι ε τ α) (x : σ × μ) : Prop :=
  ∃ z, Executes ctx.toWatch ctx.rely p x .hung z

namespace Hangs

lemma hang (x : σ × μ) : Hangs ctx (.hang : Prog σ ι ε τ α) x := ⟨x, .hang x⟩

lemma act {c : τ} {k : σ → Prog σ ι ε τ α} {x : σ × μ} (hrefl : ctx.rely x x)
    (h : Hangs ctx (k x.1) (ctx.step c x)) : Hangs ctx (.act c k) x := by
  obtain ⟨z, hz⟩ := h
  exact ⟨z, .act hrefl hz⟩

lemma bind {p : Prog σ ι ε τ α} {x : σ × μ} (h : Hangs ctx p x) (f : α → Prog σ ι ε τ β) :
    Hangs ctx (p >>= f) x := by
  obtain ⟨z, hz⟩ := h
  exact ⟨z, hz.bind_hung f⟩

end Hangs

end

end HeimdallDaq.Foundation
