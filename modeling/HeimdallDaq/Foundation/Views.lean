/-
  Foundation/Views.lean --- assertions about a part of the state.

  A result is usually about a few fields.
-/
import HeimdallDaq.Foundation.Prog

namespace HeimdallDaq.Foundation

variable {σ ι ε τ μ ν α : Type}

/-- A part `get` of the state and the monitor, which interference leaves alone or
moves by `later`. -/
structure View (σ τ μ ν : Type) where
  watch : Watch σ τ μ
  get : σ × μ → ν
  later : ν → ν → Prop

namespace View

variable (V : View σ τ μ ν)

@[local grind]
def ctx : Context σ τ μ where
  toWatch := V.watch
  admits _ _ := True
  rely x y := V.get y = V.get x ∨ V.later (V.get x) (V.get y)
  guar _ _ := True

@[local grind]
def On (P : ν → Prop) (x : σ × μ) : Prop := P (V.get x)

@[local grind]
def Lasting (P : ν → Prop) : Prop := ∀ p q, P p → V.later p q → P q

@[local grind]
def Faint (c : τ) : Prop := ∀ x, V.get (V.watch.step c x) = V.get x

variable {V : View σ τ μ ν} {P P' : ν → Prop} {E : ε → σ × μ → Prop}

lemma rely_trans (htrans : ∀ p q r, V.later p q → V.later q r → V.later p r) {x y z : σ × μ}
    (hxy : V.ctx.rely x y) (hyz : V.ctx.rely y z) : V.ctx.rely x z := by grind

lemma Lasting.stable (h : V.Lasting P) : V.ctx.Stable (V.On P) := by
  intro x y hx hxy
  grind

lemma Lasting.and (h : V.Lasting P) (h' : V.Lasting P') : V.Lasting fun p => P p ∧ P' p :=
  fun p q hp hpq => ⟨h p q hp.1 hpq, h' p q hp.2 hpq⟩

lemma Lasting.does {Q : ν → Prop} (hP : V.Lasting P) {c : τ}
    (h : ∀ x, P (V.get x) → Q (V.get (V.watch.step c x))) :
    Triple (ι := ι) V.ctx (V.On P) (Prog.does c) (fun _ => V.On Q) E :=
  Triple.does hP.stable fun y hy _ => ⟨trivial, h y hy⟩

lemma Lasting.reads {Q : α → ν → Prop} (hP : V.Lasting P) {c : τ} {f : σ → α}
    (h : ∀ x, P (V.get x) → Q (f x.1) (V.get (V.watch.step c x))) :
    Triple (ι := ι) V.ctx (V.On P) (Prog.reads c f) (fun a => V.On (Q a)) E :=
  Triple.reads hP.stable fun y hy _ => ⟨trivial, h y hy⟩

lemma Faint.on {c : τ} (hc : V.Faint c) {x : σ × μ} (hx : V.On P x) :
    V.On P (V.ctx.step c x) := by grind

lemma Lasting.faint (hP : V.Lasting P) {p : Prog σ ι ε τ α} (hp : Only V.Faint p)
    (hE : ∀ e x, P (V.get x) → E e x) : Triple V.ctx (V.On P) p (fun _ => V.On P) E := by
  have hkeeps : Keeps V.ctx (V.On P) p :=
    Keeps.of_only hP.stable (fun c hc y hy _ => ⟨trivial, hc.on hy⟩) hp
  exact hkeeps.mono (fun _ h => h) (fun _ _ h => h) hE

/-! ## An invariant and something besides -/

def Fails (Inv : ν → Prop) (_ : ε) : σ × μ → Prop := V.On Inv

variable {Inv X : ν → Prop} {p : Prog σ ι ε τ α} {Q : α → σ × μ → Prop}

lemma aside (h : Keeps V.ctx (V.On fun v => Inv v ∧ X v) p) :
    Triple V.ctx (V.On fun v => Inv v ∧ X v) p (fun _ => V.On fun v => Inv v ∧ X v) (V.Fails Inv) :=
  h.mono (fun _ h => h) (fun _ _ h => h) fun _ _ h => h.1

lemma rest (h : Keeps V.ctx (V.On Inv) p) :
    Triple V.ctx (V.On fun v => Inv v ∧ X v) p (fun _ => V.On Inv) (V.Fails Inv) :=
  h.pre fun _ h => h.1

lemma refused (h : Keeps V.ctx (V.On Inv) p) (hp : Yields (fun _ => False) p) :
    Triple V.ctx (V.On fun v => Inv v ∧ X v) p Q (V.Fails Inv) :=
  (h.yields hp).mono (fun _ hx => hx.1) (fun _ _ hx => hx.2.elim) fun _ _ hx => hx

end View

end HeimdallDaq.Foundation
