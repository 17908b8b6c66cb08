/-
  Foundation/Pool.lean --- threads that run programs over one shared state.

  A move of a pool is the next command of one of its threads, or an answer of the
  outside world to one of them.
-/
import Mathlib.Logic.Function.Basic
import HeimdallDaq.Foundation.Prog

namespace HeimdallDaq.Foundation

variable {σ ι ε τ μ κ α : Type}

structure Pool (σ ι ε τ μ κ α : Type) where
  shared : σ × μ
  code : κ → Prog σ ι ε τ α

inductive Move (κ ι : Type)
  | act (t : κ)
  | ask (t : κ) (i : ι)

namespace Pool

variable [DecidableEq κ]

@[local grind]
def step (W : Watch σ τ μ) (P : Pool σ ι ε τ μ κ α) : Move κ ι → Pool σ ι ε τ μ κ α
  | .act t =>
    match P.code t with
    | .act c k => ⟨W.step c P.shared, Function.update P.code t (k P.shared.1)⟩
    | _ => P
  | .ask t i =>
    match P.code t with
    | .ask k => ⟨P.shared, Function.update P.code t (k i)⟩
    | _ => P

lemma step_shared (W : Watch σ τ μ) (P : Pool σ ι ε τ μ κ α) (m : Move κ ι) :
    (P.step W m).shared = P.shared ∨ ∃ c, (P.step W m).shared = W.step c P.shared := by
  cases m with
  | act t => grind
  | ask t i => grind

lemma run_shared {W : Watch σ τ μ} {Inv : σ × μ → Prop}
    (hinv : ∀ c x, Inv x → Inv (W.step c x)) (moves : List (Move κ ι))
    (P : Pool σ ι ε τ μ κ α) (h : Inv P.shared) : Inv (run (step W) P moves).shared := by
  have hkept : ∀ (P : Pool σ ι ε τ μ κ α) m, Inv P.shared → Inv (P.step W m).shared := by
    intro P m hx
    obtain hsame | ⟨c, hc⟩ := P.step_shared W m
    all_goals grind
  exact run_of_step (step W) hkept moves P h

end Pool

structure Team (κ σ τ μ : Type) extends Watch σ τ μ where
  admits : κ → τ → σ × μ → Prop
  rely : κ → σ × μ → σ × μ → Prop
  guar : κ → τ → σ × μ → Prop
  rely_refl : ∀ t x, rely t x x
  rely_trans : ∀ t x y z, rely t x y → rely t y z → rely t x z
  rely_of_guar : ∀ t u c x, t ≠ u → admits t c x → guar t c x → rely u x (toWatch.step c x)

namespace Team

@[local grind]
def ctx (T : Team κ σ τ μ) (t : κ) : Context σ τ μ where
  toWatch := T.toWatch
  admits := T.admits t
  rely := T.rely t
  guar := T.guar t

def Meets (T : Team κ σ τ μ) (P : Pool σ ι ε τ μ κ α) : Prop :=
  ∀ t, Spec (T.ctx t) (P.code t) (fun _ _ => True) (fun _ _ => True) P.shared

def Allows (T : Team κ σ τ μ) (P : Pool σ ι ε τ μ κ α) : Move κ ι → Prop
  | .act t => ∀ c k, P.code t = .act c k → T.admits t c P.shared
  | .ask _ _ => True

instance decidableAllows (T : Team κ σ τ μ) [∀ t c x, Decidable (T.admits t c x)]
    (P : Pool σ ι ε τ μ κ α) : ∀ m : Move κ ι, Decidable (T.Allows P m)
  | .ask _ _ => inferInstanceAs (Decidable True)
  | .act t =>
    match hcode : P.code t with
    | .act c _ => decidable_of_iff (T.admits t c P.shared) (by simp [Allows, hcode])
    | .ret _ | .throw _ | .hang | .ask _ => .isTrue (by simp [Allows, hcode])

variable [DecidableEq κ] {T : Team κ σ τ μ} {P : Pool σ ι ε τ μ κ α}

/-- A move takes a command that keeps its thread's guarantee, or leaves the shared
state as it is; either way every thread still keeps its own. -/
lemma Meets.step (h : T.Meets P) {m : Move κ ι} (hadm : T.Allows P m) :
    T.Meets (P.step T.toWatch m) ∧ ((P.step T.toWatch m).shared = P.shared ∨
        ∃ t c, T.admits t c P.shared ∧ T.guar t c P.shared ∧
          (P.step T.toWatch m).shared = T.toWatch.step c P.shared) := by
  cases m with
  | act t =>
    simp only [Pool.step]
    cases hcode : P.code t with
    | ret a => exact ⟨h, Or.inl rfl⟩
    | throw e => exact ⟨h, Or.inl rfl⟩
    | hang => exact ⟨h, Or.inl rfl⟩
    | ask k => exact ⟨h, Or.inl rfl⟩
    | act c k =>
      have ht := h t
      rw [hcode] at ht
      have hc := hadm c k hcode
      obtain ⟨hguar, hrest⟩ := ht P.shared (T.rely_refl t P.shared) hc
      refine ⟨fun u => ?_, Or.inr ⟨t, c, hc, hguar, rfl⟩⟩
      by_cases hu : u = t
      · grind
      · have hrely := T.rely_of_guar t u c P.shared (Ne.symm hu) hc hguar
        have hstable : (T.ctx u).Stable
            (Spec (T.ctx u) (P.code u) (fun _ _ => True) fun _ _ => True) :=
          Spec.stable (T.rely_trans u) (fun _ _ _ _ _ => trivial) (fun _ _ _ _ _ => trivial) _
        simp only [Function.update_of_ne hu]
        exact hstable P.shared _ (h u) hrely
  | ask t i =>
    simp only [Pool.step]
    cases hcode : P.code t with
    | ret a => exact ⟨h, Or.inl rfl⟩
    | throw e => exact ⟨h, Or.inl rfl⟩
    | hang => exact ⟨h, Or.inl rfl⟩
    | act c k => exact ⟨h, Or.inl rfl⟩
    | ask k =>
      refine ⟨fun u => ?_, Or.inl rfl⟩
      have ht := h t
      rw [hcode] at ht
      by_cases hu : u = t
      · subst hu
        simpa using ht i
      · simpa [hu] using h u

lemma Meets.run {Inv : σ × μ → Prop}
    (hinv : ∀ t c x, Inv x → T.admits t c x → T.guar t c x → Inv (T.toWatch.step c x))
    (hmeets : T.Meets P) (hstart : Inv P.shared) {moves : List (Move κ ι)}
    (hadm : Along (Pool.step T.toWatch) T.Allows P moves) :
    T.Meets (run (Pool.step T.toWatch) P moves) ∧
      Inv (run (Pool.step T.toWatch) P moves).shared := by
  have hkept : ∀ (P : Pool σ ι ε τ μ κ α) m, T.Meets P ∧ Inv P.shared → T.Allows P m →
      T.Meets (P.step T.toWatch m) ∧ Inv (P.step T.toWatch m).shared := by
    rintro P m ⟨h, hx⟩ hm
    obtain ⟨hmeets', hsame | ⟨t, c, hc, hguar, hstep⟩⟩ := h.step hm
    · exact ⟨hmeets', hsame ▸ hx⟩
    · exact ⟨hmeets', hstep ▸ hinv t c P.shared hx hc hguar⟩
  exact run_invariant (.step T.toWatch) hkept moves P ⟨hmeets, hstart⟩ hadm

end Team

end HeimdallDaq.Foundation
