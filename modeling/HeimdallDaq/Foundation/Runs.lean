/-
  Foundation/Runs.lean --- runs of a deterministic labelled machine.

  A machine is a step function `σ → α → σ`; all nondeterminism sits in the choice of the
  actions.
-/
import Mathlib.Logic.Basic

namespace HeimdallDaq.Foundation

variable {σ α : Type} (step : σ → α → σ)

@[local grind]
def run (s : σ) (actions : List α) : σ := actions.foldl step s

@[simp] lemma run_nil (s : σ) : run step s [] = s := rfl

@[simp] lemma run_cons (s : σ) (a : α) (actions : List α) :
    run step s (a :: actions) = run step (step s a) actions := rfl

lemma run_append (s : σ) (first second : List α) :
    run step s (first ++ second) = run step (run step s first) second := by
  simp [run, List.foldl_append]

@[local grind]
def Along (admits : σ → α → Prop) : σ → List α → Prop
  | _, [] => True
  | s, a :: actions => admits s a ∧ Along admits (step s a) actions

instance decidableAlong (admits : σ → α → Prop) [∀ s a, Decidable (admits s a)] :
    ∀ (s : σ) (actions : List α), Decidable (Along step admits s actions)
  | _, [] => inferInstanceAs (Decidable True)
  | s, a :: actions =>
    have := decidableAlong admits (step s a) actions
    inferInstanceAs (Decidable (_ ∧ _))

variable {admits : σ → α → Prop}

lemma along_of_forall (h : ∀ s a, admits s a) :
    ∀ (actions : List α) (s : σ), Along step admits s actions := by
  intro actions
  induction actions with
  | nil => intro s; exact trivial
  | cons a rest ih => intro s; exact ⟨h s a, ih (step s a)⟩

lemma along_append {first second : List α} : ∀ {s : σ}, Along step admits s (first ++ second) ↔
      Along step admits s first ∧ Along step admits (run step s first) second := by
  induction first with
  | nil => intro s; simp [Along]
  | cons a rest ih => intro s; simp [Along, ih, and_assoc]

variable {Inv : σ → Prop}

/-- What holds at the start and is kept by every admitted action holds at the
end of every admitted run. -/
lemma run_invariant (hstep : ∀ s a, Inv s → admits s a → Inv (step s a)) :
    ∀ (actions : List α) (s : σ), Inv s → Along step admits s actions →
      Inv (run step s actions) := by
  intro actions
  induction actions with
  | nil => intro s h _; exact h
  | cons a rest ih => grind

/-- What the invariant gives for an admitted action holds at every step of an admitted run. -/
lemma along_invariant {meets : σ → α → Prop}
    (hstep : ∀ s a, Inv s → admits s a → Inv (step s a))
    (hmeets : ∀ s a, Inv s → admits s a → meets s a) :
    ∀ (actions : List α) (s : σ), Inv s → Along step admits s actions →
      Along step meets s actions := by
  intro actions
  induction actions with
  | nil => exact fun s _ _ => trivial
  | cons a rest ih =>
    rintro s h ⟨ha, hrest⟩
    exact ⟨hmeets s a h ha, ih _ (hstep s a h ha) hrest⟩

lemma run_of_step (hstep : ∀ s a, Inv s → Inv (step s a))
    (actions : List α) (s : σ) (h : Inv s) : Inv (run step s actions) :=
  run_invariant step (fun s a hs (_ : True) => hstep s a hs) actions s h
    (along_of_forall step (fun _ _ => trivial) actions s)

/-- Two machines that take related states to related states stay related over every
run that the first one admits. -/
lemma run_simulation {τ : Type} (step' : τ → α → τ) {R : σ → τ → Prop}
    (hstep : ∀ s t a, R s t → admits s a → R (step s a) (step' t a)) :
    ∀ (actions : List α) (s : σ) (t : τ), R s t → Along step admits s actions →
      R (run step s actions) (run step' t actions) := by
  intro actions
  induction actions with
  | nil => intro s t h _; exact h
  | cons a rest ih => grind

end HeimdallDaq.Foundation
