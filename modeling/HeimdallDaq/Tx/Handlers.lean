/-
  Tx/Handlers.lean --- runs of a controller with signal handlers.

  A signal handler runs `trip` or `safe_shutdown` to completion between any two steps of
  an operation of the same controller, and may itself be interrupted by further
  handlers, to any depth.
-/
import HeimdallDaq.Foundation.Views
import HeimdallDaq.Tx.Robust

namespace HeimdallDaq.Tx

open Foundation
open Prog (does)

inductive Handler
  | trip (code : Code)
  | safeShutdown
  deriving DecidableEq

def Handler.prog (cfg : Setup) (me : Thread) : Handler → Proc Unit
  | .trip code => Tx.trip cfg me code
  | .safeShutdown => Tx.safeShutdown cfg me false

/-! ## Runs -/

section Runs

variable {μ : Type} (W : Watch Sys Cmd μ)

def Passes (x y : Sys × μ) : Prop := ∃ d : ℚ≥0, y = W.step (.advance d) x

variable (cfg : Setup) (me : Thread)

def interference : ℕ → Sys × μ → Sys × μ → Prop
  | 0 => Passes W
  | depth + 1 => Relation.ReflTransGen fun x y => Passes W x y ∨
      ∃ h : Handler, Executes W (interference depth) (h.prog cfg me) x (.returned ()) y

inductive Reached (depth : ℕ) (x₀ : Sys × μ) : Sys × μ → Prop
  | start : Reached depth x₀ x₀
  | idle {x y : Sys × μ} (hx : Reached depth x₀ x)
      (hxy : interference W cfg me depth x y) : Reached depth x₀ y
  | op {x y : Sys × μ} (o : Op) {out : Outcome Stop Unit} (hx : Reached depth x₀ x)
      (hrun : Executes W (interference W cfg me depth) (o.prog cfg me) x out y)
      (hend : out ≠ .hung) : Reached depth x₀ y

variable {W cfg me}

/-- A summary of what may happen between two steps, if it is transitive and every
handler that is itself interrupted within it ends within it. -/
lemma interference_le {R : Sys × μ → Sys × μ → Prop} (hrefl : ∀ x, R x x)
    (htrans : ∀ x y z, R x y → R y z → R x z) (hpass : ∀ x y, Passes W x y → R x y)
    (hhandler : ∀ (h : Handler) x y, Executes W R (h.prog cfg me) x (.returned ()) y → R x y)
    (depth : ℕ) : ∀ x y, interference W cfg me depth x y → R x y := by
  induction depth with
  | zero => exact hpass
  | succ depth ih =>
    intro x y h
    induction h with
    | refl => exact hrefl x
    | @tail y z _ hstep hxy =>
      refine htrans x y z hxy ?_
      rcases hstep with hstep | ⟨handler, hexec⟩
      · exact hpass y z hstep
      · exact hhandler handler y z (hexec.mono ih)

lemma Reached.invariant (ctx : Context Sys Cmd μ) (hadm : ∀ c x, ctx.admits c x)
    {depth : ℕ} (hrely : ∀ x y, interference ctx.toWatch cfg me depth x y → ctx.rely x y)
    {Inv : Sys × μ → Prop} (hstable : ctx.Stable Inv) (hop : ∀ o : Op, Keeps ctx Inv (o.prog cfg me))
    {x₀ x : Sys × μ} (hstart : Inv x₀) (h : Reached ctx.toWatch cfg me depth x₀ x) : Inv x := by
  induction h with
  | start => exact hstart
  | idle _ hxy ih => exact hstable _ _ ih (hrely _ _ hxy)
  | @op x y o out _ hrun hend ih =>
    have hsound := Spec.sound (hop o x ih) hadm (hrun.mono hrely)
    cases out with
    | returned a => exact hsound.1 a rfl
    | threw e => exact hsound.2 e rfl
    | hung => exact absurd rfl hend

/-! ## Concrete runs -/

variable (W cfg me)

def interrupt (h : Handler) (x : Sys × μ) : Sys × μ :=
  match (h.prog cfg me).exec W [] [] x with
  | (.returned (), y) => y
  | _ => x

lemma interference_interrupt (hadvance : ∀ x, W.step (.advance 0) x = x) (h : Handler)
    (x : Sys × μ) : interference W cfg me 1 x (interrupt W cfg me h x) := by
  have hrefl : ∀ y, interference W cfg me 0 y y := fun y => ⟨0, (hadvance y).symm⟩
  have hexec := Prog.exec_executes W hrefl (h.prog cfg me) [] [] x (by simp)
  unfold interrupt
  generalize (h.prog cfg me).exec W [] [] x = result at hexec ⊢
  obtain ⟨_ | _ | _, y⟩ := result
  · exact .single (Or.inr ⟨h, hexec⟩)
  · exact .refl
  · exact .refl

inductive Turn
  | pass (d : ℚ≥0)
  | call (o : Op) (answers : List Answer)

def Turn.run : Turn → Sys × μ → Sys × μ
  | .pass d, x => W.step (.advance d) x
  | .call o answers, x =>
    match (o.prog cfg me).exec W [] answers x with
    | (.hung, _) => x
    | (_, y) => y

def play (turns : List Turn) (x : Sys × μ) : Sys × μ :=
  turns.foldl (fun y turn => turn.run W cfg me y) x

lemma reached_play {x₀ : Sys × μ} : ∀ (turns : List Turn) {x : Sys × μ},
    Reached W cfg me 1 x₀ x → Reached W cfg me 1 x₀ (play W cfg me turns x) := by
  intro turns
  induction turns with
  | nil => intro x hx; exact hx
  | cons turn turns ih =>
    intro x hx
    refine ih ?_
    cases turn with
    | pass d => exact .idle hx (.single (Or.inl ⟨d, rfl⟩))
    | call o answers =>
      have hrefl : ∀ y, interference W cfg me 1 y y := fun _ => .refl
      have hexec := Prog.exec_executes W hrefl (o.prog cfg me) [] answers x (by simp)
      show Reached W cfg me 1 x₀ (match (o.prog cfg me).exec W [] answers x with
        | (.hung, _) => x
        | (_, y) => y)
      generalize (o.prog cfg me).exec W [] answers x = result at hexec ⊢
      obtain ⟨out, y⟩ := result
      cases out with
      | returned a => exact .op o hx hexec (by simp)
      | threw e => exact .op o hx hexec (by simp)
      | hung => exact hx

end Runs

/-! ## Reads -/

/-- A view that a plain read does not touch. -/
class Looks {μ ν : Type} (V : View Sys Cmd μ ν) : Prop where
  faint : V.Faint (.look .plain)

section Reads

variable {μ ν : Type} {V : View Sys Cmd μ ν} [Looks V] {P : ν → Prop}
  {E : Stop → Sys × μ → Prop}

lemma look_spec (hP : V.Lasting P) {α : Type} {Q : α → ν → Prop} {f : Sys → α}
    (h : ∀ x, P (V.get x) → Q (f x.1) (V.get x)) :
    Triple V.ctx (V.On P) (look f) (fun a => V.On (Q a)) E := by
  refine hP.reads fun x hx => ?_
  rw [Looks.faint x]
  exact h x hx

lemma peek_spec (hP : V.Lasting P) {α : Type} (f : Sys → α) :
    Triple V.ctx (V.On P) (look f) (fun _ => V.On P) E :=
  look_spec (Q := fun _ => P) hP fun _ h => h

end Reads

end HeimdallDaq.Tx
