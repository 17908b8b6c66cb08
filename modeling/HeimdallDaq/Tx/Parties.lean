/-
  Tx/Parties.lean --- an operator, trips and the clock over one controller.

  An operator calls operations one after another on a thread of its own.
-/
import HeimdallDaq.Foundation.Pool
import HeimdallDaq.Tx.Handlers

namespace HeimdallDaq.Tx

open Foundation
open Prog (does forEach)

inductive Party
  | operator
  | handler (i : ℕ)
  | clock
  deriving DecidableEq

structure Scene where
  me : Thread := 0
  ops : List Op
  handlers : ℕ → Thread × Handler
  ticks : List ℚ≥0 := []

namespace Scene

def code (cfg : Setup) (S : Scene) : Party → Proc Unit
  | .operator => forEach S.ops fun op => (op.prog cfg S.me).attempt
  | .handler i => (S.handlers i).2.prog cfg (S.handlers i).1
  | .clock => forEach S.ticks fun d => does (.advance d)

variable {μ : Type}

def pool (cfg : Setup) (S : Scene) (x : Sys × μ) :
    Pool Sys Answer Stop (Party × Cmd) μ Party Unit :=
  ⟨x, fun t => (S.code cfg t).relabel (Prod.mk t)⟩

lemma meets {T : Team Party Sys (Party × Cmd) μ} {cfg : Setup} {S : Scene}
    {J : Party → Sys × μ → Prop}
    (hop : ∀ op ∈ S.ops,
      Keeps ((T.ctx .operator).comap (Prod.mk .operator)) (J .operator) (op.prog cfg S.me))
    (hhandler : ∀ i me (h : Handler),
      Keeps ((T.ctx (.handler i)).comap (Prod.mk (.handler i))) (J (.handler i)) (h.prog cfg me))
    (htick : ∀ d, Keeps ((T.ctx .clock).comap (Prod.mk .clock)) (J .clock)
      (does (.advance d) : Proc Unit))
    {x : Sys × μ} (hx : ∀ t, J t x) : T.Meets (S.pool cfg x) := by
  have hcode : ∀ t, Keeps ((T.ctx t).comap (Prod.mk t)) (J t) (S.code cfg t) := by
    intro t
    cases t with
    | operator => exact Keeps.forEach _ fun op hmem => (hop op hmem).attempt
    | handler i => exact hhandler i _ _
    | clock => exact Keeps.forEach _ fun d _ => htick d
  intro t
  show Spec (T.ctx t) ((S.code cfg t).relabel (Prod.mk t)) _ _ x
  rw [spec_relabel]
  exact Spec.mono (fun _ _ _ => trivial) (fun _ _ _ => trivial) _ x (hcode t x (hx t))

end Scene

end HeimdallDaq.Tx
