/-
  Election/Cluster.lean --- the candidates of one cluster and their network.

  Every candidate runs the election thread and serves requests.
-/
import HeimdallDaq.Election.Effects
import HeimdallDaq.Foundation.Runs
import Mathlib.Data.Finset.Card

namespace HeimdallDaq.Election

structure Cluster (Ep : Type) where
  candidates : List Ep
  nodup : candidates.Nodup
  settings : Ep → Settings
  settingsOk : ∀ x ∈ candidates,
    (validateElectionSettings candidates.length (settings x)).toOption.isSome

variable {Ep : Type} [DecidableEq Ep] (C : Cluster Ep)

abbrev Cluster.Node : Type := { x : Ep // x ∈ C.candidates }

variable (x : C.Node)

@[local grind]
def Cluster.config : ElectionConfig Ep where
  candidates := C.candidates
  nodup := C.nodup
  selfEndpoint := x.1
  self_mem := x.2
  settings := C.settings x.1
  settingsOk := C.settingsOk x.1 x.2

section

omit [DecidableEq Ep]

@[simp] lemma Cluster.config_candidates : (C.config x).candidates = C.candidates := rfl

@[simp] lemma Cluster.config_selfEndpoint : (C.config x).selfEndpoint = x.1 := rfl

@[simp] lemma Cluster.config_settings : (C.config x).settings = C.settings x.1 := rfl

end

/-! ## Majorities -/

namespace Cluster

variable (C : Cluster Ep)

lemma exists_quorum (a : C.Node) (counted : Ep → Bool)
    (h : (C.config a).IsMajority (1 + ((C.config a).others.filter counted).length)) :
    ∃ Q : Finset Ep, Q ⊆ C.candidates.toFinset ∧ C.candidates.length < 2 * Q.card ∧
      ∀ x ∈ Q, x = a.1 ∨ counted x := by
  let backers := (C.config a).others.filter counted
  have hnodup : backers.Nodup := (C.nodup.filter _).filter _
  have hself : a.1 ∉ backers.toFinset := by
    simp [backers, ElectionConfig.others]
  refine ⟨insert a.1 backers.toFinset, ?_, ?_, ?_⟩
  · grind [ElectionConfig.others, List.mem_toFinset]
  · have hcount : C.candidates.length < 2 * (1 + backers.length) := h
    rw [Finset.card_insert_of_notMem hself, List.toFinset_card_of_nodup hnodup]
    omega
  all_goals grind [List.mem_toFinset]

lemma quorums_meet {Q R : Finset Ep} (hQ : Q ⊆ C.candidates.toFinset)
    (hR : R ⊆ C.candidates.toFinset) (hQcard : C.candidates.length < 2 * Q.card)
    (hRcard : C.candidates.length < 2 * R.card) : ∃ x : C.Node, x.1 ∈ Q ∧ x.1 ∈ R := by
  have hall : C.candidates.toFinset.card = C.candidates.length :=
    List.toFinset_card_of_nodup C.nodup
  obtain ⟨x, hx⟩ := Finset.inter_nonempty_of_card_lt_card_add_card hQ hR (by omega)
  rw [Finset.mem_inter] at hx
  exact ⟨⟨x, by simpa using hQ hx.1⟩, hx⟩

end Cluster

/-! ## The state of the cluster -/

structure World (C : Cluster Ep) where
  clock : C.Node → ℚ
  cand : C.Node → Candidate Ep
  phase : C.Node → Phase Ep

def World.start (store : C.Node → ℤ × Option Ep) (clock : C.Node → ℚ) : World C where
  clock := clock
  cand := fun x => .boot (store x) (clock x)
  phase := fun _ => .idle

inductive Action (C : Cluster Ep)
  /-- the election thread of `a` takes its next step -/
  | tick (a : C.Node) (disk : ℤ × Option Ep → Bool)
  /-- `x` serves the request of the open round of `a`; `arrives` says whether
  the reply reaches `a` before the round closes -/
  | deliver (a x : C.Node) (arrives : Bool) (disk : ℤ × Option Ep → Bool)
  /-- `x` serves any LEADER -/
  | leader (x : C.Node) (clusterId : Option String)
  /-- `x` serves any PREVOTE -/
  | prevote (x : C.Node) (term : ℤ) (endpoint : Ep) (clusterId : Option String)
  /-- `x` serves any LEASE -/
  | lease (x : C.Node) (term : ℤ) (endpoint : Ep) (clusterId : Option String)
      (disk : ℤ × Option Ep → Bool)
  /-- `observe_term` at `x` -/
  | observe (x : C.Node) (term : ℤ) (bounded : Bool) (disk : ℤ × Option Ep → Bool)
  /-- `x` crashes and starts again from its term store -/
  | restart (x : C.Node)
  | advance (elapsed : C.Node → ℚ≥0)

namespace World

variable {C : Cluster Ep} (w : World C) (x : C.Node)

def setCand (c : Candidate Ep) : World C := { w with cand := Function.update w.cand x c }

def setPhase (p : Phase Ep) : World C := { w with phase := Function.update w.phase x p }

/-- `x` answers the request of `a`'s open round: `x` afterwards, and the round with
the reply in it.  With no round open there is no request and nothing changes. -/
def serve (a x : C.Node) (disk : ℤ × Option Ep → Bool) : Candidate Ep × Phase Ep :=
  let cfg := C.config x
  let now := w.clock x
  let suffix := (C.config a).suffix
  match w.phase a with
  | .polling replies =>
    let r := (w.cand x).handleLeader cfg now suffix
    (r.1, .polling (Function.update replies x.1 r.2.toOption))
  | .prevoting base replies =>
    let r := (w.cand x).handlePrevote cfg now suffix (base + 1) a.1
    (r.1, .prevoting base (Function.update replies x.1 r.2.toOption))
  | .leasing term sendTime replies =>
    let r := (w.cand x).handleLease cfg now suffix disk term a.1
    (r.1, .leasing term sendTime (Function.update replies x.1 r.2.toOption))
  | .claiming tNew sendTime replies =>
    let r := (w.cand x).handleLease cfg now suffix disk tNew a.1
    (r.1, .claiming tNew sendTime (Function.update replies x.1 r.2.toOption))
  | other => (w.cand x, other)

def step : Action C → World C
  | .tick a disk =>
    let r := (w.cand a).tickStep (C.config a) (w.clock a) disk (w.phase a)
    (w.setCand a r.1).setPhase a r.2
  | .deliver a x arrives disk =>
    if x = a then w
    else
      let r := w.serve a x disk
      (w.setCand x r.1).setPhase a (if arrives then r.2 else w.phase a)
  | .leader x clusterId =>
    w.setCand x ((w.cand x).handleLeader (C.config x) (w.clock x) clusterId).1
  | .prevote x term endpoint clusterId =>
    w.setCand x ((w.cand x).handlePrevote (C.config x) (w.clock x) clusterId term endpoint).1
  | .lease x term endpoint clusterId disk =>
    w.setCand x
      ((w.cand x).handleLease (C.config x) (w.clock x) clusterId disk term endpoint).1
  | .observe x term bounded disk =>
    w.setCand x ((w.cand x).observeTerm (C.config x) (w.clock x) disk term bounded).1
  | .restart x => (w.setCand x (.boot (w.cand x).store (w.clock x))).setPhase x .idle
  | .advance elapsed => { w with clock := fun x => w.clock x + elapsed x }

@[simp] lemma setCand_clock (c : Candidate Ep) : (w.setCand x c).clock = w.clock := rfl
@[simp] lemma setCand_phase (c : Candidate Ep) : (w.setCand x c).phase = w.phase := rfl
@[simp] lemma setCand_cand (c : Candidate Ep) :
    (w.setCand x c).cand = Function.update w.cand x c := rfl
@[simp] lemma setPhase_clock (p : Phase Ep) : (w.setPhase x p).clock = w.clock := rfl
@[simp] lemma setPhase_cand (p : Phase Ep) : (w.setPhase x p).cand = w.cand := rfl
@[simp] lemma setPhase_phase (p : Phase Ep) :
    (w.setPhase x p).phase = Function.update w.phase x p := rfl

end World

/-! ## A cluster of three -/

scoped instance neZero3 : NeZero 3 := ⟨by decide⟩

scoped instance atLeastTwo2 : Nat.AtLeastTwo 2 := ⟨by decide⟩

scoped instance atLeastTwo5 : Nat.AtLeastTwo 5 := ⟨by decide⟩

scoped instance atLeastTwo10 : Nat.AtLeastTwo 10 := ⟨by decide⟩

scoped instance atLeastTwo20 : Nat.AtLeastTwo 20 := ⟨by decide⟩

def trio : Cluster (Fin 3) where
  candidates := [0, 1, 2]
  nodup := by decide
  settings := fun _ => { requireQuorum := true }
  settingsOk := by decide +kernel

namespace trio

def node (x : Fin 3) : trio.Node := ⟨x, by revert x; decide⟩

def start : World trio := World.start trio (fun _ => (0, none)) (fun _ => 0)

def tick (a : Fin 3) : Action trio := .tick (node a) fun _ => true

def ask (a x : Fin 3) : Action trio := .deliver (node a) (node x) true fun _ => true

/-- After the settle period candidate 0 polls in vain, wins the PREVOTE and the
LEASE of candidate 1, and leads term 1. -/
def firstElection : List (Action trio) :=
  [.advance fun _ => 10, tick 0, tick 0, tick 0, ask 0 1, tick 0, tick 0, ask 0 1, tick 0]

end trio

end HeimdallDaq.Election
