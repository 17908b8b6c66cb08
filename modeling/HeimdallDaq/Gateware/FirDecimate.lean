/-
  Gateware/FirDecimate.lean --- the decimating FIR filter of the gateware.

  fir_decimate.v, one clock edge a step.
-/
import HeimdallDaq.Foundation.Runs
import HeimdallDaq.Gateware.FirMac
import Mathlib.Data.List.GetD
import Mathlib.Data.Nat.ModEq

namespace HeimdallDaq.Gateware

open Foundation List

/-! ## The machine -/

/-- `cfg_tap_count` and `cfg_decim_ratio`; neither is zero. -/
structure FirConfig where
  tapCount : BitVec 7
  decimRatio : BitVec 4
  tapCount_pos : 0 < tapCount.toNat
  decimRatio_pos : 0 < decimRatio.toNat

/-- The registers of one of the two streams I and Q, with its delay line and its
multiply-accumulate unit. -/
structure Lane where
  state : BitVec 7 → Sample
  macData : Sample := 0
  macCoeff : Sample := 0
  mac : FirMac := {}
  out : Sample := 0

inductive FsmState
  | idle
  | load
  | compute
  | output
  | skip
  deriving DecidableEq

/-- The registers and memories of `fir_decimate`. -/
structure FirDecimate where
  coeffMem : BitVec 7 → Sample
  i : Lane
  q : Lane
  stateWrPtr : BitVec 7 := 0
  decimCnt : BitVec 4 := 0
  fsmState : FsmState := .idle
  tapIdx : BitVec 7 := 0
  stateRdPtr : BitVec 7 := 0
  macClear : Bool := false
  macEn : Bool := false
  outValid : Bool := false
  macPipelineCnt : BitVec 3 := 0
  computeDone : Bool := false

structure FirCycle where
  iIn : Sample
  qIn : Sample
  inValid : Bool
  outReady : Bool
  coeffWr : Option (BitVec 7 × BitVec 32) := none

namespace Lane

variable (l : Lane)

def clock (clear en : Bool) : Lane :=
  { l with mac := l.mac.step ⟨clear, en, l.macData, l.macCoeff⟩ }

def store (ptr : BitVec 7) (x : Sample) : Lane := { l with state := Function.update l.state ptr x }

def feed (x coeff : Sample) : Lane := { l with macData := x, macCoeff := coeff }

def emit (acc : BitVec 48) : Lane := { l with out := acc.extractLsb' 30 18 }

end Lane

namespace FirDecimate

variable (cfg : FirConfig) (s : FirDecimate) (c : FirCycle)

def inReady : Bool := s.fsmState == .idle && (!s.outValid || c.outReady)

def accepts : Bool := c.inValid && s.inReady c

def gives : Bool := s.outValid && c.outReady

def clock : FirDecimate :=
  { s with
    coeffMem := match c.coeffWr with
      | none => s.coeffMem
      | some (addr, wdata) => Function.update s.coeffMem addr (wdata.extractLsb' 0 18)
    i := s.i.clock s.macClear s.macEn
    q := s.q.clock s.macClear s.macEn
    macClear := false
    macEn := false
    outValid := s.outValid && !c.outReady }

def store : FirDecimate :=
  { s.clock c with
    i := (s.clock c).i.store s.stateWrPtr c.iIn
    q := (s.clock c).q.store s.stateWrPtr c.qIn
    fsmState := .skip
    stateWrPtr := if s.stateWrPtr = cfg.tapCount - 1 then 0 else s.stateWrPtr + 1
    decimCnt := if cfg.decimRatio - 1 ≤ s.decimCnt then 0 else s.decimCnt + 1 }

def launch : FirDecimate :=
  { s.store cfg c with
    fsmState := .compute
    tapIdx := 0
    stateRdPtr := s.stateWrPtr
    macClear := true
    macEn := true
    i := (s.store cfg c).i.feed c.iIn (s.coeffMem 0)
    q := (s.store cfg c).q.feed c.qIn (s.coeffMem 0)
    computeDone := false
    macPipelineCnt := 0 }

def walk : FirDecimate :=
  { s.clock c with
    tapIdx := s.tapIdx + 1
    stateRdPtr := if s.stateRdPtr = 0 then cfg.tapCount - 1 else s.stateRdPtr - 1
    macEn := true
    i := (s.clock c).i.feed (s.i.state s.stateRdPtr) (s.coeffMem (s.tapIdx + 1))
    q := (s.clock c).q.feed (s.q.state s.stateRdPtr) (s.coeffMem (s.tapIdx + 1)) }

def finish : FirDecimate :=
  { s.clock c with
    tapIdx := s.tapIdx + 1
    stateRdPtr := if s.stateRdPtr = 0 then cfg.tapCount - 1 else s.stateRdPtr - 1
    computeDone := true
    macPipelineCnt := 1 }

def flush : FirDecimate :=
  { s.clock c with
    macPipelineCnt := s.macPipelineCnt + 1
    fsmState := if 4 ≤ s.macPipelineCnt then .output else .compute }

def emit : FirDecimate :=
  { s.clock c with
    i := (s.clock c).i.emit s.i.mac.accumulator
    q := (s.clock c).q.emit s.q.mac.accumulator
    outValid := true
    fsmState := .idle }

def step : FirDecimate :=
  match s.fsmState with
  | .idle =>
    if s.accepts c then if s.decimCnt = 0 then s.launch cfg c else s.store cfg c
    else s.clock c
  | .compute =>
    if s.computeDone then s.flush c
    else if cfg.tapCount ≤ s.tapIdx + 1 then s.finish cfg c
    else s.walk cfg c
  | .output => s.emit c
  | .skip | .load => { s.clock c with fsmState := .idle }

def start (coeff : BitVec 7 → Sample) : FirDecimate where
  coeffMem := coeff
  i := { state := fun _ => 0 }
  q := { state := fun _ => 0 }

end FirDecimate

structure FirLog where
  fir : FirDecimate
  accepted : List (Sample × Sample)
  taken : List (Sample × Sample)

namespace FirLog

def step (cfg : FirConfig) (l : FirLog) (c : FirCycle) : FirLog where
  fir := l.fir.step cfg c
  accepted := l.accepted ++ if l.fir.accepts c then [(c.iIn, c.qIn)] else []
  taken := l.taken ++ if l.fir.gives c then [(l.fir.i.out, l.fir.q.out)] else []

def start (coeff : BitVec 7 → Sample) : FirLog where
  fir := .start coeff
  accepted := []
  taken := []

end FirLog

/-! ## The outputs of a filter -/

namespace Filter

variable (xs : List Sample)

@[local grind]
def sampleAt (n k : ℕ) : Sample := if k ≤ n then xs.getD (n - k) 0 else 0

variable (delay : ℕ → ℕ)

def filtered (cfg : FirConfig) (coeff : BitVec 7 → Sample) (xs : List Sample) (n : ℕ) : Sample :=
  (FirMac.total (fun k => sampleAt xs n (delay k)) (fun k => coeff (BitVec.ofNat 7 k))
    cfg.tapCount.toNat).extractLsb' 30 18

variable (cfg : FirConfig)

@[local grind]
def outputCount (n : ℕ) : ℕ := (n + cfg.decimRatio.toNat - 1) / cfg.decimRatio.toNat

def outputs (cfg : FirConfig) (coeff : BitVec 7 → Sample)
    (xs : List (Sample × Sample)) : List (Sample × Sample) :=
  (List.range (outputCount cfg xs.length)).map fun j =>
    (filtered delay cfg coeff (xs.map Prod.fst) (j * cfg.decimRatio.toNat),
      filtered delay cfg coeff (xs.map Prod.snd) (j * cfg.decimRatio.toNat))

@[local grind]
def back (k : ℕ) : Sample := xs.reverse.getD k 0

@[simp] lemma back_snoc_zero (x : Sample) : back (xs ++ [x]) 0 = x := by
  simp [back]

@[simp] lemma back_snoc_succ (x : Sample) (k : ℕ) :
    back (xs ++ [x]) (k + 1) = back xs k := by simp [back]

variable {xs : List Sample} {n : ℕ}

lemma sampleAt_last (hn : xs.length = n + 1) (k : ℕ) : sampleAt xs n k = back xs k := by grind

lemma sampleAt_append (hn : n < xs.length) (ys : List Sample) (k : ℕ) :
    sampleAt (xs ++ ys) n k = sampleAt xs n k := by grind

variable {cfg : FirConfig}

lemma filtered_append {delay : ℕ → ℕ} {coeff : BitVec 7 → Sample}
    (hn : n < xs.length) (ys : List Sample) :
    filtered delay cfg coeff (xs ++ ys) n = filtered delay cfg coeff xs n := by
  simp only [filtered, sampleAt_append hn]

lemma outputCount_succ (n : ℕ) : outputCount cfg (n + 1) =
      outputCount cfg n + if cfg.decimRatio.toNat ∣ n then 1 else 0 := by
  have hpos := cfg.decimRatio_pos
  have hnext : n + 1 + cfg.decimRatio.toNat - 1 = n + cfg.decimRatio.toNat - 1 + 1 := by omega
  grind [Nat.succ_div, Nat.dvd_add_self_right]

lemma mul_lt_of_lt_outputCount {j n : ℕ} (h : j < outputCount cfg n) :
    j * cfg.decimRatio.toNat < n := by grind [Nat.le_div_iff_mul_le]

lemma outputCount_mul (h : cfg.decimRatio.toNat ∣ n) :
    outputCount cfg n * cfg.decimRatio.toNat = n := by
  have hpos := cfg.decimRatio_pos
  obtain ⟨j, rfl⟩ := h
  have hcount : outputCount cfg (cfg.decimRatio.toNat * j) = j := by
    rw [outputCount, Nat.add_sub_assoc hpos, Nat.mul_add_div hpos,
      Nat.div_eq_of_lt (by omega), Nat.add_zero]
  rw [hcount, Nat.mul_comm]

lemma outputs_snoc (cfg : FirConfig) (coeff : BitVec 7 → Sample)
    (xs : List (Sample × Sample)) (x : Sample × Sample) :
    outputs delay cfg coeff (xs ++ [x]) = outputs delay cfg coeff xs ++
      if cfg.decimRatio.toNat ∣ xs.length then
        [(filtered delay cfg coeff ((xs ++ [x]).map Prod.fst) xs.length,
          filtered delay cfg coeff ((xs ++ [x]).map Prod.snd) xs.length)]
      else [] := by
  have hold : (range (outputCount cfg xs.length)).map (fun j =>
      (filtered delay cfg coeff ((xs ++ [x]).map Prod.fst) (j * cfg.decimRatio.toNat),
        filtered delay cfg coeff ((xs ++ [x]).map Prod.snd) (j * cfg.decimRatio.toNat))) =
      outputs delay cfg coeff xs := by
    refine map_congr_left fun j hj => ?_
    have hlt := mul_lt_of_lt_outputCount (mem_range.mp hj)
    rw [map_append, map_append, filtered_append (by rwa [length_map]),
      filtered_append (by rwa [length_map])]
  rw [outputs, length_append, length_singleton, outputCount_succ]
  split
  next hdvd =>
    rw [range_succ, map_append, hold, map_singleton, outputCount_mul hdvd]
  grind

end Filter

/-! ## The delay line and the computation -/

open FirDecimate

namespace FirLog

open Gateware.Filter

section Lanes

variable (cfg : FirConfig)

/-- The latest samples stand in the delay line, walking backwards from the last one
stored. -/
@[local grind]
def Delayed (xs : List Sample) (state : BitVec 7 → Sample) : Prop :=
  ∀ k < cfg.tapCount.toNat, ∀ p : BitVec 7,
    p.toNat = (xs.length + cfg.tapCount.toNat - 1 - k) % cfg.tapCount.toNat → state p = back xs k

variable {xs : List Sample}

lemma Delayed.store {cfg : FirConfig} {state : BitVec 7 → Sample}
    (h : Delayed cfg xs state) {ptr : BitVec 7} (hptr : ptr.toNat = xs.length % cfg.tapCount.toNat)
    (x : Sample) : Delayed cfg (xs ++ [x]) (Function.update state ptr x) := by
  intro k hk p hp
  rw [length_append, length_singleton] at hp
  cases k with
  | zero =>
    have heq : p = ptr := by
      rw [← BitVec.toNat_inj, hp, hptr, ← Nat.add_mod_right xs.length cfg.tapCount.toNat]
      congr 1
      omega
    rw [heq, Function.update_self, back_snoc_zero]
  | succ k =>
    have hidx : xs.length + 1 + cfg.tapCount.toNat - 1 - (k + 1) =
        xs.length + (cfg.tapCount.toNat - 1 - k) := by omega
    have hne : p ≠ ptr := by
      rintro rfl
      rw [hidx, hptr] at hp
      have hmod : xs.length + (cfg.tapCount.toNat - 1 - k) ≡ xs.length + 0
          [MOD cfg.tapCount.toNat] := hp.symm
      have hzero := Nat.ModEq.add_left_cancel' _ hmod
      rw [Nat.ModEq, Nat.mod_eq_of_lt (by omega), Nat.zero_mod] at hzero
      omega
    grind [Filter.back_snoc_succ]

variable (coeff : BitVec 7 → Sample)

/-- The operands of the computation for the last of the samples: the latest sample
stands at the first and at the second tap. -/
def operand (xs : List Sample) (k : ℕ) : Sample := back xs k.pred

/-- The multiply-accumulate unit after `t` cycles of the computation. -/
structure LaneBusy (xs : List Sample) (t : ℕ) (l : Lane) : Prop where
  fed : l.mac.Fed (operand xs) (fun k => coeff (BitVec.ofNat 7 k)) cfg.tapCount.toNat t
  operands : t < cfg.tapCount.toNat → l.macData = operand xs t ∧ l.macCoeff = coeff (BitVec.ofNat 7 t)

lemma LaneBusy.start (xs : List Sample) (x : Sample) (l : Lane) :
    LaneBusy cfg coeff (xs ++ [x]) 0 (l.feed x (coeff 0)) where
  fed := FirMac.fed_zero _ _ _ _
  operands _ := ⟨by simp [Lane.feed, operand], rfl⟩

variable {l : Lane} {t : ℕ}

lemma LaneBusy.out {n : ℕ}
    (h : LaneBusy cfg coeff xs t l) (ht : cfg.tapCount.toNat + 2 ≤ t) (hn : xs.length = n + 1) :
    l.mac.accumulator.extractLsb' 30 18 = filtered Nat.pred cfg coeff xs n := by
  rw [h.fed.accumulator_eq ht cfg.tapCount_pos, filtered]
  simp only [sampleAt_last hn]
  rfl

variable {clear en : Bool}

section

variable (h : LaneBusy cfg coeff xs t l) (hclear : clear = decide (t = 0)) (hen : en = decide (t < cfg.tapCount.toNat))
include h hclear hen

lemma LaneBusy.clock : (l.clock clear en).mac.Fed (operand xs) (fun k => coeff (BitVec.ofNat 7 k))
      cfg.tapCount.toNat (t + 1) := h.fed.step cfg.tapCount_pos hclear hen h.operands

lemma LaneBusy.feed {x y : Sample} (hx : x = operand xs (t + 1))
    (hy : y = coeff (BitVec.ofNat 7 (t + 1))) :
    LaneBusy cfg coeff xs (t + 1) ((l.clock clear en).feed x y) where
  fed := h.clock cfg coeff hclear hen
  operands _ := ⟨hx, hy⟩

lemma LaneBusy.flush (ht : cfg.tapCount.toNat ≤ t + 1) :
    LaneBusy cfg coeff xs (t + 1) (l.clock clear en) where
  fed := h.clock cfg coeff hclear hen
  operands hlt := absurd hlt (by omega)

end

end Lanes

/-! ## Invariant -/

section Invariant

variable (cfg : FirConfig) (coeff : BitVec 7 → Sample)

/-- The memories and counters after the samples `xs`. -/
structure Stored (xs : List (Sample × Sample)) (s : FirDecimate) : Prop where
  coeffMem : s.coeffMem = coeff
  stateWrPtr : s.stateWrPtr.toNat = xs.length % cfg.tapCount.toNat
  decimCnt : s.decimCnt.toNat = xs.length % cfg.decimRatio.toNat
  delayedI : Delayed cfg (xs.map Prod.fst) s.i.state
  delayedQ : Delayed cfg (xs.map Prod.snd) s.q.state

/-- The control registers after `t` cycles of a computation: the taps are walked
through, then the pipeline is flushed, and the output is written in the last cycle. -/
structure Busy (xs : List (Sample × Sample)) (t : ℕ) (s : FirDecimate) : Prop where
  le : t ≤ cfg.tapCount.toNat + 4
  fsmState : s.fsmState = if t < cfg.tapCount.toNat + 4 then .compute else .output
  walking : t < cfg.tapCount.toNat → s.computeDone = false ∧ s.tapIdx.toNat = t ∧
    s.stateRdPtr.toNat = (xs.length + cfg.tapCount.toNat - 1 - t) % cfg.tapCount.toNat
  flushing : cfg.tapCount.toNat ≤ t → t < cfg.tapCount.toNat + 4 →
    s.computeDone ∧ s.macPipelineCnt.toNat = t + 1 - cfg.tapCount.toNat
  macClear : s.macClear = decide (t = 0)
  macEn : s.macEn = decide (t < cfg.tapCount.toNat)
  outValid : s.outValid = false
  laneI : LaneBusy cfg coeff (xs.map Prod.fst) t s.i
  laneQ : LaneBusy cfg coeff (xs.map Prod.snd) t s.q

/-- What the machine is doing; `left` cycles bring it to rest when no further sample
comes and the outputs are taken. -/
inductive Phase (xs taken : List (Sample × Sample)) (s : FirDecimate) : ℕ → Prop
  | rest (hfsm : s.fsmState = .idle) (hout : s.outValid = false)
      (htaken : taken = outputs Nat.pred cfg coeff xs) : Phase xs taken s 0
  | offer (hfsm : s.fsmState = .idle) (hout : s.outValid)
      (htaken : taken ++ [(s.i.out, s.q.out)] = outputs Nat.pred cfg coeff xs) : Phase xs taken s 1
  | skip (hfsm : s.fsmState = .skip) (hout : s.outValid = false)
      (htaken : taken = outputs Nat.pred cfg coeff xs) : Phase xs taken s 1
  | busy (t n : ℕ) (hn : xs.length = n + 1) (hbusy : Busy cfg coeff xs t s)
      (htaken : taken ++ [(filtered Nat.pred cfg coeff (xs.map Prod.fst) n,
          filtered Nat.pred cfg coeff (xs.map Prod.snd) n)] = outputs Nat.pred cfg coeff xs) :
      Phase xs taken s (cfg.tapCount.toNat + 6 - t)

end Invariant

section Steps

variable {cfg : FirConfig} {coeff : BitVec 7 → Sample} {s : FirDecimate} {c : FirCycle}
  {xs taken : List (Sample × Sample)}

lemma succ_mod_eq {n k : ℕ} (hk : 0 < k) :
    (n + 1) % k = if n % k = k - 1 then 0 else n % k + 1 := by
  have hlt := Nat.mod_lt n hk
  rw [← Nat.mod_add_mod]
  split
  next heq => rw [heq, Nat.sub_add_cancel hk, Nat.mod_self]
  next hne => exact Nat.mod_eq_of_lt (by omega)

lemma coeffMem_clock (hwr : c.coeffWr = none) : (s.clock c).coeffMem = s.coeffMem := by
  rw [clock, hwr]

lemma Stored.stay (h : Stored cfg coeff xs s) (hwr : c.coeffWr = none)
    (hacc : s.accepts c = false) : Stored cfg coeff xs (s.step cfg c) := by
  have hcoeff := (coeffMem_clock (s := s) hwr).trans h.coeffMem
  have hptr := h.stateWrPtr
  have hcnt := h.decimCnt
  have hi := h.delayedI
  have hq := h.delayedQ
  unfold FirDecimate.step
  rw [hacc]
  split
  · exact ⟨hcoeff, hptr, hcnt, hi, hq⟩
  · split_ifs <;> exact ⟨hcoeff, hptr, hcnt, hi, hq⟩
  all_goals exact ⟨hcoeff, hptr, hcnt, hi, hq⟩

lemma Stored.counters (h : Stored cfg coeff xs s) :
    (if s.stateWrPtr = cfg.tapCount - 1 then 0 else s.stateWrPtr + 1).toNat =
        (xs.length + 1) % cfg.tapCount.toNat ∧
      (if cfg.decimRatio - 1 ≤ s.decimCnt then 0 else s.decimCnt + 1).toNat =
        (xs.length + 1) % cfg.decimRatio.toNat := by
  have htap := cfg.tapCount_pos
  have hratio := cfg.decimRatio_pos
  have hptr := h.stateWrPtr
  have hcnt := h.decimCnt
  have hptrlt := Nat.mod_lt xs.length htap
  have hcntlt := Nat.mod_lt xs.length hratio
  rw [succ_mod_eq htap, succ_mod_eq hratio, ← hptr, ← hcnt]
  rw [← hptr] at hptrlt
  rw [← hcnt] at hcntlt
  constructor
  · split_ifs <;> bv_omega
  · split_ifs <;> bv_omega

lemma idle_of_accepts (hacc : s.accepts c) : s.fsmState = .idle := by
  simp only [accepts, inReady, Bool.and_eq_true, beq_iff_eq] at hacc
  exact hacc.2.1

lemma Stored.accept (h : Stored cfg coeff xs s) (hwr : c.coeffWr = none)
    (hacc : s.accepts c) : Stored cfg coeff (xs ++ [(c.iIn, c.qIn)]) (s.step cfg c) := by
  obtain ⟨hptr, hcnt⟩ := h.counters
  have hcoeff := (coeffMem_clock (s := s) hwr).trans h.coeffMem
  have hi := h.delayedI.store (by rw [length_map]; exact h.stateWrPtr) c.iIn
  have hq := h.delayedQ.store (by rw [length_map]; exact h.stateWrPtr) c.qIn
  have hlen : (xs ++ [(c.iIn, c.qIn)]).length = xs.length + 1 := by simp
  rw [← hlen] at hptr hcnt
  rw [FirDecimate.step, idle_of_accepts hacc]
  simp only [hacc, if_true]
  split_ifs
  · exact ⟨hcoeff, hptr, hcnt, by rw [map_append]; exact hi, by rw [map_append]; exact hq⟩
  · exact ⟨hcoeff, hptr, hcnt, by rw [map_append]; exact hi, by rw [map_append]; exact hq⟩

lemma Stored.launch (h : Stored cfg coeff xs s) (hout : (s.outValid && !c.outReady) = false) :
    Busy cfg coeff (xs ++ [(c.iIn, c.qIn)]) 0 (s.launch cfg c) where
  le := Nat.zero_le _
  fsmState := by rw [if_pos (by omega)]; rfl
  walking _ := by
    refine ⟨rfl, rfl, ?_⟩
    have hlen : (xs ++ [(c.iIn, c.qIn)]).length + cfg.tapCount.toNat - 1 - 0 =
        xs.length + cfg.tapCount.toNat := by
      rw [length_append, length_singleton]
      omega
    rw [hlen, Nat.add_mod_right]
    exact h.stateWrPtr
  flushing hle := absurd hle (by have := cfg.tapCount_pos; omega)
  macClear := rfl
  macEn := by rw [decide_eq_true cfg.tapCount_pos]; rfl
  outValid := hout
  laneI := by
    rw [map_append, ← h.coeffMem]
    exact .start cfg _ _ c.iIn _
  laneQ := by
    rw [map_append, ← h.coeffMem]
    exact .start cfg _ _ c.qIn _

section Compute

variable {t : ℕ}

section

variable (h : Busy cfg coeff xs t s)
include h

lemma Busy.not_accepts (c : FirCycle) : s.accepts c = false := by
  have hfsm := h.fsmState
  grind [accepts, inReady]

lemma Busy.tapIdx (ht : t < cfg.tapCount.toNat) :
    (s.tapIdx + 1).toNat = t + 1 ∧ s.tapIdx + 1 = BitVec.ofNat 7 (t + 1) := by
  obtain ⟨-, hidx, -⟩ := h.walking ht
  have hlt := cfg.tapCount.isLt
  have hnat : (s.tapIdx + 1).toNat = t + 1 := by bv_omega
  grind

lemma Busy.rdPtr (ht : t + 1 < cfg.tapCount.toNat) :
    (if s.stateRdPtr = 0 then cfg.tapCount - 1 else s.stateRdPtr - 1).toNat =
      (xs.length + cfg.tapCount.toNat - 1 - (t + 1)) % cfg.tapCount.toNat := by
  obtain ⟨-, -, hptr⟩ := h.walking (by omega)
  have hnext : xs.length + cfg.tapCount.toNat - 1 - t =
      xs.length + cfg.tapCount.toNat - 1 - (t + 1) + 1 := by omega
  have hlt := Nat.mod_lt (xs.length + cfg.tapCount.toNat - 1 - (t + 1)) cfg.tapCount_pos
  rw [hnext, succ_mod_eq cfg.tapCount_pos] at hptr
  split at hptr
  next heq => rw [heq, if_pos (by bv_omega)]; bv_omega
  next hne => rw [if_neg (by bv_omega)]; bv_omega

lemma Busy.walk (hs : Stored cfg coeff xs s)
    (ht : t + 1 < cfg.tapCount.toNat) : Busy cfg coeff xs (t + 1) (s.walk cfg c) where
  le := by omega
  fsmState := by
    rw [if_pos (by omega), FirDecimate.walk, FirDecimate.clock, h.fsmState, if_pos (by omega)]
  walking _ := ⟨(h.walking (by omega)).1, (h.tapIdx (by omega)).1, h.rdPtr ht⟩
  flushing hle := absurd hle (by omega)
  macClear := rfl
  macEn := by rw [decide_eq_true ht]; rfl
  outValid := by rw [FirDecimate.walk, FirDecimate.clock, h.outValid]; rfl
  laneI := by
    have hptr := (h.walking (by omega)).2.2
    refine h.laneI.feed cfg coeff h.macClear h.macEn ?_ ?_
    · exact hs.delayedI t (by omega) s.stateRdPtr (by rwa [length_map])
    · rw [hs.coeffMem, (h.tapIdx (by omega)).2]
  laneQ := by
    have hptr := (h.walking (by omega)).2.2
    refine h.laneQ.feed cfg coeff h.macClear h.macEn ?_ ?_
    · exact hs.delayedQ t (by omega) s.stateRdPtr (by rwa [length_map])
    · rw [hs.coeffMem, (h.tapIdx (by omega)).2]

lemma Busy.finish (ht : t + 1 = cfg.tapCount.toNat) :
    Busy cfg coeff xs (t + 1) (s.finish cfg c) where
  le := by omega
  fsmState := by
    rw [if_pos (by omega), FirDecimate.finish, FirDecimate.clock, h.fsmState, if_pos (by omega)]
  walking hlt := absurd hlt (by omega)
  flushing _ _ := ⟨rfl, by rw [ht, Nat.add_sub_cancel_left]; rfl⟩
  macClear := rfl
  macEn := by rw [decide_eq_false (by omega)]; rfl
  outValid := by rw [FirDecimate.finish, FirDecimate.clock, h.outValid]; rfl
  laneI := h.laneI.flush cfg coeff h.macClear h.macEn (by omega)
  laneQ := h.laneQ.flush cfg coeff h.macClear h.macEn (by omega)

lemma Busy.flush (ht : cfg.tapCount.toNat ≤ t)
    (hlt : t < cfg.tapCount.toNat + 4) : Busy cfg coeff xs (t + 1) (s.flush c) where
  le := by omega
  fsmState := by
    have hcnt := (h.flushing ht hlt).2
    rw [FirDecimate.flush]
    by_cases hlast : t + 1 < cfg.tapCount.toNat + 4
    · rw [if_pos hlast, if_neg (by bv_omega)]
    · rw [if_neg hlast, if_pos (by bv_omega)]
  walking hwalk := absurd hwalk (by omega)
  flushing _ _ := by
    obtain ⟨hdone, hcnt⟩ := h.flushing ht hlt
    refine ⟨hdone, ?_⟩
    rw [FirDecimate.flush]
    bv_omega
  macClear := rfl
  macEn := by rw [decide_eq_false (by omega)]; rfl
  outValid := by rw [FirDecimate.flush, FirDecimate.clock, h.outValid]; rfl
  laneI := h.laneI.flush cfg coeff h.macClear h.macEn (by omega)
  laneQ := h.laneQ.flush cfg coeff h.macClear h.macEn (by omega)

lemma Busy.step (hs : Stored cfg coeff xs s)
    (hlt : t < cfg.tapCount.toNat + 4) : Busy cfg coeff xs (t + 1) (s.step cfg c) := by
  have hfsm : s.fsmState = .compute := by rw [h.fsmState, if_pos hlt]
  rw [FirDecimate.step, hfsm]
  by_cases ht : t < cfg.tapCount.toNat
  · have hidx := (h.tapIdx ht).1
    simp only [(h.walking ht).1, Bool.false_eq_true, if_false]
    split
    next hle =>
      rw [BitVec.le_def, hidx] at hle
      exact h.finish (by omega)
    next hle =>
      rw [BitVec.le_def, hidx] at hle
      exact h.walk hs (by omega)
  · simp only [(h.flushing (by omega) hlt).1, if_true]
    exact h.flush (by omega) hlt

end

end Compute

end Steps

/-! ## Runs -/

section Runs

variable {cfg : FirConfig} {coeff : BitVec 7 → Sample}

/-- The invariant. -/
@[local grind]
structure Inv (cfg : FirConfig) (coeff : BitVec 7 → Sample) (left : ℕ) (l : FirLog) : Prop where
  stored : Stored cfg coeff l.accepted l.fir
  phase : Phase cfg coeff l.accepted l.taken l.fir left

lemma start_inv (cfg : FirConfig) (coeff : BitVec 7 → Sample) : Inv cfg coeff 0 (start coeff) := by
  refine ⟨⟨rfl, (Nat.zero_mod _).symm, (Nat.zero_mod _).symm, fun _ _ _ _ => rfl,
    fun _ _ _ _ => rfl⟩, .rest rfl rfl ?_⟩
  have hnone : outputCount cfg 0 = 0 :=
    Nat.div_eq_of_lt (by have := cfg.decimRatio_pos; omega)
  change [] = (range (outputCount cfg 0)).map _
  rw [hnone]
  rfl

section Cycle

variable {s : FirDecimate} {c : FirCycle} {xs taken : List (Sample × Sample)}

lemma accepts_of_inValid (hvalid : c.inValid = false) : s.accepts c = false := by
  rw [accepts, hvalid, Bool.false_and]

lemma Stored.decimCnt_eq_zero (hs : Stored cfg coeff xs s) :
    s.decimCnt = 0 ↔ cfg.decimRatio.toNat ∣ xs.length := by
  rw [← BitVec.toNat_inj, hs.decimCnt, Nat.dvd_iff_mod_eq_zero]
  rfl

lemma step_idle (hfsm : s.fsmState = .idle) :
    s.step cfg c = if s.accepts c then if s.decimCnt = 0 then s.launch cfg c else s.store cfg c
      else s.clock c := by rw [FirDecimate.step, hfsm]

/-- At rest, or when the pending output is taken in this cycle, a sample starts a
computation or is skipped. -/
lemma Stored.idle_step (hs : Stored cfg coeff xs s) (hfsm : s.fsmState = .idle)
    (hout : (s.outValid && !c.outReady) = false) (htaken : taken = outputs Nat.pred cfg coeff xs) :
    ∃ left, Phase cfg coeff (xs ++ if s.accepts c then [(c.iIn, c.qIn)] else []) taken
      (s.step cfg c) left ∧ (c.inValid = false → left = 0) := by
  have hsnoc := outputs_snoc Nat.pred cfg coeff xs (c.iIn, c.qIn)
  rw [← htaken] at hsnoc
  rw [step_idle hfsm]
  cases hacc : s.accepts c with
  | false =>
    refine ⟨0, .rest hfsm hout ?_, fun _ => rfl⟩
    simpa using htaken
  | true =>
    have hvalid : c.inValid ≠ false := fun hv => by simp [accepts_of_inValid hv] at hacc
    simp only [if_true]
    by_cases hcnt : s.decimCnt = 0
    · rw [if_pos hcnt]
      rw [if_pos (hs.decimCnt_eq_zero.mp hcnt)] at hsnoc
      exact ⟨_, .busy 0 xs.length (by simp) (hs.launch hout) hsnoc.symm,
        fun hv => absurd hv hvalid⟩
    · rw [if_neg hcnt]
      rw [if_neg (mt hs.decimCnt_eq_zero.mpr hcnt), append_nil] at hsnoc
      exact ⟨_, .skip rfl hout hsnoc.symm, fun hv => absurd hv hvalid⟩

lemma Busy.emit {n : ℕ} (h : Busy cfg coeff xs (cfg.tapCount.toNat + 4) s)
    (hn : xs.length = n + 1) : (s.step cfg c).fsmState = .idle ∧ (s.step cfg c).outValid ∧
      (s.step cfg c).i.out = filtered Nat.pred cfg coeff (xs.map Prod.fst) n ∧
      (s.step cfg c).q.out = filtered Nat.pred cfg coeff (xs.map Prod.snd) n := by
  have hfsm : s.fsmState = .output := by rw [h.fsmState, if_neg (by omega)]
  rw [FirDecimate.step, hfsm]
  exact ⟨rfl, rfl, h.laneI.out cfg coeff (by omega) (by rwa [length_map]),
    h.laneQ.out cfg coeff (by omega) (by rwa [length_map])⟩

end Cycle

variable {left : ℕ} {l : FirLog}

lemma Inv.step {c : FirCycle} (h : Inv cfg coeff left l) (hwr : c.coeffWr = none) :
    ∃ left', Inv cfg coeff left' (l.step cfg c) ∧
      (c.inValid = false → c.outReady → left' = left - 1) := by
  obtain ⟨hs, hphase⟩ := h
  have hstored : Stored cfg coeff (l.step cfg c).accepted (l.step cfg c).fir := by
    grind [FirLog.step, Stored.stay, Stored.accept]
  cases hphase with
  | rest hfsm hout htaken =>
    obtain ⟨left', hnext, hleft⟩ := hs.idle_step (c := c) hfsm (by rw [hout]; rfl) htaken
    refine ⟨left', ⟨hstored, ?_⟩, fun hv _ => hleft hv⟩
    simpa [FirLog.step, gives, hout] using hnext
  | offer hfsm hout htaken =>
    cases hready : c.outReady with
    | true =>
      obtain ⟨left', hnext, hleft⟩ :=
        hs.idle_step (c := c) hfsm (by rw [hout, hready]; rfl) htaken
      refine ⟨left', ⟨hstored, ?_⟩, fun hv _ => hleft hv⟩
      grind [FirLog.step, gives]
    | false =>
      have hacc : l.fir.accepts c = false := by
        simp [accepts, inReady, hout, hready]
      refine ⟨1, ⟨hstored, .offer ?_ ?_ ?_⟩, by simp⟩
      all_goals grind [FirLog.step, step_idle, clock, Lane.clock, gives]
  | skip hfsm hout htaken =>
    have hacc : l.fir.accepts c = false := by
      simp [accepts, inReady, hfsm]
    refine ⟨0, ⟨hstored, .rest ?_ ?_ ?_⟩, fun _ _ => rfl⟩
    all_goals grind [FirLog.step, FirDecimate.step, FirDecimate.clock, FirDecimate.gives]
  | busy t n hn hbusy htaken =>
    have hacc := hbusy.not_accepts c
    have hxs : (l.step cfg c).accepted = l.accepted := by simp [FirLog.step, hacc]
    have hgive : (l.step cfg c).taken = l.taken := by
      simp [FirLog.step, gives, hbusy.outValid]
    by_cases hlt : t < cfg.tapCount.toNat + 4
    · refine ⟨cfg.tapCount.toNat + 6 - (t + 1), ⟨hstored, ?_⟩, fun _ _ => by omega⟩
      rw [hxs, hgive]
      exact .busy (t + 1) n hn (hbusy.step hs hlt) htaken
    · obtain rfl : t = cfg.tapCount.toNat + 4 := by have := hbusy.le; omega
      obtain ⟨hfsm, hout, hi, hq⟩ := hbusy.emit (c := c) hn
      refine ⟨1, ⟨hstored, ?_⟩, fun _ _ => by omega⟩
      rw [hxs, hgive]
      refine .offer hfsm hout ?_
      rw [← htaken]
      simp only [FirLog.step, hi, hq]

variable {cycles : List FirCycle}

lemma run_inv (h : Inv cfg coeff left l) (hwr : ∀ c ∈ cycles, c.coeffWr = none) :
    ∃ left', Inv cfg coeff left' (run (step cfg) l cycles) := by
  induction cycles generalizing left l with
  | nil => exact ⟨left, h⟩
  | cons c rest ih =>
    obtain ⟨left', h', -⟩ := h.step (hwr c (mem_cons_self))
    exact ih h' fun c' hc' => hwr c' (mem_cons_of_mem _ hc')

def drain : FirCycle where
  iIn := 0
  qIn := 0
  inValid := false
  outReady := true

lemma accepted_drain (l : FirLog) : (l.step cfg drain).accepted = l.accepted := by
  rw [step, accepts_of_inValid rfl]
  exact append_nil _

lemma Inv.drained (h : Inv cfg coeff left l) :
    ∀ n, left ≤ n → Inv cfg coeff 0 (run (FirLog.step cfg) l (List.replicate n drain)) ∧
      (run (FirLog.step cfg) l (List.replicate n drain)).accepted = l.accepted := by
  intro n
  induction n generalizing left l with
  | zero =>
    intro hle
    obtain rfl : left = 0 := by omega
    exact ⟨h, rfl⟩
  | succ n ih =>
    intro hle
    obtain ⟨left', h', hleft⟩ := h.step (c := drain) rfl
    have hnext := ih h' (by have := hleft rfl rfl; omega)
    rw [accepted_drain] at hnext
    exact hnext

/-- What is expected of a run with the given delays: the outputs taken are the first
ones, at most one is still to come, and with no further sample and a ready reader it
comes. -/
@[local grind]
def Decimates (delay : ℕ → ℕ) (cfg : FirConfig) (coeff : BitVec 7 → Sample)
    (cycles : List FirCycle) : Prop :=
  let l := run (step cfg) (start coeff) cycles
  l.taken <+: outputs delay cfg coeff l.accepted ∧
    (outputs delay cfg coeff l.accepted).length ≤ l.taken.length + 1 ∧
    (run (step cfg) l (List.replicate (cfg.tapCount.toNat + 6) drain)).taken =
      outputs delay cfg coeff l.accepted

variable {xs taken : List (Sample × Sample)} {s : FirDecimate}

lemma Phase.front (h : Phase cfg coeff xs taken s left) : (taken <+: outputs Nat.pred cfg coeff xs ∧
      (outputs Nat.pred cfg coeff xs).length ≤ taken.length + 1) ∧
      left ≤ cfg.tapCount.toNat + 6 := by
  cases h with
  | rest _ _ htaken => exact ⟨⟨htaken ▸ prefix_refl _, by rw [htaken]; omega⟩, by omega⟩
  | offer _ _ htaken => exact ⟨⟨⟨_, htaken⟩, by rw [← htaken]; simp⟩, by omega⟩
  | skip _ _ htaken => exact ⟨⟨htaken ▸ prefix_refl _, by rw [htaken]; omega⟩, by omega⟩
  | busy t n _ _ htaken => exact ⟨⟨⟨_, htaken⟩, by rw [← htaken]; simp⟩, by omega⟩

lemma Phase.taken_of_rest
    (h : Phase cfg coeff xs taken s 0) : taken = outputs Nat.pred cfg coeff xs := by
  generalize hleft : 0 = left at h
  cases h with
  | rest _ _ htaken => exact htaken
  | offer => omega
  | skip => omega
  | busy t n _ hbusy _ =>
    have := hbusy.le
    omega

lemma decimates_shifted (cfg : FirConfig) (coeff : BitVec 7 → Sample)
    (hwr : ∀ c ∈ cycles, c.coeffWr = none) : Decimates Nat.pred cfg coeff cycles := by
  obtain ⟨left, h⟩ := run_inv (start_inv cfg coeff) hwr
  obtain ⟨⟨hlead, hlength⟩, hleft⟩ := h.phase.front
  obtain ⟨hrest, haccepted⟩ := h.drained _ hleft
  grind [Phase.taken_of_rest]

end Runs

/-! ## The intended filter -/

section Intended

variable {cfg : FirConfig}

lemma outputs_congr {delay delay' : ℕ → ℕ}
    (h : ∀ k < cfg.tapCount.toNat, delay k = delay' k) (coeff : BitVec 7 → Sample)
    (xs : List (Sample × Sample)) : outputs delay cfg coeff xs = outputs delay' cfg coeff xs := by
  have hfiltered : ∀ (ys : List Sample) (n : ℕ),
      filtered delay cfg coeff ys n = filtered delay' cfg coeff ys n := by
    intro ys n
    unfold filtered FirMac.total
    congr 2
    refine Finset.sum_congr rfl fun k hk => ?_
    simp only [h k (Finset.mem_range.mp hk)]
  simp only [outputs, hfiltered]

def secondTap (p : BitVec 7) : Sample := if p = 1 then 0x20000 else 0

def impulse : FirCycle where
  iIn := 0x20000
  qIn := 0
  inValid := true
  outReady := false

lemma accepted_impulse (cfg : FirConfig) (coeff : BitVec 7 → Sample) :
    (run (step cfg) (start coeff) [impulse]).accepted = [(0x20000, 0)] := rfl

lemma outputs_impulse (hcfg : 1 < cfg.tapCount.toNat) (delay : ℕ → ℕ) :
    (outputs delay cfg secondTap [(0x20000, 0)]).map Prod.fst =
      [if delay 1 = 0 then 16 else 0] := by
  have hcount : outputCount cfg 1 = 1 := by
    have hpos := cfg.decimRatio_pos
    rw [outputCount, Nat.add_sub_cancel_left, Nat.div_self hpos]
  have hsum : ∑ k ∈ Finset.range cfg.tapCount.toNat, (secondTap (BitVec.ofNat 7 k)).toInt *
      (sampleAt [0x20000] 0 (delay k)).toInt =
      (secondTap 1).toInt * (sampleAt [0x20000] 0 (delay 1)).toInt := by
    refine Finset.sum_eq_single_of_mem 1 (Finset.mem_range.mpr hcfg) fun k hk hne => ?_
    have hlt := cfg.tapCount.isLt
    have hk := Finset.mem_range.mp hk
    have hcoeff : secondTap (BitVec.ofNat 7 k) = 0 := if_neg (by bv_omega)
    rw [hcoeff]
    exact Int.zero_mul _
  have hout : filtered delay cfg secondTap [0x20000] 0 = if delay 1 = 0 then 16 else 0 := by
    rw [filtered, FirMac.total, hsum]
    unfold sampleAt
    rw [Nat.zero_sub]
    split_ifs with hle heq heq
    · decide
    · omega
    · omega
    · decide
  simp only [outputs, length_singleton, hcount, range_one, map_cons, map_nil, Nat.zero_mul, hout]

/-- With every coefficient, every stream and every timing one output comes for each of
the inputs 0, R, 2R, ..., none is lost or duplicated, and its delays are 0, 0, 1, 2, ...
They are the intended ones, for all coefficients and streams, exactly with one tap. -/
theorem decimates_iff (cfg : FirConfig) :
    (∀ (coeff : BitVec 7 → Sample) (cycles : List FirCycle), (∀ c ∈ cycles, c.coeffWr = none) →
        Decimates Nat.pred cfg coeff cycles) ∧
      ((∀ (coeff : BitVec 7 → Sample) (cycles : List FirCycle), (∀ c ∈ cycles, c.coeffWr = none) →
        Decimates id cfg coeff cycles) ↔ cfg.tapCount.toNat = 1) := by
  refine ⟨fun coeff cycles hwr => decimates_shifted cfg coeff hwr, fun hall => ?_, fun hone => ?_⟩
  · by_contra hne
    have hcfg : 1 < cfg.tapCount.toNat := by have := cfg.tapCount_pos; omega
    have hwr : ∀ c ∈ [impulse], c.coeffWr = none := by simp [impulse]
    obtain ⟨-, -, hid⟩ := hall secondTap [impulse] hwr
    obtain ⟨-, -, hpred⟩ := decimates_shifted cfg secondTap hwr
    have heq := congrArg (map Prod.fst) (hid.symm.trans hpred)
    rw [accepted_impulse, outputs_impulse hcfg, outputs_impulse hcfg] at heq
    exact absurd heq (by decide)
  · intro coeff cycles hwr
    have hdelay : ∀ k < cfg.tapCount.toNat, k.pred = id k := by
      intro k hk
      obtain rfl : k = 0 := by omega
      rfl
    have hshifted := decimates_shifted cfg coeff hwr
    grind [Decimates, outputs_congr]

/-- Two taps, the second coefficient and the first sample at the lowest value: the
output is 16 although the second tap meets no sample yet. -/
theorem second_tap_meets_first_sample :
    let cfg : FirConfig := ⟨2, 1, by decide, by decide⟩
    let l := run (step cfg) (start secondTap) (impulse :: replicate 8 drain)
    l.accepted = [(0x20000, 0)] ∧ l.taken = [(16, 0)] ∧
      outputs id cfg secondTap l.accepted = [(0, 0)] := by decide

end Intended

end FirLog

end HeimdallDaq.Gateware
