/-
  Gateware/FifoSync.lean --- the synchronous FIFO of the gateware.

  fifo_sync.v with `DEPTH = 2 ^ w`, one clock edge a step.
-/
import HeimdallDaq.Foundation.Ring
import HeimdallDaq.Foundation.Runs

namespace HeimdallDaq.Gateware

open Foundation

/-- The memory and the registers of `fifo_sync`. -/
structure Fifo (α : Type) (w : ℕ) where
  mem : Vector α (2 ^ w)
  wrPtr : BitVec (w + 1)
  rdPtr : BitVec (w + 1)
  rdDataReg : α
  rdValidPre : Bool

namespace Fifo

structure Cycle (α : Type) where
  wrData : α
  wrValid : Bool
  rdReady : Bool

variable {α : Type} {w : ℕ}

def addr (ptr : BitVec (w + 1)) : Fin (2 ^ w) := ⟨ptr.toNat % 2 ^ w, Nat.mod_lt _ (Nat.two_pow_pos w)⟩

variable (s : Fifo α w) (c : Cycle α)

def count : BitVec (w + 1) := s.wrPtr - s.rdPtr

def full : Bool := s.count == BitVec.ofNat (w + 1) (2 ^ w)

def empty : Bool := s.count == 0

def wrReady : Bool := !s.full

def rdValid : Bool := !s.empty

def rdData : α := s.mem.get (addr s.rdPtr)

def wrEn : Bool := c.wrValid && s.wrReady

def rdEn : Bool := s.rdValid && c.rdReady

def pops : Bool := (s.rdEn c || (!s.rdValidPre && !s.empty)) && !s.empty

def accepts : List α := if s.wrEn c then [c.wrData] else []

def gives : List α := if s.rdEn c then [s.rdData] else []

def reset : Fifo α w := { s with wrPtr := 0, rdPtr := 0, rdValidPre := false }

def step : Fifo α w where
  mem := if s.wrEn c then s.mem.set (addr s.wrPtr) c.wrData else s.mem
  wrPtr := if s.wrEn c then s.wrPtr + 1 else s.wrPtr
  rdPtr := if s.pops c then s.rdPtr + 1 else s.rdPtr
  rdDataReg := if s.pops c then s.mem.get (addr s.rdPtr) else s.rdDataReg
  rdValidPre := s.pops c

end Fifo

structure FifoLog (α : Type) (w : ℕ) where
  fifo : Fifo α w
  accepted : List α
  taken : List α

open Fifo

namespace FifoLog

open Fifo (addr)

variable {α : Type} {w : ℕ}

def step (l : FifoLog α w) (c : Fifo.Cycle α) : FifoLog α w where
  fifo := l.fifo.step c
  accepted := l.accepted ++ l.fifo.accepts c
  taken := l.taken ++ l.fifo.gives c

@[local grind]
def start (s : Fifo α w) : FifoLog α w where
  fifo := s.reset
  accepted := []
  taken := []

@[local grind]
def Transfers (l : FifoLog α w) : Prop :=
  l.taken <+: l.accepted ∧ l.fifo.count.toNat = l.accepted.length - l.taken.length ∧
    l.fifo.count.toNat ≤ 2 ^ w

@[local grind]
def Prompt (l : FifoLog α w) (c : Fifo.Cycle α) : Prop :=
  l.fifo.rdValid → l.fifo.rdValidPre = false → c.rdReady

/-! ## Popped words and the queue -/

/-- The queue stands in the memory from the read pointer on; `popped` are the words
that left it, each with a mark whether it was taken. -/
@[local grind]
structure Holds (l : FifoLog α w) (popped : List (α × Bool)) (queue : List α) : Prop where
  carries : Carries l.fifo.mem.toList l.fifo.rdPtr.toNat queue
  count : l.fifo.count.toNat = queue.length
  room : queue.length ≤ 2 ^ w
  accepted : l.accepted = popped.map Prod.fst ++ queue
  taken : l.taken = (popped.filter Prod.snd).map Prod.fst

lemma start_holds (s : Fifo α w) : (start s).Holds [] [] where
  carries := carries_nil _ _
  count := by simp [start, reset, count]
  room := Nat.zero_le _
  accepted := rfl
  taken := rfl

section Facts

variable {l : FifoLog α w} {popped : List (α × Bool)} {queue : List α}

lemma Holds.empty_iff (h : l.Holds popped queue) : l.fifo.empty ↔ queue = [] := by
  rw [empty, beq_iff_eq, ← BitVec.toNat_inj, h.count]
  exact List.length_eq_zero_iff

lemma Holds.full_iff (h : l.Holds popped queue) : l.fifo.full ↔ queue.length = 2 ^ w := by
  rw [full, beq_iff_eq, ← BitVec.toNat_inj, h.count, BitVec.toNat_ofNat,
    Nat.mod_eq_of_lt (Nat.pow_lt_pow_succ Nat.one_lt_two)]

lemma Holds.wrPtr (h : l.Holds popped queue) :
    l.fifo.wrPtr = l.fifo.rdPtr + BitVec.ofNat (w + 1) queue.length := by grind [Fifo.count]

lemma Holds.addr_wrPtr (h : l.Holds popped queue) :
    (addr l.fifo.wrPtr : ℕ) = (l.fifo.rdPtr.toNat + queue.length) % 2 ^ w := by
  have hdvd : 2 ^ w ∣ 2 ^ (w + 1) := Nat.pow_dvd_pow 2 (Nat.le_succ w)
  change l.fifo.wrPtr.toNat % 2 ^ w = _
  grind [Holds.wrPtr, Nat.mod_mod_of_dvd]

lemma Holds.rdData {x : α} (h : l.Holds popped (x :: queue)) : l.fifo.rdData = x := by
  have hhead := h.carries.head
  rw [Vector.length_toList, Vector.getElem?_toList, Vector.getElem?_eq_some_iff] at hhead
  exact hhead.2

lemma Holds.length_accepts (h : l.Holds popped queue) (c : Fifo.Cycle α) :
    queue.length + (l.fifo.accepts c).length ≤ 2 ^ w := by
  have hroom := h.room
  rw [accepts]
  split
  next hwr =>
    have hready : l.fifo.full = false := by
      simpa [wrReady] using (Bool.and_eq_true_iff.mp hwr).2
    have hne : queue.length ≠ 2 ^ w := fun heq => by simp [h.full_iff.mpr heq] at hready
    simp only [List.length_singleton]
    omega
  next => simpa using hroom

lemma Holds.carries_write (h : l.Holds popped queue) (c : Fifo.Cycle α) :
    Carries (l.fifo.step c).mem.toList l.fifo.rdPtr.toNat (queue ++ l.fifo.accepts c) := by
  have hroom := h.length_accepts c
  rw [accepts] at hroom ⊢
  split at hroom
  next hwr =>
    have hset := h.carries.snoc (by rw [Vector.length_toList]; exact hroom) c.wrData
    rw [Vector.length_toList, ← h.addr_wrPtr] at hset
    simpa [Fifo.step, hwr, Vector.toList_set] using hset
  grind [Fifo.step]

/-- The pointers after a clock edge are apart as the queue with what was written and
without what was popped. -/
lemma Holds.count_step (h : l.Holds popped queue) (c : Fifo.Cycle α) {rest : List α}
    (hlen : rest.length + (if l.fifo.pops c then 1 else 0) =
      queue.length + (l.fifo.accepts c).length) (hroom : rest.length ≤ 2 ^ w) :
    (l.fifo.step c).count.toNat = rest.length := by
  have hlt : rest.length < 2 ^ (w + 1) := by grind
  have hcount : (l.fifo.step c).count = BitVec.ofNat (w + 1) rest.length := by
    have hsum := congrArg (BitVec.ofNat (w + 1)) hlen
    rw [BitVec.ofNat_add, BitVec.ofNat_add, accepts] at hsum
    have hwr := h.wrPtr
    simp only [Fifo.count, Fifo.step]
    split_ifs at hsum ⊢ <;> simp only [List.length_singleton, List.length_nil] at hsum <;> grind
  grind

variable {c : Fifo.Cycle α}

lemma Holds.rdPtr_step (hpop : l.fifo.pops c) :
    (l.fifo.step c).rdPtr.toNat ≡ l.fifo.rdPtr.toNat + 1 [MOD 2 ^ w] := by
  have hdvd : 2 ^ w ∣ 2 ^ (w + 1) := Nat.pow_dvd_pow 2 (Nat.le_succ w)
  have hone : (1 : BitVec (w + 1)).toNat = 1 :=
    Nat.mod_eq_of_lt (Nat.one_lt_two_pow (Nat.succ_ne_zero w))
  simp only [Fifo.step, hpop, if_true, BitVec.toNat_add, hone]
  exact Nat.mod_mod_of_dvd _ hdvd

lemma Holds.step_stay (h : l.Holds popped queue) (hpop : l.fifo.pops c = false) :
    (l.step c).Holds popped (queue ++ l.fifo.accepts c) where
  carries := by
    have hwrite := h.carries_write c
    simpa [step, Fifo.step, hpop] using hwrite
  count := by
    refine h.count_step c ?_ ?_
    · rw [hpop, List.length_append]
      rfl
    · rw [List.length_append]
      exact h.length_accepts c
  room := by
    rw [List.length_append]
    exact h.length_accepts c
  accepted := by rw [step, h.accepted, List.append_assoc]
  taken := by
    have hrd : l.fifo.rdEn c = false := by
      cases hen : l.fifo.rdEn c with
      | false => rfl
      | true => simp_all [pops, rdEn, rdValid]
    rw [step, gives, hrd, h.taken]
    exact List.append_nil _

lemma Holds.step_pop {x : α} (h : l.Holds popped (x :: queue))
    (hpop : l.fifo.pops c) :
    (l.step c).Holds (popped ++ [(x, l.fifo.rdEn c)]) (queue ++ l.fifo.accepts c) where
  carries := by
    have hrest : Carries (l.step c).fifo.mem.toList (l.fifo.rdPtr.toNat + 1)
        (queue ++ l.fifo.accepts c) := (h.carries_write c).drop 1
    refine hrest.congr ?_
    rw [Vector.length_toList]
    exact (Holds.rdPtr_step hpop).symm
  count := by
    have hroom := h.length_accepts c
    refine h.count_step c ?_ ?_
    · rw [hpop, List.length_append, List.length_cons, if_pos rfl]
      omega
    · rw [List.length_append]
      rw [List.length_cons] at hroom
      omega
  room := by
    have hroom := h.length_accepts c
    rw [List.length_append]
    rw [List.length_cons] at hroom
    omega
  accepted := by
    rw [step, h.accepted]
    simp
  taken := by
    rw [step, gives, h.rdData, h.taken]
    cases l.fifo.rdEn c <;> simp

/-- Each cycle leaves the popped words as they are or adds one, marked by the
handshake of the cycle. -/
lemma Holds.step (h : l.Holds popped queue) (c : Fifo.Cycle α) :
    ∃ popped' queue', (l.step c).Holds popped' queue' ∧ (l.fifo.pops c = false ∧ popped' = popped ∨
        l.fifo.pops c ∧ ∃ x, popped' = popped ++ [(x, l.fifo.rdEn c)]) := by
  cases hpop : l.fifo.pops c with
  | false => exact ⟨_, _, h.step_stay hpop, Or.inl ⟨rfl, rfl⟩⟩
  | true =>
    cases queue with
    | nil => grind [Holds.empty_iff, pops]
    | cons x rest => exact ⟨_, _, h.step_pop hpop, Or.inr ⟨rfl, x, rfl⟩⟩

lemma Holds.transfers_iff_marked (h : l.Holds popped queue) : l.Transfers ↔ ∀ p ∈ popped, p.2 := by
  have hle := List.length_filter_le Prod.snd popped
  constructor
  · grind [List.length_filter_eq_length_iff.mp]
  · intro hall
    have htaken : l.taken = popped.map Prod.fst := by
      rw [h.taken, List.filter_eq_self.mpr hall]
    grind

lemma prompt_iff (c : Fifo.Cycle α) : l.Prompt c ↔ (l.fifo.pops c → l.fifo.rdEn c) := by
  grind [pops, rdEn, rdValid]

end Facts

/-! ## Runs -/

lemma run_transfers_iff : ∀ (cycles : List (Fifo.Cycle α)) (l : FifoLog α w)
    (popped : List (α × Bool)) (queue : List α), l.Holds popped queue → (∀ p ∈ popped, p.2) →
    ((∀ n, (run step l (cycles.take n)).Transfers) ↔ Along step Prompt l cycles) := by
  intro cycles
  induction cycles with
  | nil =>
    intro l popped queue h hall
    simpa [Along] using h.transfers_iff_marked.mpr hall
  | cons c rest ih =>
    intro l popped queue h hall
    obtain ⟨popped', queue', h', hpopped⟩ := h.step c
    have hprompt : l.Prompt c ↔ ∀ p ∈ popped', p.2 := by
      rw [prompt_iff]
      obtain ⟨hpop, rfl⟩ | ⟨hpop, x, rfl⟩ := hpopped
      · simp only [hpop, reduceCtorEq, false_imp_iff]
        exact (iff_of_true trivial hall)
      · simp only [hpop, forall_const, List.forall_mem_append, List.forall_mem_singleton]
        exact (and_iff_right hall).symm
    constructor
    · intro htransfers
      have hmarked := h'.transfers_iff_marked.mp (htransfers 1)
      exact ⟨hprompt.mpr hmarked, (ih _ _ _ h' hmarked).mp fun n => htransfers (n + 1)⟩
    · rintro ⟨hc, hrest⟩ n
      cases n with
      | zero => exact h.transfers_iff_marked.mpr hall
      | succ n => exact (ih _ _ _ h' (hprompt.mp hc)).mpr hrest n

/-- After reset the FIFO gives what it accepted, in order and without loss, and
counts the difference, exactly in the runs in which the reader is ready whenever a
word is there and `rd_valid_pre` is clear. -/
theorem transfers_iff (s : Fifo α w) (cycles : List (Fifo.Cycle α)) :
    (∀ n, (run step (start s) (cycles.take n)).Transfers) ↔ Along step Prompt (start s) cycles :=
  run_transfers_iff cycles (start s) [] [] (start_holds s) (by simp)

/-- One word is written while the reader is not ready: the next clock edge drops it. -/
theorem word_lost :
    let s : Fifo (BitVec 8) 2 := ⟨Vector.replicate 4 0, 0, 0, 0, false⟩
    let l := run step (start s) [⟨7, true, false⟩, ⟨0, false, false⟩]
    l.accepted = [7] ∧ l.taken = [] ∧ l.fifo.count = 0 ∧ ¬ l.Transfers := by
  intro s l
  have hcount : l.fifo.count.toNat = 0 := by decide
  refine ⟨by decide, by decide, by decide, ?_⟩
  rintro ⟨-, hdiff, -⟩
  rw [hcount] at hdiff
  exact absurd hdiff (by decide)

end FifoLog

end HeimdallDaq.Gateware
