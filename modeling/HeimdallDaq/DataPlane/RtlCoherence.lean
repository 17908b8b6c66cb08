/-
  DataPlane/RtlCoherence.lean --- which transfers a frame of rtl_daq carries.

  The ring of a channel always holds its last `num_buff - 1` published transfers; the
  slot of the one before is overwritten by the copy in progress.
-/
import HeimdallDaq.DataPlane.RtlFraming
import Mathlib

namespace HeimdallDaq.DataPlane.RtlDaq

open Foundation Function

variable {cfg : Config} {chNo size : ℕ}

@[local grind]
def Main.emitting : Main chNo size → Bool
  | .completing | .typing | .gathering | .writing _ => true
  | _ => false

def Main.beforeHeader : Main chNo size → Bool
  | .completing | .typing | .gathering => true
  | _ => false

variable (usb : Fin cfg.chNo → ℕ → Fin cfg.bufferSize → Byte)

@[local grind]
def expected (index : ℕ) (address : Fin cfg.chNo × Fin cfg.bufferSize) : Byte :=
  usb address.1 index address.2

/-- A DATA or CAL frame with the overrun counter of the frame before it carries the
transfers it is numbered after. -/
@[local grind]
def Follows (f before : Frame) : Prop :=
  f.header.bufferOverrunCnt = before.header.bufferOverrunCnt → f.header.frameType ≠ .dummy →
    f.payload = (Daq.addresses cfg).map (expected usb f.header.daqBlockIndex)

namespace Daq

variable (d : Daq cfg)

@[local grind]
def previous : Option Frame :=
  match d.main with
  | .writing _ => d.written.tail.head?
  | _ => d.written.head?

def completed : List Frame :=
  match d.main with
  | .writing _ => d.written.tail
  | _ => d.written

@[local grind]
def claimed : Bool :=
  d.main.emitting && d.previous.any fun g => decide (g.header.bufferOverrunCnt = d.overrunCntr)

/-- The index is below `2 ^ 32`; and while a frame is being emitted with an unchanged
overrun counter no callback starts on its slot, and no request falls between the two
tests of `en_dummy_frame`. -/
def Undisturbed : Action cfg → Prop
  | .main => d.readBuffInd < 2 ^ 32
  | .control noise => d.claimed → FlagSettled d (.control noise)
  | .beginCopy m => d.claimed → d.buffInd m < d.readBuffInd + cfg.numBuff
  | .copy _ _ => True
  | .publish _ => True

instance decidableUndisturbed (d : Daq cfg) : ∀ a, Decidable (d.Undisturbed a)
  | .main => inferInstanceAs (Decidable (_ < _))
  | .control _ | .beginCopy _ => inferInstanceAs (Decidable (_ → _))
  | .copy _ _ | .publish _ => inferInstanceAs (Decidable True)

/-! ## The ring of a channel -/

section Ring

variable (usb : Fin cfg.chNo → ℕ → Fin cfg.bufferSize → Byte)

@[local grind]
def Holds (d : Daq cfg) (m : Fin cfg.chNo) (n : ℕ) : Prop :=
  n < d.buffInd m ∧ (d.buffInd m < n + cfg.numBuff ∨
    d.buffInd m = n + cfg.numBuff ∧ d.callback m = .idle)

structure Ring (d : Daq cfg) (m : Fin cfg.chNo) : Prop where
  published : ∀ n p, d.Holds m n → d.buffer m (n % cfg.numBuff) p = usb m n p
  copying : ∀ slot copied, d.callback m = .copying slot copied → slot = d.buffInd m % cfg.numBuff ∧
      ∀ p, copied p → d.buffer m slot p = usb m (d.buffInd m) p

variable {usb}

@[simp]
lemma callback_setCallback (d : Daq cfg) (m : Fin cfg.chNo) (c : Callback cfg.bufferSize) :
    (d.setCallback m c).callback m = c := update_self ..

lemma slot_ne {n b N : ℕ} (hlt : n < b) (hround : b < n + N) : n % N ≠ b % N := by
  intro heq
  have hdvd : N ∣ b - n := (Nat.modEq_iff_dvd' hlt.le).mp heq
  have := Nat.le_of_dvd (by omega) hdvd
  omega

variable {m : Fin cfg.chNo}

lemma Ring.of_same {d d' : Daq cfg} (h : Ring usb d m)
    (hbuffer : d'.buffer m = d.buffer m) (hind : d'.buffInd m = d.buffInd m)
    (hcallback : d'.callback m = d.callback m) : Ring usb d' m where
  published := by
    unfold Holds
    rw [hbuffer, hind, hcallback]
    exact h.published
  copying := by
    rw [hbuffer, hind, hcallback]
    exact h.copying

variable {d : Daq cfg}

lemma ring_beginCopy (h : Ring usb d m) :
    Ring usb (d.setCallback m (.copying (d.buffInd m % cfg.numBuff) fun _ => false)) m where
  published := by
    rintro n p ⟨hlt, hround | ⟨-, hcopying⟩⟩
    · exact h.published n p ⟨hlt, .inl hround⟩
    · exact h.published n p ⟨hlt, by
        rw [callback_setCallback] at hcopying
        cases hcopying⟩
  copying := by
    intro slot copied hcopying
    rw [callback_setCallback] at hcopying
    cases hcopying
    exact ⟨rfl, nofun⟩

variable {copied : Fin cfg.bufferSize → Bool}

lemma ring_copy {slot : ℕ}
    (h : Ring usb d m) (hcopying : d.callback m = .copying slot copied)
    (p : Fin cfg.bufferSize) :
    Ring usb ((d.storeByte m slot p (usb m (d.buffInd m) p)).setCallback m
      (.copying slot (Function.update copied p true))) m where
  published := by
    -- the slot in progress is none of those that hold a published transfer
    rintro n p' ⟨hlt, hround | ⟨-, hidle⟩⟩
    · have hslot := (h.copying slot copied hcopying).1
      have hne : n % cfg.numBuff ≠ slot := by
        rw [hslot]
        exact slot_ne hlt hround
      show (if m = m ∧ n % cfg.numBuff = slot ∧ p' = p then _
        else d.buffer m (n % cfg.numBuff) p') = _
      rw [if_neg fun hsame => hne hsame.2.1]
      exact h.published n p' ⟨hlt, .inl hround⟩
    · rw [callback_setCallback] at hidle
      cases hidle
  copying := by
    intro slot' copied' hcopying'
    rw [callback_setCallback] at hcopying'
    cases hcopying'
    obtain ⟨hslot, hbytes⟩ := h.copying slot copied hcopying
    refine ⟨hslot, fun p' hp' => ?_⟩
    show (if m = m ∧ slot = slot ∧ p' = p then _ else d.buffer m slot p') = usb m (d.buffInd m) p'
    by_cases heq : p' = p
    · rw [if_pos ⟨rfl, rfl, heq⟩, heq]
    · rw [if_neg fun hsame => heq hsame.2.2]
      rw [update_of_ne heq] at hp'
      exact hbytes p' hp'

lemma ring_publish {slot : ℕ}
    (h : Ring usb d m)
    (hcopying : d.callback m = .copying slot copied) (hall : ∀ p, copied p) :
    Ring usb ((d.advanceIndex m).setCallback m .idle) m where
  published := by
    rintro n p ⟨hlt, hround⟩
    obtain ⟨rfl, hbytes⟩ := h.copying slot copied hcopying
    have hind : ((d.advanceIndex m).setCallback m .idle).buffInd m = d.buffInd m + 1 :=
      update_self ..
    rw [hind] at hlt hround
    rcases Nat.lt_succ_iff_lt_or_eq.mp hlt with hlt' | rfl
    · exact h.published n p ⟨hlt', .inl (by omega)⟩
    · exact hbytes p (hall p)
  copying := by
    intro slot' copied' hcopying'
    rw [callback_setCallback] at hcopying'
    cases hcopying'

lemma ring_step (h : ∀ m, Ring usb d m) (a : Action cfg) (m' : Fin cfg.chNo) :
    Ring usb (d.step usb a) m' := by
  have hmain : d.mainStep.buffer = d.buffer ∧ d.mainStep.buffInd = d.buffInd ∧
      d.mainStep.callback = d.callback := by
    unfold mainStep
    repeat' split
    all_goals exact ⟨rfl, rfl, rfl⟩
  cases a with
  | main =>
    exact (h m').of_same (congrFun hmain.1 m') (congrFun hmain.2.1 m') (congrFun hmain.2.2 m')
  | control noise => exact (h m').of_same rfl rfl rfl
  | beginCopy m =>
    simp only [step]
    split
    · by_cases heq : m' = m
      · subst heq
        exact ring_beginCopy (h m')
      · exact (h m').of_same rfl rfl (update_of_ne heq ..)
    · exact h m'
  | copy m p =>
    simp only [step]
    split
    · exact h m'
    · rename_i slot copied hcopying
      by_cases heq : m' = m
      · subst heq
        exact ring_copy (h m') hcopying p
      · refine (h m').of_same ?_ rfl (update_of_ne heq ..)
        funext slot' p'
        exact if_neg fun hsame => heq hsame.1
  | publish m =>
    simp only [step]
    split
    · exact h m'
    · rename_i slot copied hcopying
      split
      · rename_i hall
        by_cases heq : m' = m
        · subst heq
          exact ring_publish (h m') hcopying hall
        · exact (h m').of_same rfl (update_of_ne heq ..) (update_of_ne heq ..)
      · exact h m'

/-! ## The frames -/

variable (usb)

/-- What holds of the frames and of the frame in progress. -/
@[local grind]
structure Coherence (d : Daq cfg) : Prop where
  ring : ∀ m, Ring usb d m
  counted : d.main.beforeHeader = false →
    ∀ g ∈ d.written.head?, g.header.bufferOverrunCnt = d.overrunCntr
  held : d.claimed → ∀ m, d.Holds m d.readBuffInd
  stamped : d.main = .typing ∨ d.main = .gathering ∨ (∃ todo, d.main = .writing todo) →
    d.iqHeader.daqBlockIndex = d.readBuffInd ∧ d.iqHeader.bufferOverrunCnt = d.overrunCntr
  agrees : d.main = .gathering → d.claimed → d.HeaderAgrees
  current : ∀ todo, d.main = .writing todo → ∃ f rest, d.written = f :: rest ∧
    f.header = d.iqHeader ∧ (d.claimed → f.header.frameType ≠ .dummy →
      f.payload ++ todo.map (expected usb d.readBuffInd) =
        (addresses cfg).map (expected usb d.readBuffInd))
  frames : d.completed.IsChain (Follows usb)

variable {usb}

lemma coherence_start (buffer : Fin cfg.chNo → ℕ → Fin cfg.bufferSize → Byte) :
    (start buffer).Coherence usb where
  ring := fun _ => ⟨fun _ _ h => absurd h.1 (Nat.not_lt_zero _), nofun⟩
  counted := nofun
  held := nofun
  stamped := by rintro (h | h | ⟨_, h⟩) <;> cases h
  agrees := nofun
  current := nofun
  frames := .nil

variable {buffInd : Fin cfg.chNo → ℕ}

lemma compareIndexes_false {readBuffInd : ℕ} : ∀ {channels : List (Fin cfg.chNo)} {seen : Bool},
      compareIndexes buffInd readBuffInd channels seen = some false →
      seen = false ∧ ∀ m ∈ channels, readBuffInd < buffInd m ∧ buffInd m < readBuffInd + cfg.numBuff
  | [], seen, h => ⟨Option.some.inj h, nofun⟩
  | m :: rest, seen, h => by
      unfold compareIndexes at h
      split at h
      · cases h
      next hread =>
        split at h
        · cases h
        · obtain ⟨hseen, hrest⟩ := compareIndexes_false h
          rw [Bool.or_eq_false_iff, decide_eq_false_iff_not] at hseen
          refine ⟨hseen.1, fun m' hm' => ?_⟩
          rcases List.mem_cons.mp hm' with rfl | hm'
          · omega
          · exact hrest m' hm'

lemma ne_succ_mod (c : ℕ) : c ≠ (c + 1) % 2 ^ 32 := by omega

lemma claimed_iff (d : Daq cfg) : d.claimed ↔
    d.main.emitting ∧ ∃ g ∈ d.previous, g.header.bufferOverrunCnt = d.overrunCntr := by
  unfold claimed
  cases d.previous <;> simp

lemma claimed_of_not_emitting (h : d.main.emitting = false) :
    d.claimed = false := by rw [claimed, h, Bool.false_and]

lemma completed_of_not_emitting (h : d.main.emitting = false) : d.completed = d.written := by
  unfold completed
  split
  next hmain =>
    rw [hmain] at h
    cases h
  · rfl

lemma not_beforeHeader_of_not_emitting {chNo size : ℕ} {main : Main chNo size}
    (h : main.emitting = false) : main.beforeHeader = false := by
  cases main <;> first | rfl | cases h

lemma coherence_of_not_emitting {d' : Daq cfg}
    (hring : ∀ m, Ring usb d' m) (hmain : d'.main.emitting = false)
    (hcounted : ∀ g ∈ d'.written.head?, g.header.bufferOverrunCnt = d'.overrunCntr)
    (hframes : d'.written.IsChain (Follows usb)) : d'.Coherence usb where
  ring := hring
  counted := fun _ => hcounted
  held := fun hclaimed => absurd hclaimed (by rw [claimed_of_not_emitting hmain]; nofun)
  stamped := by
    rintro (heq | heq | ⟨_, heq⟩) <;> rw [heq] at hmain <;> cases hmain
  agrees := fun heq => by
    rw [heq] at hmain
    cases hmain
  current := fun todo heq => by
    rw [heq] at hmain
    cases hmain
  frames := by
    rw [completed_of_not_emitting hmain]
    exact hframes

lemma coherence_between (h : d.Coherence usb) (hmain : d.main.emitting = false)
    (hmain' : d.mainStep.main.emitting = false) (hwritten : d.mainStep.written = d.written)
    (hcntr : d.mainStep.overrunCntr = d.overrunCntr) : d.mainStep.Coherence usb := by
  refine coherence_of_not_emitting (ring_step h.ring .main) hmain' ?_ ?_
  all_goals grind [not_beforeHeader_of_not_emitting, completed_of_not_emitting]

attribute [local simp] Main.beforeHeader

lemma coherence_waiting (h : d.Coherence usb) (hmain : d.main = .waiting) :
    d.mainStep.Coherence usb := by
  have hring := ring_step h.ring .main
  have hcounted := h.counted (by rw [hmain]; rfl)
  have hframes := h.frames
  rw [step] at hring
  simp only [mainStep, hmain] at hring ⊢
  split
  · exact h
  next overrunDetected hcompare =>
    rw [hcompare] at hring
    refine ⟨hring, by simp, ?_, ?_, by simp, by simp, ?_⟩
    · intro hclaimed m
      obtain ⟨-, g, hg, hcnt⟩ := (claimed_iff _).mp hclaimed
      cases overrunDetected with
      | true => exact absurd ((hcounted g hg).symm.trans hcnt) (ne_succ_mod _)
      | false => grind [compareIndexes_false]
    · rintro (heq | heq | ⟨_, heq⟩) <;> cases heq
    · rw [completed, hmain] at hframes
      exact hframes

lemma coherence_completing (h : d.Coherence usb) (hmain : d.main = .completing)
    (hindex : d.readBuffInd < 2 ^ 32) : d.mainStep.Coherence usb := by
  have hring := ring_step h.ring .main
  have hheld := h.held
  have hframes := h.frames
  rw [step] at hring
  simp only [claimed, previous, completed, hmain] at hheld hframes
  simp only [mainStep, hmain] at hring ⊢
  exact ⟨hring, by simp, hheld, fun _ => ⟨Nat.mod_eq_of_lt hindex, rfl⟩, by simp, by simp, hframes⟩

lemma coherence_typing (h : d.Coherence usb) (hmain : d.main = .typing) :
    d.mainStep.Coherence usb := by
  have hring := ring_step h.ring .main
  have hheld := h.held
  have hframes := h.frames
  have hstamped := h.stamped (.inl hmain)
  rw [step] at hring
  simp only [claimed, previous, completed, hmain] at hheld hframes
  simp only [mainStep, hmain] at hring ⊢
  refine ⟨hring, by simp, hheld, fun _ => ?_, fun _ _ => ?_, by simp, hframes⟩
  all_goals grind [typedHeader, HeaderAgrees]

lemma coherence_gathering (h : d.Coherence usb) (hmain : d.main = .gathering) :
    d.mainStep.Coherence usb := by
  have hring := ring_step h.ring .main
  have hheld := h.held
  have hagrees := h.agrees hmain
  have hframes := h.frames
  have hstamped := h.stamped (.inr (.inl hmain))
  rw [step] at hring
  simp only [claimed, previous, completed, hmain] at hheld hframes hagrees
  simp only [mainStep, hmain] at hring ⊢
  refine ⟨hring, ?_, hheld, fun _ => hstamped, by simp, ?_, hframes⟩
  · intro _ g hg
    cases hg
    exact hstamped.2
  · intro todo htodo
    cases htodo
    refine ⟨_, _, rfl, rfl, fun hclaimed htype => ?_⟩
    rcases hagrees hclaimed with ⟨-, hdummy, -⟩ | ⟨hdata, -, -⟩
    · exact absurd hdummy htype
    · rw [if_neg (by simp [hdata])]
      rfl

lemma coherence_writing {p : Fin cfg.bufferSize}
    {todo : List (Fin cfg.chNo × Fin cfg.bufferSize)} (h : d.Coherence usb)
    (hmain : d.main = .writing ((m, p) :: todo)) : d.mainStep.Coherence usb := by
  have hring := ring_step h.ring .main
  have hheld := h.held
  have hframes := h.frames
  have hstamped := h.stamped (.inr (.inr ⟨_, hmain⟩))
  obtain ⟨f, rest, hwritten, hheader, hpayload⟩ := h.current _ hmain
  have hbyte : d.claimed → d.buffer m d.rdBuffInd p = usb m d.readBuffInd p :=
    fun hclaimed => (h.ring m).published _ p (h.held hclaimed m)
  rw [step] at hring
  simp only [claimed, previous, completed, hmain, hwritten] at hheld hframes hpayload hbyte
  simp only [mainStep, hmain, hwritten, pushByte] at hring ⊢
  refine ⟨hring, ?_, hheld, fun _ => hstamped, by simp, ?_, hframes⟩
  all_goals grind

lemma coherence_written (h : d.Coherence usb) (hmain : d.main = .writing []) :
    d.mainStep.Coherence usb := by
  have hring := ring_step h.ring .main
  have hframes := h.frames
  have hstamped := h.stamped (.inr (.inr ⟨_, hmain⟩))
  obtain ⟨f, rest, hwritten, hheader, hpayload⟩ := h.current _ hmain
  have hcnt : f.header.bufferOverrunCnt = d.overrunCntr :=
    (congrArg Header.bufferOverrunCnt hheader).trans hstamped.2
  rw [step] at hring
  simp only [claimed, previous, completed, hmain, hwritten] at hframes hpayload
  simp only [mainStep, hmain] at hring ⊢
  refine coherence_of_not_emitting hring rfl ?_ ?_
  · intro g hg
    simp only [hwritten] at hg
    cases hg
    exact hcnt
  · simp only [hwritten]
    cases rest with
    | nil => exact .singleton f
    | cons g rest => grind

lemma coherence_main (h : d.Coherence usb) (hindex : d.readBuffInd < 2 ^ 32) :
    d.mainStep.Coherence usb := by
  cases hmain : d.main with
  | waiting => exact coherence_waiting h hmain
  | completing => exact coherence_completing h hmain hindex
  | typing => exact coherence_typing h hmain
  | gathering => exact coherence_gathering h hmain
  | writing todo =>
    cases todo with
    | nil => exact coherence_written h hmain
    | cons address todo => exact coherence_writing h hmain
  | advancing => grind [coherence_between, mainStep]
  | counting =>
    refine coherence_between h (by rw [hmain]; rfl) ?_ ?_ ?_ <;> simp only [mainStep, hmain]
    rfl
  | storing cntr =>
    refine coherence_between h (by rw [hmain]; rfl) ?_ ?_ ?_ <;> simp only [mainStep, hmain]
    rfl
  | comparing =>
    refine coherence_between h (by rw [hmain]; rfl) ?_ ?_ ?_ <;> simp only [mainStep, hmain]
    split <;> rfl
  | clearing =>
    refine coherence_between h (by rw [hmain]; rfl) ?_ ?_ ?_ <;> simp only [mainStep, hmain]
    rfl

lemma coherence_control (h : d.Coherence usb) (noise : Option Bool)
    (hsettled : d.claimed → FlagSettled d (.control noise)) :
    (d.controlStep noise).Coherence usb where
  ring := ring_step h.ring (.control noise)
  counted := h.counted
  held := h.held
  stamped := h.stamped
  agrees := fun hmain hclaimed => by
    have hgathering : d.main = .gathering := hmain
    have hdummy : d.iqHeader.frameType = .dummy := hsettled hclaimed (by rw [hgathering]; rfl)
    rcases h.agrees hgathering hclaimed with ⟨-, htype, hlen⟩ | ⟨-, htype, -⟩
    · exact .inl ⟨rfl, htype, hlen⟩
    · exact absurd hdummy htype
  current := h.current
  frames := h.frames

lemma coherence_callback (h : d.Coherence usb)
    {buffer : Fin cfg.chNo → ℕ → Fin cfg.bufferSize → Byte}
    {callback : Fin cfg.chNo → Callback cfg.bufferSize}
    (hring : ∀ m, Ring usb { d with buffer := buffer, buffInd := buffInd, callback := callback } m)
    (hheld : d.claimed → ∀ m,
      Holds { d with buffer := buffer, buffInd := buffInd, callback := callback } m d.readBuffInd) :
    Coherence usb { d with buffer := buffer, buffInd := buffInd, callback := callback } :=
  ⟨hring, h.counted, hheld, h.stamped, h.agrees, h.current, h.frames⟩

lemma Holds.of_same {d d' : Daq cfg} {n : ℕ} (h : d.Holds m n)
    (hind : d'.buffInd m = d.buffInd m) (hcallback : d'.callback m = d.callback m) :
    d'.Holds m n := by
  unfold Holds
  rw [hind, hcallback]
  exact h

lemma Holds.of_copying {n slot : ℕ}
    (h : d.Holds m n)
    (hcopying : d.callback m = .copying slot copied) : d.buffInd m < n + cfg.numBuff := by grind

lemma coherence_step (h : d.Coherence usb) {a : Action cfg}
    (hundisturbed : d.Undisturbed a) : (d.step usb a).Coherence usb := by
  have hring := ring_step h.ring a
  cases a with
  | main => exact coherence_main h hundisturbed
  | control noise => exact coherence_control h noise hundisturbed
  | beginCopy m =>
    simp only [step] at hring ⊢
    split at hring
    · refine coherence_callback h hring fun hclaimed m' => ?_
      by_cases heq : m' = m
      · subst heq
        exact ⟨(h.held hclaimed m').1, .inl (hundisturbed hclaimed)⟩
      · exact (h.held hclaimed m').of_same rfl (update_of_ne heq ..)
    · exact h
  | copy m p =>
    simp only [step] at hring ⊢
    split at hring
    · exact h
    next slot copied hcopying =>
      refine coherence_callback h hring fun hclaimed m' => ?_
      by_cases heq : m' = m
      · subst heq
        exact ⟨(h.held hclaimed m').1, .inl ((h.held hclaimed m').of_copying hcopying)⟩
      · exact (h.held hclaimed m').of_same rfl (update_of_ne heq ..)
  | publish m =>
    simp only [step] at hring ⊢
    split at hring
    · exact h
    next slot copied hcopying =>
      split at hring
      next hall =>
        rw [if_pos hall]
        refine coherence_callback h hring fun hclaimed m' => ?_
        have hheld := h.held hclaimed m'
        by_cases heq : m' = m
        · subst heq
          have hround := hheld.of_copying hcopying
          have hread := hheld.1
          unfold Holds
          simp only [advanceIndex, update_self, and_true]
          omega
        · exact hheld.of_same (update_of_ne heq ..) (update_of_ne heq ..)
      next hall =>
        rw [if_neg hall]
        exact h

end Ring

end Daq

/-- In every run in which no callback starts on the slot of a frame while it is being
emitted and no request falls between the two tests of `en_dummy_frame`, each DATA or
CAL frame with the overrun counter of the frame before it carries, for every channel,
the transfer numbered `daq_block_index`. -/
theorem frames_coherent (cfg : Config)
    (usb buffer : Fin cfg.chNo → ℕ → Fin cfg.bufferSize → Byte) (actions : List (Action cfg))
    (hundisturbed : Along (Daq.step usb) Daq.Undisturbed (Daq.start buffer) actions) :
    (run (Daq.step usb) (Daq.start buffer) actions).completed.IsChain (Follows usb) := by
  have hstep : ∀ (d : Daq cfg) a, d.Coherence usb → d.Undisturbed a →
      (d.step usb a).Coherence usb := fun _ _ h hundisturbed => Daq.coherence_step h hundisturbed
  have hrun := run_invariant (Daq.step usb) hstep actions _ (Daq.coherence_start buffer)
    hundisturbed
  exact hrun.frames

def frame : List (Action smallConfig) := List.replicate 8 .main

/-- A transfer that arrives while the frame before it is written. -/
theorem frames_coherent_alternating : (run (Daq.step numbered) (Daq.start fun _ _ _ => 0)
      (transfer ++ List.replicate 4 .main ++ transfer ++ List.replicate 4 .main ++
        frame)).completed.IsChain (Follows numbered) :=
  frames_coherent smallConfig numbered (fun _ _ _ => 0) _ (by decide)

/-- Frame 1 passes the comparison; before it is written the callback publishes
transfer 2 and copies transfer 3 over the slot.  The counter of the frame is still
that of frame 0. -/
theorem frame_carries_later_transfer : ((run (Daq.step numbered) (Daq.start fun _ _ _ => 0)
      (transfer ++ frame ++ transfer ++ [.main] ++ transfer ++ [.beginCopy 0, .copy 0 0] ++
        List.replicate 7 .main)).completed.map fun f =>
      (f.header.bufferOverrunCnt, f.header.daqBlockIndex, f.header.frameType, decide (f.payload =
          (Daq.addresses smallConfig).map (expected numbered f.header.daqBlockIndex)))) =
      [(0, 1, .data, false), (0, 0, .data, true)] := by decide

end HeimdallDaq.DataPlane.RtlDaq
