/-
  DataPlane/RtlFraming.lean --- headers and payloads on the stdout of rtl_daq.

  The reader of the stream takes as many bytes after a header as its `cpi_length`
  announces.
-/
import HeimdallDaq.DataPlane.RtlDaq

namespace HeimdallDaq.DataPlane.RtlDaq

open Foundation List

variable {cfg : Config}

def Frame.Framed (cfg : Config) (f : Frame) : Prop :=
  f.payload.length = cfg.chNo * f.header.cpiLength * 2

def Main.isGathering {chNo size : ℕ} : Main chNo size → Bool
  | .gathering => true
  | _ => false

def FlagSettled (d : Daq cfg) : Action cfg → Prop
  | .control _ => d.main.isGathering → d.iqHeader.frameType = .dummy
  | _ => True

instance decidableFlagSettled (d : Daq cfg) : ∀ a, Decidable (FlagSettled d a)
  | .control _ => inferInstanceAs (Decidable (_ → _))
  | .main | .beginCopy _ | .copy _ _ | .publish _ => inferInstanceAs (Decidable True)

namespace Daq

def owed (d : Daq cfg) : ℕ :=
  match d.main with
  | .writing todo => todo.length
  | _ => 0

def HeaderAgrees (d : Daq cfg) : Prop :=
  (d.enDummyFrame ∧ d.iqHeader.frameType = .dummy ∧ d.iqHeader.cpiLength = 0) ∨
    (d.enDummyFrame = false ∧ d.iqHeader.frameType ≠ .dummy ∧
      d.iqHeader.cpiLength = cfg.daqBufferSize)

structure Framing (d : Daq cfg) : Prop where
  agrees : d.main = .gathering → d.HeaderAgrees
  latest : ∀ f rest, d.written = f :: rest →
    f.payload.length + d.owed = cfg.chNo * f.header.cpiLength * 2
  earlier : ∀ f ∈ d.written.tail, f.Framed cfg

lemma length_addresses (cfg : Config) :
    (addresses cfg).length = cfg.chNo * cfg.daqBufferSize * 2 := by
  simp [addresses, length_flatMap, Config.bufferSize, Nat.mul_assoc]

lemma framing_start (buffer : Fin cfg.chNo → ℕ → Fin cfg.bufferSize → Byte) :
    (start buffer).Framing where
  agrees := nofun
  latest := nofun
  earlier := nofun

lemma Framing.of_same {d d' : Daq cfg} (h : d.Framing) (hwritten : d'.written = d.written)
    (howed : d'.owed = d.owed) (hagrees : d'.main = .gathering → d'.HeaderAgrees) :
    d'.Framing where
  agrees := hagrees
  latest := by
    rw [hwritten, howed]
    exact h.latest
  earlier := by
    rw [hwritten]
    exact h.earlier

variable {d : Daq cfg}

lemma framing_main (h : d.Framing) : d.mainStep.Framing := by
  unfold mainStep
  split
  next hmain =>
    split
    · exact h
    · refine h.of_same rfl ?_ nofun
      simp [owed, hmain]
  next hmain =>
    refine h.of_same rfl ?_ nofun
    simp [owed, hmain]
  next hmain =>
    refine h.of_same rfl ?_ fun _ => ?_
    · simp [owed, hmain]
    · unfold HeaderAgrees typedHeader
      cases d.enDummyFrame <;> cases d.noiseSourceState <;> simp
  next hmain =>
    -- the second test finds the flag as the first one did
    have hagrees := h.agrees hmain
    have hzero : d.owed = 0 := by simp [owed, hmain]
    refine ⟨nofun, ?_, ?_⟩
    · intro f rest hf
      obtain ⟨rfl, -⟩ := List.cons.inj hf
      rcases hagrees with ⟨hdummy, -, hlen⟩ | ⟨hdata, -, hlen⟩
      · simp [owed, hdummy, hlen]
      · simp [owed, hdata, hlen, length_addresses]
    · intro f hf
      show f.Framed cfg
      cases hw : d.written with
      | nil =>
        rw [tail_cons, hw] at hf
        cases hf
      | cons g rest =>
        rw [tail_cons, hw, mem_cons] at hf
        rcases hf with rfl | hf
        · have hg := h.latest f rest hw
          rw [hzero, Nat.add_zero] at hg
          exact hg
        · exact h.earlier f (by rw [hw]; exact hf)
  next hmain =>
    refine h.of_same rfl ?_ nofun
    simp [owed, hmain]
  next m p todo hmain =>
    refine ⟨nofun, ?_, ?_⟩
    · intro f rest hf
      cases hw : d.written with
      | nil =>
        rw [show d.written = [] from hw] at hf
        cases hf
      | cons g rest' =>
        rw [hw] at hf
        obtain ⟨rfl, -⟩ := List.cons.inj hf
        have hg := h.latest g rest' hw
        simp only [owed, hmain, length_cons] at hg
        simp only [owed, length_append, length_cons, length_nil]
        omega
    · intro f hf
      refine h.earlier f ?_
      cases hw : d.written with
      | nil =>
        rw [show d.written = [] from hw] at hf
        cases hf
      | cons g rest' =>
        rw [hw] at hf
        exact hf
  next hmain =>
    refine h.of_same rfl ?_ ?_
    · simp only [owed, hmain]
      cases d.enDummyFrame <;> rfl
    · cases d.enDummyFrame <;> nofun
  next hmain =>
    refine h.of_same rfl ?_ nofun
    simp [owed, hmain]
  next cntr hmain =>
    refine h.of_same rfl ?_ nofun
    simp [owed, hmain]
  next hmain =>
    by_cases hcntr : d.dummyFrameCntr = noDummyFrames
    · rw [if_pos hcntr]
      exact h.of_same rfl (by simp [owed, hmain]) nofun
    · rw [if_neg hcntr]
      exact h.of_same rfl (by simp [owed, hmain]) nofun
  next hmain =>
    refine h.of_same rfl ?_ nofun
    simp [owed, hmain]

lemma framing_control (h : d.Framing) (noise : Option Bool)
    (hsettled : FlagSettled d (.control noise)) : (d.controlStep noise).Framing := by
  refine h.of_same rfl rfl fun hmain => ?_
  have hgathering : d.main = .gathering := hmain
  have hdummy : d.iqHeader.frameType = .dummy := hsettled (by rw [hgathering]; rfl)
  rcases h.agrees hgathering with ⟨-, htype, hlen⟩ | ⟨-, htype, -⟩
  · exact .inl ⟨rfl, htype, hlen⟩
  · exact absurd hdummy htype

lemma framing_step {usb : Fin cfg.chNo → ℕ → Fin cfg.bufferSize → Byte}
    (h : d.Framing) {a : Action cfg} (hsettled : FlagSettled d a) : (d.step usb a).Framing := by
  cases a with
  | main => exact framing_main h
  | control noise => exact framing_control h noise hsettled
  | beginCopy m =>
    simp only [step]
    split
    · exact h.of_same rfl rfl h.agrees
    · exact h
  | copy m p =>
    simp only [step]
    split
    · exact h
    · exact h.of_same rfl rfl h.agrees
  | publish m =>
    simp only [step]
    split
    · exact h
    · split
      · exact h.of_same rfl rfl h.agrees
      · exact h

end Daq

/-- In every run in which no request falls between the two tests of `en_dummy_frame`
for a frame with a payload, each header is followed by the announced bytes before the
next header. -/
theorem headers_followed_by_payload (cfg : Config)
    (usb buffer : Fin cfg.chNo → ℕ → Fin cfg.bufferSize → Byte) (actions : List (Action cfg))
    (hsettled : Along (Daq.step usb) FlagSettled (Daq.start buffer) actions) :
    ∀ f ∈ (run (Daq.step usb) (Daq.start buffer) actions).written.tail,
      f.payload.length = cfg.chNo * f.header.cpiLength * 2 := by
  have hstep : ∀ (d : Daq cfg) a, d.Framing → FlagSettled d a → (d.step usb a).Framing :=
    fun _ _ h hsettled => Daq.framing_step h hsettled
  have hrun := run_invariant (Daq.step usb) hstep actions _ (Daq.framing_start buffer) hsettled
  exact hrun.earlier

abbrev smallConfig : Config := ⟨1, 2, 1⟩

def transfer : List (Action smallConfig) := [.beginCopy 0, .copy 0 0, .copy 0 1, .publish 0]

def numbered (m : Fin smallConfig.chNo) (n : ℕ) (p : Fin smallConfig.bufferSize) : Byte :=
  BitVec.ofNat 8 (m.val + 16 * n + p.val)

def requestFirst : List (Action smallConfig) :=
  (.control none :: transfer) ++ List.replicate 9 .main ++ transfer ++ List.replicate 4 .main

/-- A dummy frame without payload, then the next header. -/
theorem headers_followed_by_payload_request :
    (run (Daq.step numbered) (Daq.start fun _ _ _ => 0) requestFirst).written.length = 2 ∧
      ∀ f ∈ (run (Daq.step numbered) (Daq.start fun _ _ _ => 0) requestFirst).written.tail,
        f.payload.length = smallConfig.chNo * f.header.cpiLength * 2 :=
  ⟨by decide, headers_followed_by_payload smallConfig numbered (fun _ _ _ => 0) requestFirst
      (by decide)⟩

/-- A request between the two tests: the header announces one sample and no byte
follows before the next header. -/
theorem header_without_payload : ∃ f ∈ (run (Daq.step numbered) (Daq.start fun _ _ _ => 0)
        (transfer ++ List.replicate 3 .main ++ [.control none] ++ List.replicate 6 .main ++
          transfer ++ List.replicate 4 .main)).written.tail,
      f.header.frameType = .data ∧ f.header.cpiLength = 1 ∧ f.payload = [] := by
  decide

end HeimdallDaq.DataPlane.RtlDaq
