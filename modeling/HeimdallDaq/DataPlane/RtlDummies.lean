/-
  DataPlane/RtlDummies.lean --- the dummy frames after a request to rtl_daq.

  A request sets `en_dummy_frame` and clears `dummy_frame_cntr` under the mutex; the
  main loop tests the flag three times per frame and counts without the mutex.
-/
import HeimdallDaq.DataPlane.RtlFraming

namespace HeimdallDaq.DataPlane.RtlDaq

open Foundation Daq

variable {cfg : Config}

def dummies (hs : List Header) : ℕ := hs.countP (·.frameType = .dummy)

namespace Daq

def headers (d : Daq cfg) : List Header := d.written.map (·.header)

/-- Since `d₀`, every frame that is not a dummy frame and was typed since came after
`NO_DUMMY_FRAMES` dummy frames. -/
def DummiesFirst (d₀ d : Daq cfg) : Prop :=
  ∀ later f earlier, d.headers = later ++ f :: (earlier ++ d₀.headers) → f.frameType ≠ .dummy →
    (earlier = [] → d₀.main.isGathering = false) → noDummyFrames ≤ dummies earlier

def Untyped (d : Daq cfg) : Prop :=
  match d.main with
  | .waiting | .completing | .typing | .comparing => True
  | .gathering => d.iqHeader.frameType = .dummy
  | _ => False

instance decidableUntyped (d : Daq cfg) : Decidable d.Untyped := by
  unfold Untyped
  cases d.main <;> infer_instance

def Pending (c : ℕ) (d : Daq cfg) : Prop :=
  d.enDummyFrame ∧
    match d.main with
    | .gathering => d.iqHeader.frameType = .dummy ∧ d.dummyFrameCntr ≤ c
    | .waiting | .completing | .typing | .comparing => d.dummyFrameCntr ≤ c
    | .writing _ | .advancing | .counting => d.dummyFrameCntr < c
    | .storing cntr => cntr < c
    | .clearing => False

/-- The headers `news` were written after those of `base`, dummy frames first. -/
structure Paced (base news : List Header) (d : Daq cfg) : Prop where
  headers : d.headers = news ++ base
  first : ∀ later f earlier, news = later ++ f :: earlier → f.frameType ≠ .dummy →
    noDummyFrames ≤ dummies earlier
  pending : noDummyFrames ≤ dummies news ∨ d.Pending (dummies news)

lemma headers_pushByte (b : Byte) (fs : List Frame) :
    (pushByte b fs).map (·.header) = fs.map (·.header) := by
  cases fs <;> rfl

variable {base news : List Header} {d d' : Daq cfg}

lemma Paced.same (h : Paced base news d) (hheaders : d'.headers = d.headers)
    (hpending : d.Pending (dummies news) → noDummyFrames ≤ dummies news ∨
      d'.Pending (dummies news)) : Paced base news d' where
  headers := hheaders.trans h.headers
  first := h.first
  pending := h.pending.elim .inl hpending

/-- A header is written: a dummy frame, or after enough of them. -/
lemma Paced.push (h : Paced base news d) {hd : Header}
    (hheaders : d'.headers = hd :: d.headers)
    (hdummy : noDummyFrames ≤ dummies news ∨ hd.frameType = .dummy ∧
      d'.Pending (dummies news + 1)) : Paced base (hd :: news) d' where
  headers := by rw [hheaders, h.headers, List.cons_append]
  first := by
    rintro (- | ⟨x, later⟩) f earlier hsplit hf
    · obtain ⟨rfl, rfl⟩ := List.cons.inj hsplit
      exact hdummy.resolve_right fun hd => hf hd.1
    · exact h.first later f earlier (List.cons.inj hsplit).2 hf
  pending := by
    rcases hdummy with hfive | ⟨htype, hpending⟩
    · exact .inl (hfive.trans (by simp [dummies, List.countP_cons]))
    · exact .inr (by simpa [dummies, List.countP_cons, htype] using hpending)

def IsPaced (base : List Header) (d : Daq cfg) : Prop := ∃ news, Paced base news d

lemma Paced.mainStep (h : Paced base news d) : IsPaced base d.mainStep := by
  cases hmain : d.main with
  | gathering =>
    refine ⟨d.iqHeader :: news, h.push (by simp [Daq.mainStep, hmain, Daq.headers]) ?_⟩
    refine h.pending.imp_right fun hp => ?_
    simp only [Pending, hmain] at hp
    exact ⟨hp.2.1, by simp [Daq.mainStep, hmain, Pending, hp.1, Nat.lt_succ_of_le hp.2.2]⟩
  | writing todo =>
    refine ⟨news, h.same ?_ fun hp => .inr ?_⟩ <;> cases todo <;>
      grind [Daq.mainStep, Daq.headers, headers_pushByte, Pending]
  | waiting =>
    refine ⟨news, h.same ?_ fun hp => .inr ?_⟩ <;> grind [Daq.mainStep, Daq.headers, Pending]
  | _ =>
    refine ⟨news, h.same (by simp [Daq.mainStep, hmain, Daq.headers]) fun hp => ?_⟩
    grind [mainStep, Pending, typedHeader]

variable (usb : Fin cfg.chNo → ℕ → Fin cfg.bufferSize → Byte)

lemma IsPaced.step (h : IsPaced base d) (a : Action cfg) : IsPaced base (d.step usb a) := by
  obtain ⟨news, h⟩ := h
  cases a with
  | main => exact h.mainStep
  | control noise =>
    refine ⟨news, h.same rfl fun hp => .inr ⟨rfl, ?_⟩⟩
    simp only [Pending, Daq.step, controlStep] at hp ⊢
    grind
  | _ => exact ⟨news, h.same (by grind [Daq.step, setCallback, storeByte, advanceIndex, headers])
      fun hp => .inr (by grind [Daq.step, setCallback, storeByte, advanceIndex, Pending])⟩

lemma paced_controlStep (h : d.Untyped) (noise : Option Bool) :
    Paced d.headers [] (d.controlStep noise) where
  headers := rfl
  first := by simp
  pending := by
    refine .inr ⟨rfl, ?_⟩
    simp only [Untyped, controlStep] at h ⊢
    grind

end Daq

/-- When a request is accepted before the frame in progress is typed, whatever the threads
did before and do later, `NO_DUMMY_FRAMES` dummy frames come first. -/
theorem dummies_after_request (cfg : Config) (usb : Fin cfg.chNo → ℕ → Fin cfg.bufferSize → Byte)
    (buffer : Fin cfg.chNo → ℕ → Fin cfg.bufferSize → Byte) (before after : List (Action cfg))
    (noise : Option Bool) (h : (run (Daq.step usb) (Daq.start buffer) before).Untyped) :
    let accepted := (run (Daq.step usb) (Daq.start buffer) before).step usb (.control noise)
    accepted.DummiesFirst (run (Daq.step usb) accepted after) := by
  intro accepted later f earlier hsplit hf _
  obtain ⟨news, hpaced⟩ : Daq.IsPaced accepted.headers (run (step usb) accepted after) :=
    run_of_step _ (fun _ a hs => hs.step usb a) after _ ⟨[], paced_controlStep h noise⟩
  refine hpaced.first later f earlier ?_ hf
  have hnews : news ++ accepted.headers = (later ++ f :: earlier) ++ accepted.headers := by
    rw [← hpaced.headers, hsplit, List.append_assoc, List.cons_append]
  exact List.append_cancel_right hnews

/-- A request that finds the loop at rest, and the frames after it. -/
theorem dummies_after_request_atRest :
    Daq.DummiesFirst ((Daq.start fun _ _ _ => 0 : Daq smallConfig).step numbered (.control none))
      (run (Daq.step numbered) ((Daq.start fun _ _ _ => 0).step numbered (.control none))
        (transfer ++ List.replicate 9 .main)) :=
  dummies_after_request smallConfig numbered (fun _ _ _ => 0) [] _ none (by decide)

def fiveDummies : List (Action smallConfig) :=
  .control none :: (List.replicate 5 (transfer ++ List.replicate 9 .main)).flatten

/-- A request accepted between the comparison and the clearing of the flag gets no dummy
frame at all. -/
theorem exists_data_after_request : ∃ before after : List (Action smallConfig),
      let accepted := (run (Daq.step numbered) (Daq.start fun _ _ _ => 0) before).step numbered
        (.control none)
      ¬accepted.DummiesFirst (run (Daq.step numbered) accepted after) := by
  refine ⟨fiveDummies, .main :: transfer ++ List.replicate 4 .main, fun h => ?_⟩
  exact absurd (h [] ⟨.data, 1, 1, 5, 0, false⟩ [] (by decide +kernel) (by decide) (by decide +kernel))
    (by decide)

end HeimdallDaq.DataPlane.RtlDaq
