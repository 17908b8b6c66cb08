/-
  DataPlane/Decimator.lean --- the stream fir_decimate filters.

  The main loop asks for an output buffer before it looks at the input frame.
-/
import HeimdallDaq.DataPlane.FirGeneric

namespace HeimdallDaq.DataPlane.Decimator

open FirGeneric List

inductive FrameType
  | data
  | dummy
  | cal
  deriving DecidableEq

/-- An input frame with the samples of its channels, and whether an output buffer was
free for it. -/
structure Input where
  frameType : FrameType
  cpiLength : ℕ
  i : ℕ → List ℚ
  q : ℕ → List ℚ
  delivered : Bool

structure Loop where
  engine : Session
  receivedI : ℕ → List ℚ := fun _ => []
  receivedQ : ℕ → List ℚ := fun _ => []

variable (p : FirParams) (buffer : List ℚ)

def calls (ms : List ℕ) (f : Input) : List Call :=
  ms.map fun m : ℕ => .decimate (m : ℤ) (f.i m) (f.q m) buffer buffer
    (f.cpiLength / p.decRatio.toNat * p.decRatio.toNat)

def Input.Filtered (f : Input) : Prop :=
  f.delivered ∧ f.frameType = .data ∧ 1 < p.decRatio ∧ 0 < f.cpiLength / p.decRatio.toNat

instance (f : Input) : Decidable (f.Filtered p) := inferInstanceAs (Decidable (_ ∧ _))

def Loop.filter (d : Loop) (f : Input) : Option Session :=
  if f.Filtered p then d.engine.run (calls p buffer (List.range p.numChannels.toNat) f)
  else some d.engine

def Loop.receive (d : Loop) (f : Input) (engine : Session) : Loop :=
  if f.frameType = .data then
    ⟨engine, fun m => d.receivedI m ++ f.i m, fun m => d.receivedQ m ++ f.q m⟩
  else { d with engine := engine }

def Loop.step (d : Loop) (f : Input) : Option Loop := (d.filter p buffer f).map (d.receive f)

def gained (before after : Stream) : List ℚ := after.output.drop before.output.length

def segment (received new : List ℚ) : List ℚ :=
  (decimated p.coeffs p.decRatio.toNat (received ++ new)).drop (received.length / p.decRatio.toNat)

def Input.Full (f : Input) : Prop :=
  f.frameType = .data → f.cpiLength = p.blockSize * p.decRatio.toNat ∧
    ∀ m, (f.i m).length = f.cpiLength ∧ (f.q m).length = f.cpiLength

variable {p buffer}

lemma segment_congr (hdec : 1 ≤ p.decRatio) {sent received new : List ℚ}
    (hsent : p.decRatio.toNat ∣ sent.length) (hreceived : p.decRatio.toNat ∣ received.length)
    (h : recent (p.coeffs.length - 1) sent = recent (p.coeffs.length - 1) received) :
    segment p sent new = segment p received new := by
  have hpos : 0 < p.decRatio.toNat := by omega
  have hpast : ∀ j < new.length, ∀ k < p.coeffs.length, past (sent ++ new) (sent.length + j) k =
      past (received ++ new) (received.length + j) k := by
    intro j hj k hk
    refine Option.some.inj ?_
    rw [← recent_append_getElem? sent new (by omega : k ≤ p.coeffs.length - 1) hj, h,
      recent_append_getElem? received new (by omega) hj]
  have hlength (x : List ℚ) : (decimated p.coeffs p.decRatio.toNat x).length =
      x.length / p.decRatio.toNat := by simp [decimated]
  rw [segment, segment, decimated_append hpos hsent, decimated_append hpos hreceived,
    drop_left' (hlength sent), drop_left' (hlength received)]
  refine map_congr_left fun n hn => Finset.sum_congr rfl fun k hk => ?_
  have hlt : n * p.decRatio.toNat < new.length := by
    have hle := Nat.div_mul_le_self new.length p.decRatio.toNat
    have hmul := Nat.mul_lt_mul_of_pos_right (mem_range.mp hn) hpos
    omega
  rw [Nat.add_mul, Nat.add_mul, Nat.div_mul_cancel hsent, Nat.div_mul_cancel hreceived,
    hpast _ hlt k (Finset.mem_range.mp hk)]

lemma step_decimate {s s' : Session} {c : ℕ} {inputI inputQ outputI outputQ : List ℚ} {len : ℕ}
    (h : s.step (.decimate c inputI inputQ outputI outputQ len) = some s') (m : ℕ) :
    (s'.channels m).i.input = (s.channels m).i.input ++ (if m = c then inputI.take len else []) ∧
      (s'.channels m).q.input =
        (s.channels m).q.input ++ (if m = c then inputQ.take len else []) := by
  simp only [Session.step, Option.bind_eq_bind, Option.bind_eq_some_iff] at h
  obtain ⟨r, -, h⟩ := h
  obtain rfl := Option.some.inj h
  by_cases hm : m = c
  · simp [hm, Stream.extend]
  · simp [hm]

/-- The samples of a frame go into the streams of the channels. -/
lemma run_calls (hp : p.Valid) (hfits : p.Fits) (hbuffer : buffer.length = p.blockSize)
    {f : Input} (hlen : f.cpiLength = p.blockSize * p.decRatio.toNat)
    (hsamples : ∀ m, (f.i m).length = f.cpiLength ∧ (f.q m).length = f.cpiLength) (ms : List ℕ) :
    ∀ {s : Session}, ms.Nodup → (∀ m ∈ ms, (m : ℤ) < p.numChannels) → s.InStep p →
      ∃ s', s.run (calls p buffer ms f) = some s' ∧ s'.InStep p ∧ ∀ m,
        (s'.channels (m : ℕ)).i.input = (s.channels m).i.input ++ (if m ∈ ms then f.i m else []) ∧
        (s'.channels m).q.input = (s.channels m).q.input ++ (if m ∈ ms then f.q m else []) := by
  have hpos : 0 < p.decRatio.toNat := by have := hp.decRatio; omega
  have hwhole : f.cpiLength / p.decRatio.toNat * p.decRatio.toNat = f.cpiLength := by
    rw [hlen, Nat.mul_div_cancel _ hpos]
  induction ms with
  | nil => exact fun _ _ h => ⟨_, rfl, h, by simp⟩
  | cons c ms ih =>
    intro s hnodup hin h
    rw [nodup_cons] at hnodup
    rw [forall_mem_cons] at hin
    have houtput : f.cpiLength / p.decRatio.toNat * p.decRatio.toNat / p.decRatio.toNat ≤
        buffer.length := by rw [hwhole, hlen, Nat.mul_div_cancel _ hpos, hbuffer]
    have hproper : Call.Proper p (.decimate c (f.i c) (f.q c) buffer buffer
        (f.cpiLength / p.decRatio.toNat * p.decRatio.toNat)) :=
      ⟨by omega, hin.1, by rw [hwhole, (hsamples c).1], by rw [hwhole, (hsamples c).2],
        Nat.dvd_mul_left _ _, by rw [hwhole, hlen], houtput, houtput⟩
    obtain ⟨s₁, hs₁, h₁⟩ := inStep_step hp hfits h hproper
    obtain ⟨s₂, hs₂, h₂, hstreams⟩ := ih hnodup.2 hin.2 h₁
    refine ⟨s₂, ?_, h₂, fun m => ?_⟩
    · rw [calls, map_cons, Session.run, foldlM_cons, hs₁]
      exact hs₂
    · have hfirst := step_decimate hs₁ m
      rw [hwhole, take_of_length_le (hsamples c).1.le,
        take_of_length_le (hsamples c).2.le] at hfirst
      rw [(hstreams m).1, (hstreams m).2, hfirst.1, hfirst.2]
      by_cases hm : m = c
      · simp [hm, hnodup.1]
      · simp [hm]

/-- The engine is in step, and whole groups of `dec` samples were received. -/
structure Loop.Ready (p : FirParams) (d : Loop) : Prop where
  engine : d.engine.InStep p
  receivedI : ∀ m, p.decRatio.toNat ∣ (d.receivedI m).length
  receivedQ : ∀ m, p.decRatio.toNat ∣ (d.receivedQ m).length

def Loop.sent (d : Loop) (m : ℕ) : List ℚ × List ℚ :=
  ((d.engine.channels m).i.input, (d.engine.channels m).q.input)

lemma Loop.Ready.receive {d : Loop} (h : d.Ready p) {f : Input} (hf : f.Full p) {s : Session}
    (hs : s.InStep p) : (d.receive f s).Ready p := by
  unfold Loop.receive
  split
  case isTrue hdata =>
    obtain ⟨hlen, hsamples⟩ := hf hdata
    refine ⟨hs, fun m => ?_, fun m => ?_⟩
    · rw [length_append, (hsamples m).1, hlen]
      exact Nat.dvd_add (h.receivedI m) (Nat.dvd_mul_left _ _)
    · rw [length_append, (hsamples m).2, hlen]
      exact Nat.dvd_add (h.receivedQ m) (Nat.dvd_mul_left _ _)
  case isFalse => exact ⟨hs, h.receivedI, h.receivedQ⟩

section

variable (hp : p.Valid) (hfits : p.Fits) (hbuffer : buffer.length = p.blockSize)
include hp hfits hbuffer

lemma Loop.Ready.deliver
    {d : Loop} (h : d.Ready p) {f : Input} (hf : f.Full p) (hgo : f.Filtered p) :
    ∃ d', d.step p buffer f = some d' ∧ d'.Ready p ∧ ∀ m : ℕ, (m : ℤ) < p.numChannels →
      d'.sent m = ((d.sent m).1 ++ f.i m, (d.sent m).2 ++ f.q m) := by
  obtain ⟨hlen, hsamples⟩ := hf hgo.2.1
  obtain ⟨s', hrun, hs', hstreams⟩ := run_calls hp hfits hbuffer hlen hsamples
    (range p.numChannels.toNat) nodup_range (by simp) h.engine
  refine ⟨d.receive f s', by rw [Loop.step, Loop.filter, if_pos hgo, hrun]; rfl, h.receive hf hs',
    fun m hm => ?_⟩
  have hmem : m ∈ range p.numChannels.toNat := mem_range.mpr (by omega)
  simp only [Loop.sent, Loop.receive, if_pos hgo.2.1, (hstreams m).1, (hstreams m).2, if_pos hmem]

lemma Loop.Ready.step
    {d : Loop} (h : d.Ready p) {f : Input} (hf : f.Full p) :
    ∃ d', d.step p buffer f = some d' ∧ d'.Ready p := by
  by_cases hgo : f.Filtered p
  · obtain ⟨d', hstep, hready, -⟩ := h.deliver hp hfits hbuffer hf hgo
    exact ⟨d', hstep, hready⟩
  · exact ⟨d.receive f d.engine, by rw [Loop.step, Loop.filter, if_neg hgo]; rfl,
      h.receive hf h.engine⟩

lemma Loop.Ready.run
    (inputs : List Input) : ∀ {d : Loop}, d.Ready p → (∀ f ∈ inputs, f.Full p) →
      ∃ d', inputs.foldlM (Loop.step p buffer) d = some d' ∧ d'.Ready p := by
  induction inputs with
  | nil => exact fun h _ => ⟨_, rfl, h⟩
  | cons f inputs ih =>
    intro d h hinputs
    obtain ⟨d₁, hd₁, h₁⟩ := h.step hp hfits hbuffer (hinputs f mem_cons_self)
    obtain ⟨d₂, hd₂, h₂⟩ := ih h₁ fun g hg => hinputs g (mem_cons_of_mem f hg)
    exact ⟨d₂, by rw [foldlM_cons, hd₁]; exact hd₂, h₂⟩

end

/-- What a stream gains is the segment after what was sent before. -/
lemma gained_eq_segment {ctx ctx' : FirCtx} {k : ℕ} {s s' : Stream}
    (h : Filters p ctx k s) (h' : Filters p ctx' k s') {new : List ℚ}
    (hinput : s'.input = s.input ++ new) : gained s s' = segment p s.input new := by
  rw [gained, segment, h'.output, h.output, hinput]
  simp [decimated]

/-- After every sequence of frames, a delivered DATA frame carries the segment of the
decimated received stream if the history the filter needs was delivered. -/
theorem delivered_continues (p : FirParams) (hp : p.Valid) (hfits : p.Fits) (hdec : 1 < p.decRatio)
    (hblock : 0 < p.blockSize) (garbage : ℕ → ℚ) (buffer : List ℚ)
    (hbuffer : buffer.length = p.blockSize) (inputs : List Input) (hinputs : ∀ f ∈ inputs, f.Full p)
    (f : Input) (hf : f.Full p) (hdata : f.frameType = .data) (hdelivered : f.delivered) :
    ∃ ctx d d', genericFirInit true garbage p = some ctx ∧
      inputs.foldlM (Loop.step p buffer) { engine := ⟨ctx, fun _ => {}⟩ } = some d ∧
      d.step p buffer f = some d' ∧ ∀ m : ℕ, (m : ℤ) < p.numChannels →
        (recent (p.tapSize - 1) (d.sent m).1 = recent (p.tapSize - 1) (d.receivedI m) →
          gained (d.engine.channels m).i (d'.engine.channels m).i =
            segment p (d.receivedI m) (f.i m)) ∧
        (recent (p.tapSize - 1) (d.sent m).2 = recent (p.tapSize - 1) (d.receivedQ m) →
          gained (d.engine.channels m).q (d'.engine.channels m).q =
            segment p (d.receivedQ m) (f.q m)) := by
  obtain ⟨ctx, hinit, hstart⟩ := inStep_start hp hfits garbage
  obtain ⟨d, hrun, hready⟩ := Loop.Ready.run hp hfits hbuffer inputs
    (d := { engine := ⟨ctx, fun _ => {}⟩ }) ⟨hstart, by simp, by simp⟩ hinputs
  have hgo : f.Filtered p :=
    ⟨hdelivered, hdata, hdec, by rwa [(hf hdata).1, Nat.mul_div_cancel _ (by omega)]⟩
  obtain ⟨d', hstep, hready', hsent⟩ := hready.deliver hp hfits hbuffer hf hgo
  refine ⟨ctx, d, d', hinit, hrun, hstep, fun m hm => ?_⟩
  have hlast := Prod.mk.inj (hsent m hm)
  rw [← hp.coeffs]
  refine ⟨fun h => ?_, fun h => ?_⟩
  · rw [gained_eq_segment (hready.engine.i m hm) (hready'.engine.i m hm) hlast.1]
    exact segment_congr (by omega) (hready.engine.i m hm).input (hready.receivedI m) h
  · rw [gained_eq_segment (hready.engine.q m hm) (hready'.engine.q m hm) hlast.2]
    exact segment_congr (by omega) (hready.engine.q m hm).input (hready.receivedQ m) h

def pairs : FirParams := ⟨[1, 1], 2, 2, 1, 1⟩

def dataFrame (x : ℚ) (delivered : Bool) : Input :=
  ⟨.data, 2, fun _ => [x, x], fun _ => [x, x], delivered⟩

lemma full_dataFrame (x : ℚ) (delivered : Bool) : (dataFrame x delivered).Full pairs :=
  fun _ => ⟨rfl, fun _ => ⟨rfl, rfl⟩⟩

theorem delivered_continues_pairs : ∃ ctx d d', genericFirInit true (fun _ => 0) pairs = some ctx ∧
      [dataFrame 1 true].foldlM (Loop.step pairs [0]) { engine := ⟨ctx, fun _ => {}⟩ } = some d ∧
      d.step pairs [0] (dataFrame 5 true) = some d' ∧ ∀ m : ℕ, (m : ℤ) < pairs.numChannels →
        (recent (pairs.tapSize - 1) (d.sent m).1 = recent (pairs.tapSize - 1) (d.receivedI m) →
          gained (d.engine.channels m).i (d'.engine.channels m).i =
            segment pairs (d.receivedI m) [5, 5]) ∧
        (recent (pairs.tapSize - 1) (d.sent m).2 = recent (pairs.tapSize - 1) (d.receivedQ m) →
          gained (d.engine.channels m).q (d'.engine.channels m).q =
            segment pairs (d.receivedQ m) [5, 5]) :=
  delivered_continues pairs ⟨by decide, by decide, by decide, rfl⟩
    ⟨by decide, by decide, by decide⟩ (by decide) (by decide) (fun _ => 0) [0] rfl
    [dataFrame 1 true] (by simp [full_dataFrame]) (dataFrame 5 true) (full_dataFrame 5 true) rfl rfl

/-- The frame of fives is dropped; the next one is filtered after the frame of ones. -/
theorem dropped_samples_missing : ∃ ctx d d', genericFirInit true (fun _ => 0) pairs = some ctx ∧
      [dataFrame 1 true, dataFrame 5 false].foldlM (Loop.step pairs [0])
        { engine := ⟨ctx, fun _ => {}⟩ } = some d ∧
      d.step pairs [0] (dataFrame 0 true) = some d' ∧
      gained (d.engine.channels 0).i (d'.engine.channels 0).i = [1] ∧
      segment pairs (d.receivedI 0) [0, 0] = [5] :=
  ⟨_, _, _, rfl, rfl, rfl, by decide +kernel, by decide +kernel⟩

end HeimdallDaq.DataPlane.Decimator
