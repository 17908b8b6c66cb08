/-
  DataPlane/RebufferFlags.lean --- which overdrive flags a rebuffered frame carries.

  The block ORs the flags of the input frames into one word, which it hands on with the
  next delivered frame and then clears.
-/
import HeimdallDaq.DataPlane.RebufferStream
import Mathlib

namespace HeimdallDaq.DataPlane.Rebuffer

open Foundation List

variable {cfg : Config}

/-- The loop, with the flags of the input frame that wrote each byte of the rings last (0 for
the fill), and, of each delivered frame, its flags beside those of the bytes it carries. -/
structure Traced (cfg : Config) where
  loop : Loop cfg
  origin : ℕ → BitVec 32 := fun _ => 0
  reports : List (BitVec 32 × List (BitVec 32)) := []

namespace Traced

variable (t : Traced cfg) (i : Input cfg)

def written : ℕ → BitVec 32 :=
  if i.header.frameType = .dummy then fun _ => 0
  else fun s =>
    if t.loop.rdOffset ≤ s ∧ s < t.loop.rdOffset + cfg.inBufferSize * 2 then
      i.header.adcOverdriveFlags
    else t.origin s

def begins : ℕ := if i.header.frameType = .dummy then 0 else t.loop.wrOffset

def report (header : IqHeader) : BitVec 32 × List (BitVec 32) :=
  (header.adcOverdriveFlags,
    (List.range (header.cpiLength * 2)).map fun k => t.written i ((t.begins i + k) % cfg.ringSize))

def turn : Option (Traced cfg) := do
  let r ← t.loop.turn i
  some
    { loop := r
      origin := t.written i
      reports := t.reports ++
        (r.frames.drop t.loop.frames.length).map fun f => t.report i f.header }

def step (t : Option (Traced cfg)) (i : Input cfg) : Option (Traced cfg) := t.bind (·.turn i)

def start (cfg : Config) : Option (Traced cfg) := (Loop.start cfg).map fun r => { loop := r }

def Reported (t : Traced cfg) : Prop := ∀ p ∈ t.reports, ∀ o ∈ p.2, o &&& p.1 = o

end Traced

/-- The ints hold what is unread, and a frame that is delivered leaves no byte behind that an
input frame with flags wrote. -/
def NoFlagLeft : Option (Traced cfg) → Input cfg → Prop
  | none, _ => True
  | some t, i =>
    i.header.frameType ≠ .dummy → t.loop.available + (cfg.inBufferSize * 2 : ℕ) < 2 ^ 31 ∧
      (i.outcome = .delivered → ∀ k < (t.loop.available + (cfg.inBufferSize * 2 : ℕ)).toNat,
        Stream.wanted cfg i.header.frameType * 2 ≤ k →
          t.written i ((t.loop.wrOffset + k) % cfg.ringSize) = 0)

instance decidableNoFlagLeft : ∀ (t : Option (Traced cfg)) (i : Input cfg),
    Decidable (NoFlagLeft t i)
  | none, _ => inferInstanceAs (Decidable True)
  | some t, i =>
    inferInstanceAs (Decidable (_ → _ < _ ∧ (_ → ∀ k < Int.toNat _, _ ≤ k →
      t.written i ((t.loop.wrOffset + k) % cfg.ringSize) = 0)))

/-! ## One turn -/

variable {r : Loop cfg}

lemma Loop.copyOut_isSome (hfits : cfg.Fits) (hlength : ∀ m, (r.circBuffer m).length = cfg.ringSize)
    (hwr : r.wrOffset < cfg.ringSize) (hsize : r.activeOutBufferSize * 2 ≤ cfg.longest)
    (m : Fin cfg.numCh) : ∃ bytes, r.copyOut (r.activeOutBufferSize * 2) m = some bytes := by
  have hroom := cfg.room
  unfold Loop.copyOut Loop.chunkSize
  rw [checked_of_lt (channelOffset_lt hfits hsize m), Option.bind_eq_bind, Option.bind_some]
  split
  · exact ⟨_, slice_of_le (by rw [hlength]; omega)⟩
  · rw [slice_of_le (by rw [hlength]; omega), slice_of_le (by rw [hlength]; omega)]
    exact ⟨_, rfl⟩

variable {i : Input cfg}

/-- A DUMMY frame clears the rings; when it is dropped, a size left over from the turn before
writes a frame all the same, from the cleared rings. -/
lemma Loop.turn_dummy_spec (hfits : cfg.Fits) (hdummy : i.header.frameType = .dummy)
    (hsize : r.activeOutBufferSize * 2 ≤ cfg.longest) :
    ∃ r', r.turn i = some r' ∧ (∀ m, (r'.circBuffer m).length = cfg.ringSize) ∧
      r'.activeOutBufferSize * 2 ≤ cfg.longest ∧ r'.rdOffset = 0 ∧
      ∃ size, size ≤ cfg.longest ∧ r'.available = -(size : ℤ) ∧ r'.wrOffset = size % cfg.ringSize ∧
      (r'.frames = r.frames ∨ ∃ f, r'.frames = r.frames ++ [f]) := by
  have hread : r.readIq i = some r := if_neg (by rw [i.dummy_cpiLength hdummy]; exact lt_irrefl 0)
  unfold Loop.turn
  rw [hread, Option.bind_eq_bind, Option.bind_some, Loop.account, if_pos hdummy]
  simp only [Option.bind_some, Loop.choose, hdummy, if_true]
  cases houtcome : i.outcome with
  | delivered =>
    exact ⟨_, emit_of_inactive rfl _ _, fun _ => length_replicate, Nat.zero_le _, rfl, 0,
      Nat.zero_le _, rfl, rfl, .inr ⟨_, rfl⟩⟩
  | dropped =>
    simp only [Option.bind_some]
    set cleared : Loop cfg := { r with
      circBuffer := fun _ => replicate cfg.ringSize 0
      wrOffset := 0
      rdOffset := 0
      available := 0 }
    by_cases hactive : r.activeOutBufferSize = 0
    · exact ⟨cleared, emit_of_inactive (r := cleared) hactive _ _, fun _ => length_replicate,
        hsize, rfl, 0, Nat.zero_le _, rfl, rfl, .inl rfl⟩
    · choose payload hpayload using
        Loop.copyOut_isSome (r := cleared) hfits (fun _ => length_replicate) cfg.ringSize_pos hsize
      obtain ⟨r', hemit, hbuffer, hactive', hrd, havailable, hwr, hframes⟩ :=
        Loop.emit_spec (r := cleared) hfits cfg.ringSize_pos hsize hactive le_rfl
          (by simp [cleared]) hpayload i.header i.again
      refine ⟨r', hemit, ?_, hactive' ▸ hsize, hrd, _, hsize, ?_, ?_, ?_⟩
      · rw [hbuffer]
        exact fun _ => length_replicate
      · exact havailable.trans (zero_sub _)
      · exact hwr.trans (by rw [Nat.zero_add])
      · rcases hframes with ⟨-, hframes, -⟩ | ⟨-, -, f, hframes, -⟩
        · exact .inl hframes
        · exact .inr ⟨f, hframes⟩

/-! ## Runs -/

lemma and_or_of_left {o f : BitVec 32} (h : o &&& f = o) (g : BitVec 32) : o &&& (f ||| g) = o := by
  grind

lemma and_or_self_right (f g : BitVec 32) : g &&& (f ||| g) = g := by
  ext k hk
  simp only [BitVec.getElem_and, BitVec.getElem_or]
  grind

/-- The unread bytes lie between the two offsets, and come from input frames whose flags are
still to be reported. -/
structure Covered (t : Traced cfg) : Prop where
  length : ∀ m, (t.loop.circBuffer m).length = cfg.ringSize
  active : t.loop.activeOutBufferSize * 2 ≤ cfg.longest
  available : -(cfg.longest : ℤ) ≤ t.loop.available
  wrOffset : t.loop.wrOffset < cfg.ringSize
  rdOffset : (t.loop.rdOffset : ℤ) = (t.loop.wrOffset + t.loop.available) % (cfg.ringSize : ℤ)
  aligned : cfg.inBufferSize * 2 ∣ t.loop.rdOffset
  pending : ∀ k : ℕ, (k : ℤ) < t.loop.available →
    t.origin ((t.loop.wrOffset + k) % cfg.ringSize) &&& t.loop.adcOverdriveFlags =
      t.origin ((t.loop.wrOffset + k) % cfg.ringSize)
  reported : t.Reported

open Traced

namespace Covered

variable {t : Traced cfg} (h : Covered t)

include h

lemma rdOffset_lt : t.loop.rdOffset < cfg.ringSize := by
  have hpos : (0 : ℤ) < cfg.ringSize := by exact_mod_cast cfg.ringSize_pos
  have hlt := Int.emod_lt_of_pos (t.loop.wrOffset + t.loop.available) hpos
  rw [← h.rdOffset] at hlt
  exact_mod_cast hlt

lemma written (hdata : i.header.frameType ≠ .dummy) {k : ℕ}
    (hk : (k : ℤ) < t.loop.available + (cfg.inBufferSize * 2 : ℕ)) :
    t.written i ((t.loop.wrOffset + k) % cfg.ringSize) &&&
      (t.loop.adcOverdriveFlags ||| i.header.adcOverdriveFlags) =
        t.written i ((t.loop.wrOffset + k) % cfg.ringSize) := by
  simp only [Traced.written, if_neg hdata]
  split_ifs with hslot
  · exact and_or_self_right _ _
  · refine and_or_of_left (h.pending k ?_) _
    by_contra hge
    -- the byte would be one of those just written
    have hfits := cfg.buffer_fits h.aligned
    rw [Nat.mod_eq_of_lt h.rdOffset_lt] at hfits
    have hpos : (((t.loop.wrOffset + k) % cfg.ringSize : ℕ) : ℤ) =
        t.loop.rdOffset + (k - t.loop.available) := by
      rw [Int.natCast_mod, Nat.cast_add, show (t.loop.wrOffset + k : ℤ) =
        t.loop.wrOffset + t.loop.available + (k - t.loop.available) by ring, ← Int.emod_add_emod,
        ← h.rdOffset, Int.emod_eq_of_lt (by omega) (by omega)]
    omega

lemma turn_dummy (hfits : cfg.Fits) (hdummy : i.header.frameType = .dummy) :
    ∃ t', t.turn i = some t' ∧ Covered t' := by
  obtain ⟨r', hturn, hlength, hactive, hrd, size, hsize, havailable, hwr, hframes⟩ :=
    Loop.turn_dummy_spec hfits hdummy h.active
  refine ⟨_, by rw [Traced.turn, hturn]; rfl, hlength, hactive, ?_, ?_, ?_, ?_, ?_, ?_⟩
  · rw [havailable]
    omega
  · rw [hwr]
    exact Nat.mod_lt _ cfg.ringSize_pos
  · rw [hrd, hwr, havailable, Int.natCast_mod, Int.emod_add_emod, add_neg_cancel]
    rfl
  · rw [hrd]
    exact dvd_zero _
  · intro k hk
    rw [havailable] at hk
    omega
  · rcases hframes with hframes | ⟨f, hframes⟩ <;>
      simp only [Traced.Reported, hframes, drop_length, drop_left, map_nil,
        append_nil, map_cons, forall_mem_append, forall_mem_singleton]
    · exact h.reported
    · refine ⟨h.reported, ?_⟩
      simp [Traced.report, Traced.written, hdummy]

/-- Reading a frame with samples, up to the decision how much to write. -/
lemma receive (hfits : cfg.Fits) (hdata : i.header.frameType ≠ .dummy)
    (hhigh : t.loop.available + (cfg.inBufferSize * 2 : ℕ) < 2 ^ 31) :
    ∃ r₁ : Loop cfg, t.loop.turn i = r₁.emit i.header i.outcome ∧
      (∀ m, (r₁.circBuffer m).length = cfg.ringSize) ∧
      r₁.rdOffset = (t.loop.rdOffset + cfg.inBufferSize * 2) % cfg.ringSize ∧
      r₁.wrOffset = t.loop.wrOffset ∧
      r₁.available = t.loop.available + (cfg.inBufferSize * 2 : ℕ) ∧
      r₁.frames = t.loop.frames ∧
      r₁.adcOverdriveFlags = t.loop.adcOverdriveFlags ||| i.header.adcOverdriveFlags ∧
      r₁.activeOutBufferSize =
        if ((Stream.wanted cfg i.header.frameType * 2 : ℕ) : ℤ) ≤ r₁.available then
          Stream.wanted cfg i.header.frameType else 0 := by
  have hlow := h.available
  have hbound := hfits.ring
  have hring := cfg.ringSize_pos
  have hwanted := cfg.wanted_le i.header.frameType
  have hfit := cfg.buffer_fits h.aligned
  rw [Nat.mod_eq_of_lt h.rdOffset_lt] at hfit
  obtain ⟨ring, hstored, hread⟩ := Loop.receive_spec hfits h.length hfit hdata (by omega) hhigh
  rw [turn_of_ne_dummy hdata, hread, Option.bind_some, activate_eq (by omega)]
  exact ⟨_, rfl, fun m => (blit_length (hstored m)).trans (h.length m), rfl, rfl, rfl, rfl, rfl,
    rfl⟩

/-- What the frames added in a turn report. -/
lemma turn_data (hfits : cfg.Fits) (hdata : i.header.frameType ≠ .dummy)
    (hleft : NoFlagLeft (some t) i) : ∃ t', t.turn i = some t' ∧ Covered t' := by
  obtain ⟨hhigh, hclear⟩ := hleft hdata
  have hring := cfg.ringSize_pos
  have hlow := h.available
  have hbound := hfits.ring
  obtain ⟨r₁, hturn, hlength, hrd, hwr, havailable, hframes, hflags, hactive⟩ :=
    h.receive hfits hdata hhigh
  have haligned : cfg.inBufferSize * 2 ∣ r₁.rdOffset := by
    rw [hrd, Nat.dvd_mod_iff cfg.inBufferSize_dvd]
    exact Nat.dvd_add h.aligned (dvd_refl _)
  have hrd' : (r₁.rdOffset : ℤ) = (r₁.wrOffset + r₁.available) % (cfg.ringSize : ℤ) := by
    rw [hrd, hwr, havailable, Int.natCast_mod, Nat.cast_add, h.rdOffset, Int.emod_add_emod,
      add_assoc]
  have hcovered : ∀ k : ℕ, (k : ℤ) < r₁.available →
      t.written i ((t.loop.wrOffset + k) % cfg.ringSize) &&& r₁.adcOverdriveFlags =
        t.written i ((t.loop.wrOffset + k) % cfg.ringSize) := by
    intro k hk
    rw [hflags]
    exact h.written hdata (havailable ▸ hk)
  by_cases hlong : ((Stream.wanted cfg i.header.frameType * 2 : ℕ) : ℤ) ≤ r₁.available
  · rw [if_pos hlong] at hactive
    have hsize : r₁.activeOutBufferSize * 2 ≤ cfg.longest := hactive ▸ cfg.wanted_le _
    choose payload hpayload using Loop.copyOut_isSome hfits hlength (hwr ▸ h.wrOffset) hsize
    obtain ⟨r', hemit, hbuffer, hactive', hrd'', havailable', hwr', hframe⟩ :=
      Loop.emit_spec hfits (hwr ▸ h.wrOffset) hsize (hactive ▸ (cfg.wanted_pos hdata).ne')
        (by omega) (by omega) hpayload i.header i.outcome
    rw [hactive] at hactive' havailable' hwr'
    have hslot : ∀ k, (r'.wrOffset + k) % cfg.ringSize =
        (t.loop.wrOffset + (Stream.wanted cfg i.header.frameType * 2 + k)) % cfg.ringSize := by
      intro k
      rw [hwr', hwr, Nat.mod_add_mod, Nat.add_assoc]
    refine ⟨_, by rw [turn, hturn, hemit]; rfl, ?_, ?_, ?_, ?_, ?_, ?_, ?_, ?_⟩
    · rw [hbuffer]
      exact hlength
    · rw [hactive']
      exact cfg.wanted_le _
    · rw [havailable']
      omega
    · rw [hwr']
      exact Nat.mod_lt _ hring
    · rw [hrd'', hrd', hwr', havailable', Int.natCast_mod, Int.emod_add_emod]
      congr 1
      push_cast
      ring
    · rw [hrd'']
      exact haligned
    · intro k hk
      rw [havailable'] at hk
      simp only [hslot]
      rcases hframe with ⟨-, -, hflags'⟩ | ⟨houtcome, -, -⟩
      · rw [hflags']
        exact hcovered _ (by omega)
      · rw [hclear houtcome _ (by omega) (Nat.le_add_right _ _)]
        exact BitVec.zero_and
    · rcases hframe with ⟨-, hframes', -⟩ | ⟨-, -, f, hframes', -, hcpi, hreport⟩ <;>
        simp only [Traced.Reported, hframes', hframes, drop_length, drop_left,
          map_nil, append_nil, map_cons, forall_mem_append,
          forall_mem_singleton]
      · exact h.reported
      · refine ⟨h.reported, ?_⟩
        simp only [report, begins, if_neg hdata, forall_mem_map, mem_range, hcpi, hreport, hactive]
        exact fun k hk => hcovered k (by omega)
  · rw [if_neg hlong] at hactive
    refine ⟨_, by rw [turn, hturn, emit_of_inactive hactive]; rfl, hlength, ?_, ?_, ?_,
      hrd', haligned, ?_, ?_⟩
    · rw [hactive]
      exact Nat.zero_le _
    · rw [havailable]
      omega
    · rw [hwr]
      exact h.wrOffset
    · rw [hwr]
      exact hcovered
    · simp only [Traced.Reported, hframes, drop_length, map_nil, append_nil]
      exact h.reported

end Covered

lemma start_covered (hfits : cfg.Fits) : ∃ t, Traced.start cfg = some t ∧ Covered t := by
  rw [start, start_eq hfits]
  refine ⟨_, rfl, fun _ => length_replicate, Nat.zero_le _, ?_, cfg.ringSize_pos, rfl,
    dvd_zero _, ?_, nofun⟩
  · exact neg_nonpos.mpr (Int.natCast_nonneg _)
  · intro k hk
    exact absurd hk (Int.natCast_nonneg k).not_gt

/-- In every run in which the frames that are delivered leave no flagged bytes behind, every
delivered frame reports the flags of the input frames it has samples of. -/
theorem overdrive_reported (cfg : Config) (hfits : cfg.Fits) (inputs : List (Input cfg))
    (hleft : Along Traced.step NoFlagLeft (Traced.start cfg) inputs) :
    ∃ t, run Traced.step (Traced.start cfg) inputs = some t ∧ t.Reported := by
  have hstep : ∀ (o : Option (Traced cfg)) (i : Input cfg), (∃ t, o = some t ∧ Covered t) →
      NoFlagLeft o i → ∃ t, step o i = some t ∧ Covered t := by
    rintro o i ⟨t, rfl, h⟩ hleft
    by_cases hdummy : i.header.frameType = .dummy
    · exact h.turn_dummy hfits hdummy
    · exact h.turn_data hfits hdummy hleft
  obtain ⟨t, hrun, h⟩ := run_invariant step hstep inputs _ (start_covered hfits) hleft
  exact ⟨t, hrun, h.reported⟩

abbrev pairs (cpiSize : ℕ) (h : 2 ≤ cpiSize) : Config :=
  ⟨1, 1, cpiSize, 2, 1, two_eq_pow, by omega, Nat.one_pos⟩

def flagged {cpiSize : ℕ} {h : 2 ≤ cpiSize} (flags : BitVec 32) : Input (pairs cpiSize h) where
  header := ⟨.data, 0, 2, flags⟩
  iq := fun _ => [0, 0, 0, 0]
  outcome := .delivered
  dummy_cpiLength := nofun
  cpiLength_eq := fun _ => rfl
  length_iq := fun _ _ => rfl

/-- CPIs of three samples, and a second buffer in both frames that has no flags. -/
theorem overdrive_reported_thirds :
    ∃ t : Traced (pairs 3 (by decide)), run Traced.step (Traced.start _)
      [flagged 1, flagged 0, flagged 2] = some t ∧ t.Reported :=
  overdrive_reported _ ⟨by decide, by decide⟩ _ (by decide)

/-- CPIs of three samples: the second buffer is in both frames, and the second frame does not
report it. -/
theorem exists_unreported : ∃ t : Traced (pairs 3 (by decide)), run Traced.step (Traced.start _)
      [flagged 0, flagged 1, flagged 0] = some t ∧ ¬t.Reported := by
  have hrun : (run step (start (pairs 3 (by decide)))
      [flagged 0, flagged 1, flagged 0]).map (·.reports) =
        some [(1, [0, 0, 0, 0, 1, 1]), (0, [1, 1, 0, 0, 0, 0])] := by decide
  obtain ⟨t, ht, hreports⟩ := Option.map_eq_some_iff.mp hrun
  refine ⟨t, ht, fun h => ?_⟩
  have hsecond := h (0, [1, 1, 0, 0, 0, 0]) (by rw [hreports]; simp) 1 (by simp)
  exact absurd hsecond (by decide)

end HeimdallDaq.DataPlane.Rebuffer
