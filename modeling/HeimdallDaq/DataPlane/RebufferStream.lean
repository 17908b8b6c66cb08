/-
  DataPlane/RebufferStream.lean --- the rings of rebuffer.c hold the stream.

  A position of the stream is found in the ring modulo its size.
-/
import HeimdallDaq.DataPlane.Rebuffer

namespace HeimdallDaq.DataPlane.Rebuffer

open Foundation List Option

variable {cfg : Config}

/-! ## Sizes -/

namespace Config

variable (cfg : Config)

def longest : ℕ := max cfg.outBufferSize cfg.calOutBufferSize * 2

/-- The ints of the block can hold its sizes: an offset and a frame length added up,
and the offset of each channel in a frame. -/
structure Fits (cfg : Config) : Prop where
  ring : cfg.ringSize + cfg.longest ≤ 2 ^ 31
  frame : cfg.numCh * cfg.longest ≤ 2 ^ 31

lemma inBufferSize_pos : 0 < cfg.inBufferSize := by
  obtain ⟨k, hk⟩ := cfg.daqBufferSize_pow
  rw [inBufferSize, hk]
  exact Nat.two_pow_pos k

lemma bufferNum_eq : cfg.bufferNum = max cfg.bufferNumData cfg.bufferNumCal := by
  unfold bufferNum
  split <;> omega

lemma room : cfg.longest + cfg.inBufferSize * 2 ≤ cfg.ringSize := by
  have hround : ∀ size, size / cfg.inBufferSize + 2 ≤ cfg.bufferNum →
      size + cfg.inBufferSize ≤ cfg.bufferNum * cfg.inBufferSize := by
    intro size hnum
    have hdiv := Nat.lt_div_mul_add (a := size) cfg.inBufferSize_pos
    calc size + cfg.inBufferSize
        ≤ (size / cfg.inBufferSize + 2) * cfg.inBufferSize := by
          rw [Nat.add_mul]
          omega
      _ ≤ cfg.bufferNum * cfg.inBufferSize := Nat.mul_le_mul_right _ hnum
  have hdata := hround cfg.outBufferSize (by rw [bufferNum_eq]; exact Nat.le_max_left ..)
  have hcal := hround cfg.calOutBufferSize (by rw [bufferNum_eq]; exact Nat.le_max_right ..)
  unfold longest ringSize
  omega

lemma inBufferSize_le : cfg.inBufferSize * 2 ≤ cfg.longest := by
  have hcpi : cfg.inBufferSize ≤ cfg.outBufferSize := cfg.daqBufferSize_le
  unfold longest
  omega

lemma Fits.ringSize_lt {cfg : Config} (h : cfg.Fits) : cfg.ringSize < 2 ^ 31 := by
  have := h.ring
  have := cfg.inBufferSize_le
  have := cfg.inBufferSize_pos
  omega

lemma ringSize_pos : 0 < cfg.ringSize := by
  have := cfg.room
  have := cfg.inBufferSize_pos
  omega

lemma inBufferSize_dvd : cfg.inBufferSize * 2 ∣ cfg.ringSize :=
  ⟨cfg.bufferNum, by rw [ringSize, Nat.mul_assoc, Nat.mul_comm]⟩

lemma buffer_fits {pos : ℕ} (h : cfg.inBufferSize * 2 ∣ pos) :
    pos % cfg.ringSize + cfg.inBufferSize * 2 ≤ cfg.ringSize := by
  have hlt := Nat.mod_lt pos cfg.ringSize_pos
  obtain ⟨j, hj⟩ := (Nat.dvd_mod_iff cfg.inBufferSize_dvd).mpr h
  obtain ⟨k, hk⟩ := cfg.inBufferSize_dvd
  rw [hj, hk] at hlt ⊢
  have hjk : j + 1 ≤ k := Nat.lt_of_mul_lt_mul_left hlt
  calc cfg.inBufferSize * 2 * j + cfg.inBufferSize * 2
      = cfg.inBufferSize * 2 * (j + 1) := (Nat.mul_succ _ _).symm
    _ ≤ cfg.inBufferSize * 2 * k := Nat.mul_le_mul_left _ hjk

lemma wanted_le (frameType : RtlDaq.FrameType) : Stream.wanted cfg frameType * 2 ≤ cfg.longest := by
  unfold longest
  cases frameType <;> simp only [Stream.wanted] <;> omega

lemma wanted_pos {frameType : RtlDaq.FrameType} (h : frameType ≠ .dummy) :
    0 < Stream.wanted cfg frameType := by
  cases frameType with
  | dummy => exact absurd rfl h
  | data => exact cfg.inBufferSize_pos.trans_le cfg.daqBufferSize_le
  | cal => exact cfg.calSize_pos

end Config

lemma checked_of_lt {v : ℕ} (h : v < 2 ^ 31) : checked v = some v := if_pos h

lemma checkedInt_natCast {v : ℕ} (h : v < 2 ^ 31) : checkedInt (v : ℤ) = some (v : ℤ) :=
  if_pos (by omega)

/-! ## The ring and the stream -/

structure Tracks (r : Loop cfg) (s : Stream cfg) : Prop where
  length : ∀ m, (r.circBuffer m).length = cfg.ringSize
  since : ∀ m, (s.since m).length = s.received
  taken : s.taken ≤ s.received
  room : s.received - s.taken ≤ cfg.ringSize
  rdOffset : r.rdOffset = s.received % cfg.ringSize
  wrOffset : r.wrOffset = s.taken % cfg.ringSize
  available : r.available = ((s.received - s.taken : ℕ) : ℤ)
  aligned : cfg.inBufferSize * 2 ∣ s.received
  unread : ∀ m, Carries (r.circBuffer m) s.taken ((s.since m).drop s.taken)
  frames : r.frames.map OutFrame.content = s.frames

variable {r : Loop cfg} {s : Stream cfg}

lemma Tracks.length_unread (h : Tracks r s) (m : Fin cfg.numCh) :
    ((s.since m).drop s.taken).length = s.received - s.taken := by
  rw [length_drop, h.since m]

variable {r' : Loop cfg}

lemma Tracks.of_same (h : Tracks r s)
    (hbuffer : r'.circBuffer = r.circBuffer) (hrd : r'.rdOffset = r.rdOffset)
    (hwr : r'.wrOffset = r.wrOffset) (havailable : r'.available = r.available)
    (hframes : r'.frames = r.frames) : Tracks r' s := by
  refine ⟨?_, h.since, h.taken, h.room, ?_, ?_, ?_, h.aligned, ?_, ?_⟩
  · rw [hbuffer]; exact h.length
  · rw [hrd]; exact h.rdOffset
  · rw [hwr]; exact h.wrOffset
  · rw [havailable]; exact h.available
  · rw [hbuffer]; exact h.unread
  · rw [hframes]; exact h.frames

lemma start_eq (hfits : cfg.Fits) : Loop.start cfg = some
    { circBuffer := fun _ => replicate cfg.ringSize 0
      rdOffset := 0
      wrOffset := 0
      available := 0
      activeOutBufferSize := 0
      adcOverdriveFlags := 0
      frames := [] } := by
  have hin := cfg.inBufferSize_pos
  have hroom := cfg.room
  have hring := hfits.ringSize_lt
  have hlongest : cfg.outBufferSize * 2 ≤ cfg.longest := cfg.wanted_le .data
  have hnum : cfg.bufferNum ≤ cfg.ringSize := by
    unfold Config.ringSize
    exact (Nat.le_mul_of_pos_right _ hin).trans (Nat.le_mul_of_pos_right _ Nat.two_pos)
  rw [Config.bufferNum_eq] at hnum
  unfold Loop.start
  rw [checked_of_lt (by omega), checked_of_lt (by omega), checked_of_lt (by omega),
    checked_of_lt hring]
  rfl

lemma start_tracks (hfits : cfg.Fits) : ∃ r, Loop.start cfg = some r ∧ Tracks r {} :=
  ⟨_, start_eq hfits,
    { length := fun _ => length_replicate
      since := fun _ => rfl
      taken := le_rfl
      room := Nat.zero_le _
      rdOffset := (Nat.zero_mod _).symm
      wrOffset := (Nat.zero_mod _).symm
      available := rfl
      aligned := dvd_zero _
      unread := fun _ => carries_nil _ _
      frames := rfl }⟩

variable {i : Input cfg}

/-- Reading a frame with samples. -/
lemma Loop.receive_spec (hfits : cfg.Fits)
    (hlength : ∀ m, (r.circBuffer m).length = cfg.ringSize)
    (hfit : r.rdOffset + cfg.inBufferSize * 2 ≤ cfg.ringSize) (htype : i.header.frameType ≠ .dummy)
    (hlow : -2 ^ 31 ≤ r.available) (hhigh : r.available + (cfg.inBufferSize * 2 : ℕ) < 2 ^ 31) :
    ∃ ring, (∀ m, blit (r.circBuffer m) r.rdOffset (i.iq m) = some (ring m)) ∧
      (r.readIq i).bind (·.account i) = some
        { r with
          circBuffer := ring
          rdOffset := (r.rdOffset + cfg.inBufferSize * 2) % cfg.ringSize
          available := r.available + (cfg.inBufferSize * 2 : ℕ)
          adcOverdriveFlags := r.adcOverdriveFlags ||| i.header.adcOverdriveFlags } := by
  have hring := hfits.ringSize_lt
  have hblit : ∀ m, ∃ b, blit (r.circBuffer m) r.rdOffset (i.iq m) = some b := fun m =>
    ⟨_, blit_of_le (by rw [i.length_iq htype m, hlength m]; exact hfit)⟩
  choose ring hstored using hblit
  have hread : r.readIq i = some { r with circBuffer := ring } := by
    unfold Loop.readIq
    rw [if_pos (by rw [i.cpiLength_eq htype]; exact cfg.inBufferSize_pos),
      forChannels_eq_some hstored]
    rfl
  have hchecked : checkedInt (r.available + (cfg.inBufferSize * 2 : ℕ)) =
      some (r.available + (cfg.inBufferSize * 2 : ℕ)) := if_pos (by omega)
  refine ⟨ring, hstored, ?_⟩
  rw [hread, bind_some, Loop.account, if_neg htype, checked_of_lt (hfit.trans_lt hring)]
  simp only [hchecked, bind_eq_bind, bind_some]

lemma receive_tracks (hfits : cfg.Fits) (h : Tracks r s) (htype : i.header.frameType ≠ .dummy)
    (hroom : s.received - s.taken + cfg.inBufferSize * 2 ≤ cfg.ringSize) :
    ∃ r', (r.readIq i).bind (·.account i) = some r' ∧ Tracks r' (s.receive i.iq) := by
  have hring := hfits.ringSize_lt
  have htaken := h.taken
  have havailable := h.available
  have hlength : ∀ m, (i.iq m).length = cfg.inBufferSize * 2 := i.length_iq htype
  have hfit : r.rdOffset + cfg.inBufferSize * 2 ≤ cfg.ringSize := by
    rw [h.rdOffset]
    exact cfg.buffer_fits h.aligned
  obtain ⟨ring, hstored, hread⟩ := Loop.receive_spec hfits h.length hfit htype (by omega) (by omega)
  refine ⟨_, hread, ?_⟩
  exact
    { length := fun m => (blit_length (hstored m)).trans (h.length m)
      since := fun m => by
        show (s.since m ++ i.iq m).length = s.received + cfg.inBufferSize * 2
        rw [length_append, h.since m, hlength m]
      taken := Nat.le_add_right_of_le htaken
      room := by
        show s.received + cfg.inBufferSize * 2 - s.taken ≤ cfg.ringSize
        omega
      rdOffset := by
        show (r.rdOffset + _) % _ = (s.received + _) % _
        rw [h.rdOffset, Nat.mod_add_mod]
      wrOffset := h.wrOffset
      available := by
        show r.available + _ = ((s.received + _ - s.taken : ℕ) : ℤ)
        omega
      aligned := (Nat.dvd_add_right h.aligned).mpr dvd_rfl
      unread := fun m => by
        show Carries (ring m) s.taken ((s.since m ++ i.iq m).drop s.taken)
        rw [drop_append_of_le_length (by rw [h.since m]; exact htaken)]
        refine (h.unread m).blit ?_ ?_ ?_ (hstored m)
        · rw [h.length_unread, h.length m, h.rdOffset, Nat.add_sub_cancel' htaken]
        · rw [hlength m, h.length m]
          exact hfit
        · rw [h.length_unread, hlength m, h.length m]
          exact hroom
      frames := h.frames }

lemma channelOffset_lt (hfits : cfg.Fits) {active : ℕ} (hlongest : active * 2 ≤ cfg.longest)
    (m : Fin cfg.numCh) : m * active * 2 < 2 ^ 31 := by
  have hpos : 0 < cfg.longest := by
    have := cfg.inBufferSize_le
    have := cfg.inBufferSize_pos
    omega
  calc (m : ℕ) * active * 2
      = m * (active * 2) := Nat.mul_assoc ..
    _ ≤ m * cfg.longest := Nat.mul_le_mul_left _ hlongest
    _ < cfg.numCh * cfg.longest := Nat.mul_lt_mul_of_pos_right m.isLt hpos
    _ ≤ 2 ^ 31 := hfits.frame

lemma copyOut_eq (hfits : cfg.Fits) (h : Tracks r s)
    (hlongest : r.activeOutBufferSize * 2 ≤ cfg.longest)
    (henough : s.taken + r.activeOutBufferSize * 2 ≤ s.received) (m : Fin cfg.numCh) :
    r.copyOut (r.activeOutBufferSize * 2) m =
      some (((s.since m).drop s.taken).take (r.activeOutBufferSize * 2)) := by
  have hunread := h.unread m
  have hlength := h.length m
  have hsome : r.activeOutBufferSize * 2 ≤ ((s.since m).drop s.taken).length := by
    rw [h.length_unread]
    omega
  have hwr := Nat.mod_lt s.taken cfg.ringSize_pos
  unfold Loop.copyOut Loop.chunkSize
  rw [checked_of_lt (channelOffset_lt hfits hlongest m), bind_eq_bind, bind_some,
    h.wrOffset, ← hlength]
  rw [← hlength] at hwr
  split
  next hfit => exact hunread.slice hsome (by omega)
  next hwrap =>
    have hroom := cfg.room
    obtain ⟨front, back, hfront, hback, happend⟩ :=
      hunread.slice_wrapped (by omega) hsome (by omega) (by omega)
    rw [hfront, hback]
    exact congrArg some happend

lemma wrOffset_advance {size : ℕ} (hsize : size ≤ cfg.ringSize) (taken : ℕ) :
    (if size ≤ cfg.ringSize - taken % cfg.ringSize then (taken % cfg.ringSize + size) % cfg.ringSize
      else size - (cfg.ringSize - taken % cfg.ringSize)) = (taken + size) % cfg.ringSize := by
  have hlt := Nat.mod_lt taken cfg.ringSize_pos
  rw [← Nat.mod_add_mod taken]
  generalize taken % cfg.ringSize = pos at hlt
  split
  · rfl
  next hwrap =>
    have hsub : (pos + size) % cfg.ringSize = (pos + size - cfg.ringSize) % cfg.ringSize :=
      Nat.mod_eq_sub_mod (by omega)
    rw [hsub, Nat.mod_eq_of_lt (by omega)]
    omega

variable {size : ℕ}

lemma Tracks.advance {s s' : Stream cfg} (h : Tracks r s)
    (henough : s.taken + size ≤ s.received) (hbuffer : r'.circBuffer = r.circBuffer)
    (hrd : r'.rdOffset = r.rdOffset) (hwr : r'.wrOffset = (s.taken + size) % cfg.ringSize)
    (havailable : r'.available = r.available - (size : ℤ)) (hsince : s'.since = s.since)
    (hreceived : s'.received = s.received) (htaken : s'.taken = s.taken + size)
    (hframes : r'.frames.map OutFrame.content = s'.frames) : Tracks r' s' := by
  have hroom := h.room
  refine ⟨?_, ?_, ?_, ?_, ?_, ?_, ?_, ?_, ?_, hframes⟩
  · rw [hbuffer]
    exact h.length
  · rw [hsince, hreceived]
    exact h.since
  · rw [htaken, hreceived]
    exact henough
  · rw [htaken, hreceived]
    omega
  · rw [hrd, hreceived]
    exact h.rdOffset
  · rw [hwr, htaken]
  · rw [havailable, h.available, htaken, hreceived]
    omega
  · rw [hreceived]
    exact h.aligned
  · intro m
    have hrest := (h.unread m).drop size
    rw [drop_drop] at hrest
    rw [hbuffer, hsince, htaken]
    exact hrest

/-- Writing a frame: what it takes leaves the rings, and the flags go with it if it is
delivered. -/
lemma Loop.emit_spec (hfits : cfg.Fits) (hwr : r.wrOffset < cfg.ringSize)
    (hsize : r.activeOutBufferSize * 2 ≤ cfg.longest) (hactive : r.activeOutBufferSize ≠ 0)
    (hlow : 0 ≤ r.available) (hhigh : r.available < 2 ^ 31) {payload : Fin cfg.numCh → List Byte}
    (hpayload : ∀ m, r.copyOut (r.activeOutBufferSize * 2) m = some (payload m))
    (header : IqHeader) (outcome : Outcome) :
    ∃ r', r.emit header outcome = some r' ∧ r'.circBuffer = r.circBuffer ∧
      r'.activeOutBufferSize = r.activeOutBufferSize ∧ r'.rdOffset = r.rdOffset ∧
      r'.available = r.available - (r.activeOutBufferSize * 2 : ℕ) ∧
      r'.wrOffset = (r.wrOffset + r.activeOutBufferSize * 2) % cfg.ringSize ∧
      ((outcome = .dropped ∧ r'.frames = r.frames ∧ r'.adcOverdriveFlags = r.adcOverdriveFlags) ∨
        (outcome = .delivered ∧ r'.adcOverdriveFlags = 0 ∧ ∃ f, r'.frames = r.frames ++ [f] ∧
          f.content = ⟨header.frameType, payload⟩ ∧ f.header.cpiLength = r.activeOutBufferSize ∧
          f.header.adcOverdriveFlags = r.adcOverdriveFlags)) := by
  have hroom := cfg.room
  have hring := hfits.ring
  have havailable : checkedInt (r.available - ((r.activeOutBufferSize * 2 : ℕ) : ℤ)) =
      some (r.available - ((r.activeOutBufferSize * 2 : ℕ) : ℤ)) := if_pos (by omega)
  unfold Loop.emit
  rw [if_neg hactive, checked_of_lt (by omega), bind_eq_bind, bind_some, havailable]
  cases outcome with
  | delivered =>
    have hadvance := wrOffset_advance (show r.activeOutBufferSize * 2 ≤ cfg.ringSize by omega)
      r.wrOffset
    rw [Nat.mod_eq_of_lt hwr] at hadvance
    simp only [bind_eq_bind, bind_some, forChannels_eq_some hpayload]
    exact ⟨_, rfl, rfl, rfl, rfl, rfl, hadvance, .inr ⟨trivial, rfl, _, rfl, rfl, rfl, rfl⟩⟩
  | dropped =>
    simp only [bind_eq_bind, bind_some, checked_of_lt
      (show r.wrOffset + r.activeOutBufferSize * 2 < 2 ^ 31 by omega)]
    exact ⟨_, rfl, rfl, rfl, rfl, rfl, rfl, .inl ⟨trivial, rfl, rfl⟩⟩

lemma emit_tracks (hfits : cfg.Fits) (h : Tracks r s)
    (hpos : r.activeOutBufferSize ≠ 0) (hlongest : r.activeOutBufferSize * 2 ≤ cfg.longest)
    (henough : s.taken + r.activeOutBufferSize * 2 ≤ s.received) (header : IqHeader)
    (outcome : Outcome) : ∃ r', r.emit header outcome = some r' ∧
      Tracks r' (s.take header.frameType (r.activeOutBufferSize * 2) outcome) := by
  have hlt := hfits.ringSize_lt
  have havailable := h.available
  have hunread := h.room
  have hwr : r.wrOffset < cfg.ringSize := by
    rw [h.wrOffset]
    exact Nat.mod_lt _ cfg.ringSize_pos
  obtain ⟨r', hemit, hbuffer, -, hrd, havailable', hwr', hframes⟩ :=
    Loop.emit_spec hfits hwr hlongest hpos (by omega) (by omega)
      (copyOut_eq hfits h hlongest henough) header outcome
  rw [h.wrOffset, Nat.mod_add_mod] at hwr'
  refine ⟨r', hemit, ?_⟩
  rcases hframes with ⟨rfl, hframes, -⟩ | ⟨rfl, -, f, hframes, hcontent, -⟩ <;>
    refine h.advance henough hbuffer hrd hwr' havailable' rfl rfl rfl ?_
  · rw [hframes]
    exact h.frames
  · rw [hframes, map_append, h.frames, map_singleton, hcontent]
    rfl

/-! ## Turns -/

/-- The rings have room for the frame, as they do whenever less than a longest frame is unread,
and no DUMMY frame is dropped while the size of the frame before it is still set. -/
def Clean (r : Loop cfg) (i : Input cfg) : Prop :=
  (i.header.frameType ≠ .dummy → r.available + (cfg.inBufferSize * 2 : ℕ) ≤ (cfg.ringSize : ℤ)) ∧
    (i.header.frameType = .dummy → i.outcome = .dropped → r.activeOutBufferSize = 0)

instance decidableClean (r : Loop cfg) (i : Input cfg) : Decidable (Clean r i) :=
  inferInstanceAs (Decidable (_ ∧ _))

def CleanTurn : Option (Loop cfg) → Input cfg → Prop
  | none, _ => True
  | some r, i => Clean r i

instance decidableCleanTurn : ∀ (r : Option (Loop cfg)) (i : Input cfg), Decidable (CleanTurn r i)
  | none, _ => inferInstanceAs (Decidable True)
  | some r, i => decidableClean r i

lemma emit_of_inactive (h : r.activeOutBufferSize = 0) (header : IqHeader)
    (outcome : Outcome) : r.emit header outcome = some r := if_pos h

lemma turn_dummy (h : Tracks r s) (htype : i.header.frameType = .dummy) (hclean : Clean r i) :
    ∃ r', r.turn i = some r' ∧ Tracks r' (s.step i) := by
  have hread : r.readIq i = some r := if_neg (by rw [i.dummy_cpiLength htype]; exact lt_irrefl 0)
  have hempty : ∀ (r' : Loop cfg) (s' : Stream cfg),
      r'.circBuffer = (fun _ => replicate cfg.ringSize 0) → r'.rdOffset = 0 →
      r'.wrOffset = 0 → r'.available = 0 → s' = { frames := s'.frames } →
      r'.frames.map OutFrame.content = s'.frames → Tracks r' s' := by
    rintro r' s' hbuffer hrd hwr havailable hs hframes
    rw [hs] at hframes ⊢
    exact
      { length := fun m => by rw [hbuffer]; exact length_replicate
        since := fun _ => rfl
        taken := le_rfl
        room := Nat.zero_le _
        rdOffset := by rw [hrd]; exact (Nat.zero_mod _).symm
        wrOffset := by rw [hwr]; exact (Nat.zero_mod _).symm
        available := havailable
        aligned := dvd_zero _
        unread := fun m => carries_nil _ _
        frames := hframes }
  unfold Loop.turn Stream.step
  rw [hread, bind_eq_bind, bind_some, Loop.account, if_pos htype, if_pos htype]
  simp only [bind_some, Loop.choose, htype]
  cases houtcome : i.outcome with
  | delivered =>
    simp only [bind_some]
    refine ⟨_, emit_of_inactive rfl _ _, hempty _ _ rfl rfl rfl rfl rfl ?_⟩
    rw [map_append, h.frames]
    simp [OutFrame.content]
  | dropped =>
    simp only [bind_some]
    refine ⟨_, emit_of_inactive ?_ _ _, hempty _ _ rfl rfl rfl rfl rfl h.frames⟩
    exact hclean.2 htype houtcome

lemma activate_eq (hsize : size * 2 < 2 ^ 31) : r.activate size =
    some { r with activeOutBufferSize := if ((size * 2 : ℕ) : ℤ) ≤ r.available then size else 0 } := by
  rw [Loop.activate, checked_of_lt hsize]
  rfl

lemma choose_eq (htype : i.header.frameType ≠ .dummy) :
    r.choose i = r.activate (Stream.wanted cfg i.header.frameType) := by
  unfold Loop.choose Stream.wanted
  cases hkind : i.header.frameType with
  | dummy => exact absurd hkind htype
  | data => rfl
  | cal => rfl

lemma turn_of_ne_dummy (htype : i.header.frameType ≠ .dummy) :
    r.turn i = ((r.readIq i).bind (·.account i)).bind fun r =>
      (r.activate (Stream.wanted cfg i.header.frameType)).bind fun r =>
        r.emit i.header i.outcome := by
  unfold Loop.turn
  simp only [if_neg htype, choose_eq htype, bind_eq_bind, bind_assoc]

lemma turn_buffer (hfits : cfg.Fits) (h : Tracks r s)
    (htype : i.header.frameType ≠ .dummy) (hclean : Clean r i) :
    ∃ r', r.turn i = some r' ∧ Tracks r' (s.step i) := by
  have hroom := cfg.room
  have hring := hfits.ringSize_lt
  have hwanted := cfg.wanted_le i.header.frameType
  have hfree := hclean.1 htype
  rw [h.available] at hfree
  obtain ⟨r₁, hread, htracks⟩ := receive_tracks hfits h htype (by omega)
  have hreceived : (s.receive i.iq).received = s.received + cfg.inBufferSize * 2 := rfl
  have htaken : (s.receive i.iq).taken = s.taken := rfl
  have hle := h.taken
  rw [turn_of_ne_dummy htype, hread, bind_some, Stream.step, if_neg htype]
  by_cases henough : (s.receive i.iq).taken + Stream.wanted cfg i.header.frameType * 2 ≤
      (s.receive i.iq).received
  · have havailable : ((Stream.wanted cfg i.header.frameType * 2 : ℕ) : ℤ) ≤ r₁.available := by
      rw [htracks.available]
      omega
    rw [activate_eq (by omega), if_pos havailable, if_pos henough]
    have hset : Tracks { r₁ with activeOutBufferSize := Stream.wanted cfg i.header.frameType }
        (s.receive i.iq) := htracks.of_same rfl rfl rfl rfl rfl
    exact emit_tracks hfits hset (cfg.wanted_pos htype).ne' hwanted henough i.header i.outcome
  · have havailable : ¬ ((Stream.wanted cfg i.header.frameType * 2 : ℕ) : ℤ) ≤ r₁.available := by
      rw [htracks.available]
      omega
    rw [activate_eq (by omega), if_neg havailable, if_neg henough]
    exact ⟨_, emit_of_inactive rfl _ _, htracks.of_same rfl rfl rfl rfl rfl⟩

lemma turn_tracks (hfits : cfg.Fits) (h : Tracks r s) (hclean : Clean r i) :
    ∃ r', r.turn i = some r' ∧ Tracks r' (s.step i) := by
  by_cases htype : i.header.frameType = .dummy
  · exact turn_dummy h htype hclean
  · exact turn_buffer hfits h htype hclean

/-- In every run of clean turns the block delivers the frames of the stream, and the
rings hold what is unread. -/
theorem rebuffer_delivers_stream (cfg : Config) (hfits : cfg.Fits) (inputs : List (Input cfg))
    (hclean : Along Loop.step CleanTurn (Loop.start cfg) inputs) :
    ∃ r, run Loop.step (Loop.start cfg) inputs = some r ∧
      r.frames.map OutFrame.content = (run Stream.step {} inputs).frames ∧
      ∀ m, Carries (r.circBuffer m) (run Stream.step {} inputs).taken
        (((run Stream.step {} inputs).since m).drop (run Stream.step {} inputs).taken) := by
  have hstep : ∀ (o : Option (Loop cfg)) (s : Stream cfg) (i : Input cfg),
      (∃ r, o = some r ∧ Tracks r s) → CleanTurn o i →
        ∃ r, Loop.step o i = some r ∧ Tracks r (s.step i) := by
    rintro o s i ⟨r, rfl, h⟩ hclean
    exact turn_tracks hfits h hclean
  obtain ⟨r, hrun, h⟩ := run_simulation Loop.step Stream.step hstep inputs _ {}
    (start_tracks hfits) hclean
  exact ⟨r, hrun, h.frames, h.unread⟩

lemma two_eq_pow : ∃ k, 2 = 2 ^ k := ⟨1, rfl⟩

abbrev twoSamples (calSize : ℕ) (h : 1 ≤ calSize) : Config :=
  ⟨1, calSize, 2, 2, 1, two_eq_pow, by decide, h⟩

def numberedIq (n : ℕ) : List Byte := (List.range 4).map fun k => BitVec.ofNat 8 (4 * n + k)

def buffer {calSize : ℕ} {h : 1 ≤ calSize} (frameType : RtlDaq.FrameType)
    (htype : frameType ≠ .dummy) (n : ℕ) : Input (twoSamples calSize h) where
  header := ⟨frameType, n, 2, 0⟩
  iq := fun _ => numberedIq n
  outcome := .delivered
  dummy_cpiLength := fun hdummy => absurd hdummy htype
  cpiLength_eq := fun _ => rfl
  length_iq := fun _ _ => rfl

def dummy {calSize : ℕ} {h : 1 ≤ calSize} (n : ℕ) (outcome : Outcome) :
    Input (twoSamples calSize h) where
  header := ⟨.dummy, n, 0, 0⟩
  iq := fun _ => []
  outcome := outcome
  dummy_cpiLength := fun _ => rfl
  cpiLength_eq := fun htype => absurd rfl htype
  length_iq := fun htype => absurd rfl htype

/-- Two bursts of CAL frames of one sample, which leave more unread with every frame. -/
def mixed : List (Input (twoSamples 1 (by decide))) :=
  [buffer .data nofun 0, buffer .cal nofun 1, buffer .cal nofun 2, dummy 3 .delivered,
    buffer .cal nofun 4, buffer .cal nofun 5, buffer .data nofun 6]

theorem rebuffer_delivers_stream_mixed : ∃ r, run Loop.step (Loop.start _) mixed = some r ∧
      r.frames.map OutFrame.content = (run Stream.step {} mixed).frames ∧
      ∀ m, Carries (r.circBuffer m) (run Stream.step {} mixed).taken
        (((run Stream.step {} mixed).since m).drop (run Stream.step {} mixed).taken) :=
  rebuffer_delivers_stream _ ⟨by decide, by decide⟩ mixed (by decide)

/-- Calibration frames of one sample and buffers of two: the sixth buffer overwrites
the oldest unread sample, and the sixth frame carries the latest one in its place. -/
theorem cal_overwrites_unread :
    let inputs : List (Input (twoSamples 1 (by decide))) :=
      (range 6).map (buffer .cal nofun)
    ((run Loop.step (Loop.start _) inputs).map fun r => r.frames.map fun f => f.payload 0) =
        some [[0, 1], [2, 3], [4, 5], [6, 7], [8, 9], [22, 23]] ∧
      ((run Stream.step {} inputs).frames.map fun f => f.payload 0) =
        [[0, 1], [2, 3], [4, 5], [6, 7], [8, 9], [10, 11]] := by
  decide

end HeimdallDaq.DataPlane.Rebuffer
