/-
  DataPlane/SpiTransport.lean --- the SPI transport and its frames.

  transport_spi.c moves one frame per transfer: a sync word, a sequence number, a
  length, the payload and a CRC-32.
-/
import HeimdallDaq.Foundation.Buffers

namespace HeimdallDaq.DataPlane.SpiTransport

open Foundation List Function

/-! ## CRC-32 -/

variable (crc : BitVec 32)

def crc32Shift : BitVec 32 := if crc &&& 1 = 1 then (crc >>> 1) ^^^ 0xEDB88320 else crc >>> 1

def crc32Table (i : BitVec 32) : BitVec 32 := (List.range 8).foldl (fun crc _ => crc32Shift crc) i

def crc32Step (b : Byte) : BitVec 32 :=
  (crc >>> 8) ^^^ crc32Table ((crc ^^^ b.setWidth 32) &&& 0xFF)

def crc32Calc (data : List Byte) : BitVec 32 := data.foldl crc32Step 0xFFFFFFFF ^^^ 0xFFFFFFFF

/-! ## The driver -/

def syncWord : ℕ := 0x48415400

def frameOverhead : ℕ := 14

def uint32 (n : ℕ) : ℕ := n % 2 ^ 32

structure Spi where
  /-- `th->buffer_size` -/
  bufferSize : ℕ
  txBuf : Fin 2 → List Byte
  rxBuf : Fin 2 → List Byte
  activeTx : Fin 2 := 0
  activeRx : Fin 2 := 0
  terminated : Bool := false
  seqNum : BitVec 16 := 0
  totalBytes : ℕ := 0
  totalFrames : ℕ := 0

variable (bufferSize : ℕ)

def spiInitCommon : Spi where
  bufferSize := bufferSize
  txBuf := fun _ => List.replicate (bufferSize + frameOverhead) 0
  rxBuf := fun _ => List.replicate (bufferSize + frameOverhead) 0

namespace Spi

variable (th : Spi)

/-- `spi_get_write_buf`: the index of the inactive buffer; the payload goes to its
byte 10 on. -/
def spiGetWriteBuf : Option (Fin 2) := if th.terminated then none else some (1 - th.activeTx)

variable (bufIndex : Fin 2)

def fillPayload (payload : List Byte) : Option Spi := do
  let frame ← blit (th.txBuf bufIndex) 10 payload
  return { th with txBuf := Function.update th.txBuf bufIndex frame }

def payloadLen : ℕ := uint32 th.bufferSize

def total : ℕ := uint32 (10 + th.payloadLen)

variable (frame : List Byte)

def buildFrame : Option (List Byte) := do
  let frame ← blit frame 0 (leBytes 4 syncWord)
  let frame ← blit frame 4 (leBytes 2 th.seqNum.toNat)
  let frame ← blit frame 6 (leBytes 4 th.payloadLen)
  let covered ← slice frame 0 th.total
  blit frame th.total (leBytes 4 (crc32Calc covered).toNat)

/-- `spi_submit_write`, given what the full-duplex transfer read meanwhile, if it
succeeded: the transport, the return value and the bytes on the wire. -/
def spiSubmitWrite (xfer : Option (List Byte)) : Option (Spi × ℤ × List Byte) :=
  if th.terminated then some (th, -1, [])
  else do
    let frame ← th.buildFrame (th.txBuf bufIndex)
    let sent := { th with
      txBuf := Function.update th.txBuf bufIndex frame
      seqNum := th.seqNum + 1 }
    let wire ← slice frame 0 (uint32 (th.total + 4))
    match xfer with
    | none => return (sent, -1, wire)
    | some received => do
        let rx ← blit (th.rxBuf bufIndex) 0 received
        return ({ sent with
          rxBuf := Function.update th.rxBuf bufIndex rx
          activeTx := bufIndex
          totalBytes := th.totalBytes + th.payloadLen
          totalFrames := th.totalFrames + 1 }, 0, wire)

def validateFrame : Option Bool := do
  let rxSync := ofLeBytes (← slice frame 0 4)
  if rxSync ≠ syncWord then return false
  else do
    let rxLen := ofLeBytes (← slice frame 6 4)
    let rxCrc := ofLeBytes (← slice frame (10 + rxLen) 4)
    let covered ← slice frame 0 (uint32 (10 + rxLen))
    return decide (rxCrc = (crc32Calc covered).toNat)

/-- `spi_get_read_buf`, given whether DRDY rose in time and what the transfer read,
if it succeeded: the transport and the index of the buffer, if one is returned.
The caller reads its payload from byte 10 on. -/
def spiGetReadBuf (drdy : Bool) (xfer : Option (List Byte)) : Option (Spi × Option (Fin 2)) :=
  if th.terminated || !drdy then some (th, none)
  else do
    let idx := th.activeRx
    let tx ← blit (th.txBuf idx) 0 (List.replicate (th.bufferSize + frameOverhead) 0)
    let cleared := { th with txBuf := Function.update th.txBuf idx tx }
    match xfer with
    | none => return (cleared, none)
    | some received => do
        let frame ← blit (th.rxBuf idx) 0 received
        let filled := { cleared with rxBuf := Function.update th.rxBuf idx frame }
        let accepted ← validateFrame frame
        return (filled, if accepted then some idx else none)

def readPayload : Option (List Byte) := slice (th.rxBuf bufIndex) 10 th.bufferSize

structure Sized : Prop where
  tx : ∀ i, (th.txBuf i).length = th.bufferSize + frameOverhead
  rx : ∀ i, (th.rxBuf i).length = th.bufferSize + frameOverhead

end Spi

lemma sized_init : (spiInitCommon bufferSize).Sized :=
  ⟨fun _ => length_replicate, fun _ => length_replicate⟩

/-! ## Received frames -/

variable (frame : List Byte)

@[local grind]
def rxSync : ℕ := ofLeBytes (frame.take 4)

@[local grind]
def rxLen : ℕ := ofLeBytes ((frame.drop 6).take 4)

/-- The sync word, the length and the CRC are those of a frame that lies inside the
buffer as a whole. -/
@[local grind]
structure CompleteFrame (frame : List Byte) : Prop where
  sync : rxSync frame = syncWord
  inside : rxLen frame + frameOverhead ≤ frame.length
  crc : ofLeBytes ((frame.drop (10 + rxLen frame)).take 4) =
    (crc32Calc (frame.take (10 + rxLen frame))).toNat

section Validation

variable {frame : List Byte}

section

variable (h : frameOverhead ≤ frame.length)
include h

lemma slice_rxSync : slice frame 0 4 = some (frame.take 4) := by
  rw [slice_of_le (by unfold frameOverhead at h; omega), drop_zero]

lemma slice_rxLen : slice frame 6 4 = some ((frame.drop 6).take 4) :=
  slice_of_le (by unfold frameOverhead at h; omega)

lemma validateFrame_of_sync_ne
    (hsync : rxSync frame ≠ syncWord) : Spi.validateFrame frame = some false := by
  unfold Spi.validateFrame
  rw [slice_rxSync h]
  exact if_pos hsync

lemma validateFrame_of_sync (hsync : rxSync frame = syncWord) : Spi.validateFrame frame = (do
      let rxCrc ← slice frame (10 + rxLen frame) 4
      let covered ← slice frame 0 (uint32 (10 + rxLen frame))
      return decide (ofLeBytes rxCrc = (crc32Calc covered).toNat)) := by
  grind [Spi.validateFrame, slice_rxSync, slice_rxLen]

lemma validateFrame_of_long (hsync : rxSync frame = syncWord)
    (hlong : frame.length < rxLen frame + frameOverhead) : Spi.validateFrame frame = none := by
  unfold frameOverhead at hlong
  rw [validateFrame_of_sync h hsync, slice_eq_none (by omega)]
  rfl

end

lemma validateFrame_of_fits (hsize : frame.length < 2 ^ 32) (hsync : rxSync frame = syncWord)
    (hfits : rxLen frame + frameOverhead ≤ frame.length) :
    ∃ accepted, Spi.validateFrame frame = some accepted ∧ (accepted ↔ CompleteFrame frame) := by
  have hover : frameOverhead ≤ frame.length := by omega
  have hlen : rxLen frame + 14 ≤ frame.length := hfits
  have hwrap : uint32 (10 + rxLen frame) = 10 + rxLen frame := Nat.mod_eq_of_lt (by omega)
  refine ⟨decide (ofLeBytes ((frame.drop (10 + rxLen frame)).take 4) =
    (crc32Calc (frame.take (10 + rxLen frame))).toNat), ?_, ?_⟩
  all_goals grind [validateFrame_of_sync, slice_of_le]

end Validation

/-- The read stays inside the buffers, and a buffer is returned for complete frames
only. -/
@[local grind]
def Guarded (th : Spi) (received : List Byte) : Prop :=
  ∃ th' result, th.spiGetReadBuf true (some received) = some (th', result) ∧
    (result ≠ none → CompleteFrame received)

variable {received : List Byte}

lemma spiGetReadBuf_received {th : Spi} (hth : th.Sized) (hopen : th.terminated = false)
    (hlen : received.length = th.bufferSize + frameOverhead) :
    ∃ th', th'.bufferSize = th.bufferSize ∧ th'.rxBuf th.activeRx = received ∧
      th.spiGetReadBuf true (some received) = (Spi.validateFrame received).map fun accepted =>
          (th', if accepted then some th.activeRx else none) := by
  have htx : blit (th.txBuf th.activeRx) 0 (replicate (th.bufferSize + frameOverhead) 0) =
      some (replicate (th.bufferSize + frameOverhead) 0) :=
    blit_full (by rw [hth.tx, length_replicate])
  have hrx : blit (th.rxBuf th.activeRx) 0 received = some received :=
    blit_full (by rw [hth.rx, hlen])
  refine ⟨{ th with
      txBuf := update th.txBuf th.activeRx
        (replicate (th.bufferSize + frameOverhead) 0)
      rxBuf := update th.rxBuf th.activeRx received }, rfl, update_self .., ?_⟩
  unfold Spi.spiGetReadBuf
  rw [hopen, if_neg (by simp)]
  simp only [htx, hrx, Option.bind_eq_bind, Option.bind_some]
  cases Spi.validateFrame received with
  | none => rfl
  | some accepted => rfl

lemma guarded_iff {th : Spi} (hth : th.Sized) (hopen : th.terminated = false)
    (hsize : th.bufferSize + frameOverhead < 2 ^ 32)
    (hlen : received.length = th.bufferSize + frameOverhead) :
    Guarded th received ↔ (rxSync received = syncWord → rxLen received ≤ th.bufferSize) := by
  obtain ⟨th', -, -, hread⟩ := spiGetReadBuf_received hth hopen hlen
  have hover : frameOverhead ≤ received.length := by omega
  constructor
  · grind [validateFrame_of_long]
  all_goals grind [validateFrame_of_fits, validateFrame_of_sync_ne]

/-! ## Round trip -/

def header (seq len : ℕ) : List Byte := leBytes 4 syncWord ++ (leBytes 2 seq ++ leBytes 4 len)

@[simp] lemma length_header (seq len : ℕ) : (header seq len).length = 10 := by simp [header]

variable (seq : ℕ)

def wireFrame (payload : List Byte) : List Byte :=
  header seq payload.length ++
    (payload ++ leBytes 4 (crc32Calc (header seq payload.length ++ payload)).toNat)

lemma length_wireFrame (payload : List Byte) :
    (wireFrame seq payload).length = payload.length + frameOverhead := by
  simp [wireFrame, frameOverhead]
  omega

lemma rxSync_wireFrame (payload : List Byte) : rxSync (wireFrame seq payload) = syncWord := by
  rw [rxSync, wireFrame, header, append_assoc, take_left' (length_leBytes 4 syncWord),
    ofLeBytes_leBytes]
  rfl

variable {payload : List Byte}

lemma rxLen_wireFrame (hlen : payload.length < 2 ^ 32) :
    rxLen (wireFrame seq payload) = payload.length := by
  have hsplit : wireFrame seq payload =
      (leBytes 4 syncWord ++ leBytes 2 seq) ++ (leBytes 4 payload.length ++
        (payload ++ leBytes 4 (crc32Calc (header seq payload.length ++ payload)).toNat)) := by
    simp only [wireFrame, header, append_assoc]
  have hbytes : (256 : ℕ) ^ 4 = 2 ^ 32 := by decide
  rw [rxLen, hsplit, drop_left' (by simp), take_left' (length_leBytes _ _),
    ofLeBytes_leBytes, hbytes, Nat.mod_eq_of_lt hlen]

lemma completeFrame_wireFrame (hlen : payload.length < 2 ^ 32) :
    CompleteFrame (wireFrame seq payload) where
  sync := rxSync_wireFrame seq payload
  inside := by rw [rxLen_wireFrame seq hlen, length_wireFrame]
  crc := by
    have hsplit : wireFrame seq payload = (header seq payload.length ++ payload) ++
        leBytes 4 (crc32Calc (header seq payload.length ++ payload)).toNat := by
      rw [wireFrame, append_assoc]
    have hcut : (header seq payload.length ++ payload).length = 10 + payload.length := by simp
    have hcrc := (crc32Calc (header seq payload.length ++ payload)).isLt
    rw [rxLen_wireFrame seq hlen]
    conv_lhs => rw [hsplit, drop_left' hcut, take_of_length_le (by simp), ofLeBytes_leBytes]
    conv_rhs => rw [hsplit, take_left' hcut]
    exact Nat.mod_eq_of_lt hcrc

section Sender

variable {th : Spi}

lemma exists_fields {frame : List Byte} {n : ℕ} (hlen : frame.length = n + frameOverhead) :
    ∃ sync seq len payload crc, frame = sync ++ (seq ++ (len ++ (payload ++ crc))) ∧
      sync.length = 4 ∧ seq.length = 2 ∧ len.length = 4 ∧ payload.length = n ∧ crc.length = 4 := by
  unfold frameOverhead at hlen
  obtain ⟨sync, rest₁, rfl, hsync⟩ := exists_append_of_le_length (show 4 ≤ frame.length by omega)
  rw [length_append] at hlen
  obtain ⟨seq, rest₂, rfl, hseq⟩ := exists_append_of_le_length (show 2 ≤ rest₁.length by omega)
  rw [length_append] at hlen
  obtain ⟨len, rest₃, rfl, hlen'⟩ := exists_append_of_le_length (show 4 ≤ rest₂.length by omega)
  rw [length_append] at hlen
  obtain ⟨payload, crc, rfl, hpayload⟩ := exists_append_of_le_length (show n ≤ rest₃.length by omega)
  grind

lemma buildFrame_eq (hsize : th.bufferSize + frameOverhead < 2 ^ 32)
    {sync seq len payload crc : List Byte} (hsync : sync.length = 4) (hseq : seq.length = 2)
    (hlen : len.length = 4) (hpayload : payload.length = th.bufferSize) (hcrc : crc.length = 4) :
    th.buildFrame (sync ++ (seq ++ (len ++ (payload ++ crc)))) =
      some (wireFrame th.seqNum.toNat payload) := by
  unfold frameOverhead at hsize
  have hplen : th.payloadLen = payload.length := by
    rw [Spi.payloadLen, uint32, Nat.mod_eq_of_lt (by omega), hpayload]
  have htotal : th.total = 10 + payload.length := by
    rw [Spi.total, hplen, uint32, Nat.mod_eq_of_lt (by omega)]
  -- the three header fields are written one after the other
  have h₁ : blit (sync ++ (seq ++ (len ++ (payload ++ crc)))) 0 (leBytes 4 syncWord) =
      some (leBytes 4 syncWord ++ (seq ++ (len ++ (payload ++ crc)))) :=
    blit_zero _ (by simp [hsync])
  have h₂ : blit (leBytes 4 syncWord ++ (seq ++ (len ++ (payload ++ crc)))) 4
      (leBytes 2 th.seqNum.toNat) =
      some ((leBytes 4 syncWord ++ leBytes 2 th.seqNum.toNat) ++ (len ++ (payload ++ crc))) := by
    rw [append_assoc]
    exact blit_append _ (by simp) (by simp [hseq])
  have h₃ : blit ((leBytes 4 syncWord ++ leBytes 2 th.seqNum.toNat) ++ (len ++ (payload ++ crc))) 6
      (leBytes 4 payload.length) =
      some ((header th.seqNum.toNat payload.length ++ payload) ++ crc) := by
    rw [blit_append _ (by simp) (by simp [hlen])]
    simp only [header, append_assoc]
  have h₄ : slice ((header th.seqNum.toNat payload.length ++ payload) ++ crc) 0
      (10 + payload.length) = some (header th.seqNum.toNat payload.length ++ payload) :=
    slice_zero _ (by simp)
  have h₅ : blit ((header th.seqNum.toNat payload.length ++ payload) ++ crc) (10 + payload.length)
      (leBytes 4 (crc32Calc (header th.seqNum.toNat payload.length ++ payload)).toNat) =
      some (wireFrame th.seqNum.toNat payload) := by
    rw [blit_append_end (by simp) (by simp [hcrc]), append_assoc]
    rfl
  unfold Spi.buildFrame
  grind

lemma spiSubmitWrite_of_build (hopen : th.terminated = false) {idx : Fin 2}
    {frame wire meanwhile : List Byte} (hbuild : th.buildFrame (th.txBuf idx) = some frame)
    (hwire : slice frame 0 (uint32 (th.total + 4)) = some wire)
    (hrx : (th.rxBuf idx).length = meanwhile.length) :
    ∃ sent, th.spiSubmitWrite idx (some meanwhile) = some (sent, 0, wire) := by
  unfold Spi.spiSubmitWrite
  rw [if_neg (by simp [hopen])]
  simp only [Option.bind_eq_bind, Option.bind_some, hbuild, hwire, blit_full hrx]
  exact ⟨_, rfl⟩

lemma slice_wireFrame (hsize : th.bufferSize + frameOverhead < 2 ^ 32) {payload : List Byte}
    (hpayload : payload.length = th.bufferSize) (seq : ℕ) :
    slice (wireFrame seq payload) 0 (uint32 (th.total + 4)) = some (wireFrame seq payload) := by
  have htotal : uint32 (th.total + 4) = payload.length + frameOverhead := by
    unfold frameOverhead at hsize ⊢
    unfold Spi.total Spi.payloadLen uint32
    omega
  have h := slice_zero [] (length_wireFrame seq payload)
  rw [append_nil] at h
  rw [htotal, h]

lemma spiSubmitWrite_filled (hth : th.Sized) (hopen : th.terminated = false)
    (hsize : th.bufferSize + frameOverhead < 2 ^ 32) (idx : Fin 2) {payload meanwhile : List Byte}
    (hpayload : payload.length = th.bufferSize)
    (hmeanwhile : meanwhile.length = th.bufferSize + frameOverhead) :
    ∃ filled sent, th.fillPayload idx payload = some filled ∧
      filled.spiSubmitWrite idx (some meanwhile) =
        some (sent, 0, wireFrame th.seqNum.toNat payload) := by
  obtain ⟨sync, seq, len, old, crc, hframe, hsync, hseq, hlen, hold, hcrc⟩ :=
    exists_fields (hth.tx idx)
  have hfill : blit (th.txBuf idx) 10 payload =
      some (sync ++ (seq ++ (len ++ (payload ++ crc)))) := by
    have hassoc : th.txBuf idx = (sync ++ (seq ++ len)) ++ (old ++ crc) := by
      rw [hframe]
      simp only [append_assoc]
    rw [hassoc, blit_append crc (by simp [hsync, hseq, hlen]) (by rw [hold, hpayload])]
    simp only [append_assoc]
  let frame := sync ++ (seq ++ (len ++ (payload ++ crc)))
  let filled : Spi := { th with txBuf := update th.txBuf idx frame }
  have hbuild : filled.buildFrame (filled.txBuf idx) =
      some (wireFrame filled.seqNum.toNat payload) := by
    show filled.buildFrame (update th.txBuf idx frame idx) = _
    rw [update_self]
    exact buildFrame_eq hsize hsync hseq hlen hpayload hcrc
  have hopen' : filled.terminated = false := hopen
  have hrx : (filled.rxBuf idx).length = meanwhile.length := by
    show (th.rxBuf idx).length = meanwhile.length
    rw [hth.rx, hmeanwhile]
  obtain ⟨sent, hsubmit⟩ :=
    spiSubmitWrite_of_build hopen' hbuild (slice_wireFrame hsize hpayload _) hrx
  exact ⟨filled, sent, by rw [Spi.fillPayload, hfill]; rfl, hsubmit⟩

end Sender

/-- The payload is put into the sender's inactive buffer, its frame is sent and
reaches the receiver unchanged, and the receiver returns a buffer with exactly that
payload. -/
def RoundTrip (sender receiver : Spi) (payload meanwhile : List Byte) : Prop :=
  ∃ idx filled sent wire got i, sender.spiGetWriteBuf = some idx ∧
    sender.fillPayload idx payload = some filled ∧
    filled.spiSubmitWrite idx (some meanwhile) = some (sent, 0, wire) ∧
    receiver.spiGetReadBuf true (some wire) = some (got, some i) ∧
    got.readPayload i = some payload

/-- A transport whose frames have lengths that 32 bits hold stays inside its buffers
and returns complete frames only, exactly for the received contents whose sync word
is wrong or whose length is at most `buffer_size`; and every frame it builds is
accepted with its payload. -/
theorem spi_frames (bufferSize : ℕ) (hsize : bufferSize + frameOverhead < 2 ^ 32) :
    (∀ th : Spi, th.Sized → th.terminated = false → th.bufferSize = bufferSize →
      ∀ received : List Byte, received.length = bufferSize + frameOverhead →
        (Guarded th received ↔ (rxSync received = syncWord → rxLen received ≤ bufferSize))) ∧
    (∀ sender receiver : Spi, sender.Sized → receiver.Sized → sender.terminated = false →
      receiver.terminated = false → sender.bufferSize = bufferSize →
      receiver.bufferSize = bufferSize → ∀ payload meanwhile : List Byte,
        payload.length = bufferSize → meanwhile.length = bufferSize + frameOverhead →
          RoundTrip sender receiver payload meanwhile) := by
  constructor
  · rintro th hth hopen rfl received hlen
    exact guarded_iff hth hopen hsize hlen
  · rintro sender receiver hsender hreceiver hopen hopen' hsizes rfl payload meanwhile hpayload
      hmeanwhile
    rw [← hsizes] at hpayload hmeanwhile
    obtain ⟨filled, sent, hfill, hsubmit⟩ :=
      spiSubmitWrite_filled hsender hopen (hsizes ▸ hsize) (1 - sender.activeTx) hpayload hmeanwhile
    have hwire : (wireFrame sender.seqNum.toNat payload).length =
        receiver.bufferSize + frameOverhead := by
      rw [length_wireFrame, hpayload, hsizes]
    have hcomplete : CompleteFrame (wireFrame sender.seqNum.toNat payload) :=
      completeFrame_wireFrame _ (by unfold frameOverhead at hsize; omega)
    obtain ⟨got, hgotSize, hgot, hread⟩ := spiGetReadBuf_received hreceiver hopen' hwire
    obtain ⟨accepted, hvalid, hiff⟩ :=
      validateFrame_of_fits (by omega) hcomplete.sync hcomplete.inside
    have haccepted : accepted := hiff.mpr hcomplete
    subst haccepted
    refine ⟨1 - sender.activeTx, filled, sent, wireFrame sender.seqNum.toNat payload, got,
      receiver.activeRx, by rw [Spi.spiGetWriteBuf, hopen]; rfl, hfill, hsubmit,
      by rw [hread, hvalid]; rfl, ?_⟩
    rw [Spi.readPayload, hgot, hgotSize]
    exact slice_append _ (length_header _ _) (by rw [hpayload, hsizes])

/-- A transport for payloads of two bytes. -/
theorem spi_frames_two_bytes : (∀ th : Spi, th.Sized → th.terminated = false → th.bufferSize = 2 →
      ∀ received : List Byte, received.length = 2 + frameOverhead →
        (Guarded th received ↔ (rxSync received = syncWord → rxLen received ≤ 2))) ∧
    RoundTrip (spiInitCommon 2) (spiInitCommon 2) [0x12, 0x34] (List.replicate 16 0) := by
  have h := spi_frames 2 (by decide)
  exact ⟨h.1, h.2 _ _ (sized_init 2) (sized_init 2) rfl rfl rfl rfl _ _ rfl rfl⟩

/-- A frame that announces `0xFFFFFFFF` bytes of payload: the CRC is read from beyond
the buffer. -/
theorem spiGetReadBuf_reads_outside : (spiInitCommon 0).spiGetReadBuf true
      (some (leBytes 4 syncWord ++ leBytes 2 0 ++ leBytes 4 0xFFFFFFFF ++ leBytes 4 0)) = none := by
  decide

end HeimdallDaq.DataPlane.SpiTransport
