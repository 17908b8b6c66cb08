/-
  DataPlane/UartTransport.lean --- the UART control channel and its frames.

  hat_uart_transport.py sends a message as a zero byte, the COBS code of the raw frame
  and a zero byte.
-/
import HeimdallDaq.Foundation.Buffers
import Mathlib.Tactic.NormNum

namespace HeimdallDaq.DataPlane.UartTransport

open Foundation List

/-! ## COBS -/

namespace COBSCodec

/-- The variables of `encode`. -/
structure Encoder where
  output : List Byte := [0]
  codeIndex : ℕ := 0
  code : ℕ := 1

namespace Encoder

variable (e : Encoder)

def patched : List Byte := e.output.set e.codeIndex (BitVec.ofNat 8 e.code)

def close : Encoder where
  output := e.patched ++ [0]
  codeIndex := e.output.length
  code := 1

def step (byte : Byte) : Encoder :=
  if byte = 0 then e.close
  else
    let e := { e with output := e.output ++ [byte], code := e.code + 1 }
    if e.code = 0xFF then e.close else e

end Encoder

variable (data : List Byte)

def encode : List Byte := (data.foldl Encoder.step {}).patched

/-- The `ValueError`s of `decode`. -/
inductive DecodeError
  /-- `Unexpected zero byte in COBS data at index {}` -/
  | zeroByte (index : ℕ)
  /-- `COBS decode: unexpected end of data` -/
  | endOfData
  deriving DecidableEq

/-- The `while` loop of `decode` on the data from `idx` on, for at most so many turns.
Every turn takes a byte, so that the length of the data is enough. -/
@[local grind]
def decodeLoop : ℕ → ℕ → List Byte → List Byte → Except DecodeError (List Byte)
  | 0, _, _, output => .ok output
  | _ + 1, _, [], output => .ok output
  | turns + 1, idx, code :: rest, output =>
    if code = 0 then .error (.zeroByte idx)
    else if rest.length < code.toNat - 1 then .error .endOfData
    else
      let output := output ++ rest.take (code.toNat - 1)
      let rest := rest.drop (code.toNat - 1)
      decodeLoop turns (idx + code.toNat) rest
        (if code.toNat < 0xFF ∧ rest ≠ [] then output ++ [0] else output)

def dropZero (output : List Byte) : List Byte :=
  if output.getLast? = some 0 then output.dropLast else output

def decode : Except DecodeError (List Byte) := (decodeLoop data.length 0 data []).map dropZero

/-! ### The code as a recursion over the data

`encodeFrom block data` is the code of `data` behind the bytes of a block that is
not closed yet. -/

@[local grind]
def blockCode (block : List Byte) : List Byte := BitVec.ofNat 8 (block.length + 1) :: block

@[local grind]
def encodeFrom : List Byte → List Byte → List Byte
  | block, [] => blockCode block
  | block, byte :: data =>
    if byte = 0 then blockCode block ++ encodeFrom [] data
    else if block.length + 2 = 0xFF then blockCode (block ++ [byte]) ++ encodeFrom [] data
    else encodeFrom (block ++ [byte]) data

variable (closed block : List Byte)

def opened : Encoder where
  output := closed ++ 0 :: block
  codeIndex := closed.length
  code := block.length + 1

lemma patched_opened : (opened closed block).patched = closed ++ blockCode block := by
  simp [Encoder.patched, opened, blockCode]

lemma close_opened : (opened closed block).close = opened (closed ++ blockCode block) [] := by
  unfold Encoder.close
  rw [patched_opened]
  simp [opened, blockCode]

lemma step_opened_zero : (opened closed block).step 0 = opened (closed ++ blockCode block) [] := by
  rw [Encoder.step, if_pos rfl, close_opened]

variable {closed block : List Byte} {byte : Byte}

lemma step_opened_full (h : byte ≠ 0) (hfull : block.length + 2 = 0xFF) :
    (opened closed block).step byte = opened (closed ++ blockCode (block ++ [byte])) [] := by
  have hnext : { opened closed block with
      output := (opened closed block).output ++ [byte]
      code := (opened closed block).code + 1 } = opened closed (block ++ [byte]) := by
    simp [opened]
  rw [Encoder.step, if_neg h]
  simp only [hnext]
  rw [if_pos (by simpa [opened] using hfull), close_opened]

lemma step_opened_more (h : byte ≠ 0) (hmore : block.length + 2 ≠ 0xFF) :
    (opened closed block).step byte = opened closed (block ++ [byte]) := by
  grind [opened, Encoder.step]

lemma foldl_step_patched : ∀ closed block, (data.foldl Encoder.step (opened closed block)).patched =
      closed ++ encodeFrom block data := by
  induction data with
  | nil =>
    intro closed block
    exact patched_opened closed block
  | cons byte data ih =>
    grind [step_opened_zero, step_opened_full, step_opened_more]

lemma encode_eq : encode data = encodeFrom [] data := foldl_step_patched data [] []

/-- An open block: no zeros, and short enough to stay open. -/
@[local grind]
structure OpenBlock (block : List Byte) : Prop where
  nonzero : (0 : Byte) ∉ block
  short : block.length < 254

lemma OpenBlock.nil : OpenBlock [] := ⟨not_mem_nil, by decide⟩

lemma OpenBlock.append (h : OpenBlock block) (hbyte : byte ≠ 0)
    (hmore : block.length + 2 ≠ 0xFF) : OpenBlock (block ++ [byte]) where
  nonzero := by
    intro hmem
    rcases mem_append.mp hmem with hblock | hlast
    · exact h.nonzero hblock
    · exact hbyte (mem_singleton.mp hlast).symm
  short := by
    have := h.short
    rw [length_append, length_singleton]
    omega

lemma toNat_code {n : ℕ} (h : n < 256) : (BitVec.ofNat 8 n).toNat = n := by
  rw [BitVec.toNat_ofNat]
  exact Nat.mod_eq_of_lt h

lemma code_ne_zero {n : ℕ} (hpos : 0 < n) (h : n < 256) : BitVec.ofNat 8 n ≠ 0 := by
  intro hzero
  have hn := toNat_code h
  rw [hzero] at hn
  have : (0 : Byte).toNat = 0 := rfl
  omega

lemma zero_notMem_blockCode (hnonzero : (0 : Byte) ∉ block)
    (hshort : block.length < 255) : (0 : Byte) ∉ blockCode block := by
  intro hmem
  rcases mem_cons.mp hmem with hcode | hblock
  · exact code_ne_zero (Nat.succ_pos _) (by omega) hcode.symm
  · exact hnonzero hblock

lemma encodeFrom_ne_nil : ∀ block, encodeFrom block data ≠ [] := by
  induction data with
  | nil => intro block; exact cons_ne_nil _ _
  | cons byte data ih => grind

lemma zero_notMem_encodeFrom : ∀ block, OpenBlock block → (0 : Byte) ∉ encodeFrom block data := by
  induction data with
  | nil =>
    intro block h
    exact zero_notMem_blockCode h.nonzero (by have := h.short; omega)
  | cons byte data ih =>
    intro block h
    have hshort := h.short
    grind [zero_notMem_blockCode]

lemma zero_notMem_encode : (0 : Byte) ∉ encode data := by
  rw [encode_eq]
  exact zero_notMem_encodeFrom data [] OpenBlock.nil

lemma decodeLoop_block (hshort : block.length < 255) (rest : List Byte)
    (turns idx : ℕ) (output : List Byte) :
    decodeLoop (turns + 1) idx (blockCode block ++ rest) output =
      decodeLoop turns (idx + (block.length + 1)) rest
        (if block.length + 1 < 0xFF ∧ rest ≠ [] then output ++ block ++ [0] else output ++ block) := by
  have hcode : (BitVec.ofNat 8 (block.length + 1)).toNat = block.length + 1 :=
    toNat_code (by omega)
  grind

lemma decodeLoop_encodeFrom :
    ∀ block turns idx output, OpenBlock block → (encodeFrom block data).length ≤ turns →
      decodeLoop turns idx (encodeFrom block data) output = .ok (output ++ block ++ data) := by
  induction data with
  | nil =>
    intro block turns idx output h hturns
    have hshort := h.short
    have hloop := decodeLoop_block (show block.length < 255 by omega) [] (turns - 1) idx output
    have hpos : 0 < (encodeFrom block []).length :=
      length_pos_of_ne_nil (encodeFrom_ne_nil [] block)
    rw [Nat.sub_add_cancel (by omega), append_nil, if_neg (by simp)] at hloop
    rw [encodeFrom, hloop, append_nil]
    cases turns - 1 <;> rfl
  | cons byte data ih =>
    intro block turns idx output h hturns
    have hshort := h.short
    have hnext := encodeFrom_ne_nil data []
    rw [encodeFrom] at hturns ⊢
    split at hturns
    · next hzero =>
        rw [length_append, blockCode, length_cons] at hturns
        have hloop := decodeLoop_block (show block.length < 255 by omega) (encodeFrom [] data)
          (turns - 1) idx output
        rw [Nat.sub_add_cancel (by omega), if_pos ⟨by omega, hnext⟩,
          ih [] _ _ _ OpenBlock.nil (by omega)] at hloop
        rw [if_pos hzero, hloop, hzero]
        simp
    · next hbyte =>
        rw [if_neg hbyte]
        split at hturns
        · next hfull =>
            rw [length_append, blockCode, length_cons] at hturns
            have hblock : (block ++ [byte]).length < 255 := by
              rw [length_append, length_singleton]
              omega
            have hloop := decodeLoop_block hblock (encodeFrom [] data) (turns - 1) idx output
            -- A full block stands for no zero.
            have hnozero : ¬((block ++ [byte]).length + 1 < 0xFF ∧ encodeFrom [] data ≠ []) := by
              rw [length_append, length_singleton]
              omega
            rw [Nat.sub_add_cancel (by omega), if_neg hnozero,
              ih [] _ _ _ OpenBlock.nil (by omega)] at hloop
            rw [if_pos hfull, hloop]
            simp
        · next hmore =>
            rw [if_neg hmore, ih _ _ _ _ (h.append hbyte hmore) hturns]
            simp

lemma decode_encode : decode (encode data) = .ok (dropZero data) := by
  rw [decode, encode_eq, decodeLoop_encodeFrom data [] _ 0 [] OpenBlock.nil (le_refl _)]
  rfl

lemma dropZero_of_ne {data : List Byte} (h : data.getLast? ≠ some 0) : dropZero data = data :=
  if_neg h

lemma dropZero_append_zero : dropZero (data ++ [0]) = data := by
  rw [dropZero, if_pos (by simp), dropLast_concat]

lemma decode_encode_eq_iff : decode (encode data) = .ok data ↔ data.getLast? ≠ some 0 := by
  grind [decode_encode, dropZero]

end COBSCodec

/-! ## CRC-16 -/

variable (crc : BitVec 16)

def crc16Shift : BitVec 16 := if crc &&& 0x8000 ≠ 0 then (crc <<< 1) ^^^ 0x1021 else crc <<< 1

def crc16Step (byte : Byte) : BitVec 16 :=
  (List.range 8).foldl (fun crc _ => crc16Shift crc) (crc ^^^ (byte.setWidth 16 <<< 8))

def crc16 (data : List Byte) : ℕ := (data.foldl crc16Step 0xFFFF).toNat

/-! ## The transport -/

/-- The state of a `UARTTransport`: whether the port is open, and `_seq`. -/
structure UARTTransport where
  isOpen : Bool
  seq : ℕ

/-- How a call of `send` went: the transport after it, the bytes that were written, and
what it returned or that it raised `struct.error`. -/
structure Sent where
  transport : UARTTransport
  written : List Byte
  result : Option Bool

variable (msgType seq payloadLen : ℕ)

def header : List Byte := beBytes 1 msgType ++ beBytes 1 seq ++ beBytes 2 payloadLen

@[local grind]
def packHeader : Option (List Byte) :=
  if msgType < 256 ∧ seq < 256 ∧ payloadLen < 65536 then some (header msgType seq payloadLen)
  else none

def rawFrame (header payload : List Byte) : List Byte :=
  header ++ payload ++ beBytes 2 (crc16 (header ++ payload))

variable (raw : List Byte)

def lineFrame : List Byte := 0 :: COBSCodec.encode raw ++ [0]

variable (t : UARTTransport)

/-- `UARTTransport.send`, given whether the write succeeds.  The counter moves before the
header is packed. -/
@[local grind]
def UARTTransport.send (msgType : ℕ) (payload : List Byte) (writes : Bool) : Sent :=
  if t.isOpen = false then ⟨t, [], some false⟩
  else
    let seq := t.seq % 256
    let t := { t with seq := (t.seq + 1) % 256 }
    match packHeader msgType seq payload.length with
    | none => ⟨t, [], none⟩
    | some header =>
      if writes then ⟨t, lineFrame (rawFrame header payload), some true⟩
      else ⟨t, [], some false⟩

/-- What `read(1)` does: it returns a byte, it times out, or it raises. -/
inductive Read
  | byte (b : Byte)
  | empty
  | failed
  deriving DecidableEq

/-- One turn of the loop of `receive`: the time at its head and the read. -/
structure Turn where
  now : ℚ
  read : Read

/-- How the loop of `receive` ends. -/
inductive Scan
  /-- `break` with the bytes of a frame -/
  | frame (buf : List Byte)
  | timeout
  | failed
  | reading
  deriving DecidableEq

@[local grind]
def scan (deadline : ℚ) : List Byte → Bool → List Turn → Scan
  | _, _, [] => .reading
  | buf, started, turn :: turns =>
    if turn.now < deadline then
      match turn.read with
      | .failed => .failed
      | .empty => scan deadline buf started turns
      | .byte b =>
        if b = 0 then
          if started ∧ buf ≠ [] then .frame buf else scan deadline [] true turns
        else if started then scan deadline (buf ++ [b]) started turns
        else scan deadline buf started turns
    else .timeout

/-- A message as `receive` returns it. -/
structure Message where
  msgType : ℕ
  seq : ℕ
  payload : List Byte
  deriving DecidableEq

def parseRaw : Option Message :=
  if raw.length < 6 then none
  else if ofBeBytes (raw.drop (raw.length - 2)) ≠ crc16 (raw.take (raw.length - 2)) then none
  else
    let payload := (raw.take (raw.length - 2)).drop 4
    if payload.length ≠ ofBeBytes ((raw.take 4).drop 2) then none
    else some ⟨ofBeBytes (raw.take 1), ofBeBytes ((raw.take 2).drop 1), payload⟩

def parseFrame (buf : List Byte) : Option Message :=
  if buf = [] then none
  else
    match COBSCodec.decode buf with
    | .error _ => none
    | .ok raw => parseRaw raw

/-- `UARTTransport.receive` from a time on: what it returns, if the turns suffice for it
to return. -/
def UARTTransport.receive (start timeout : ℚ) (turns : List Turn) : Option (Option Message) :=
  if t.isOpen = false then some none
  else
    match scan (start + timeout) [] false turns with
    | .frame buf => some (parseFrame buf)
    | .timeout => some none
    | .failed => some none
    | .reading => none

/-! ## The line -/

/-- The turns read these bytes in this order, all of them before the deadline.  A read
may time out any number of times in between. -/
@[local grind]
def Delivers (deadline : ℚ) : List Byte → List Turn → Prop
  | [], _ => True
  | _ :: _, [] => False
  | b :: bytes, turn :: turns => turn.now < deadline ∧
      match turn.read with
      | .byte c => c = b ∧ Delivers deadline bytes turns
      | .empty => Delivers deadline (b :: bytes) turns
      | .failed => False

def promptly (bytes : List Byte) : List Turn := bytes.map fun b => ⟨0, .byte b⟩

variable {deadline : ℚ}

lemma delivers_promptly (h : 0 < deadline) (bytes : List Byte) :
    Delivers deadline bytes (promptly bytes) := by
  induction bytes with
  | nil => exact trivial
  | cons b bytes ih => exact ⟨h, rfl, ih⟩

variable (turns : List Turn)

lemma scan_frame : ∀ {bytes buf : List Byte}, (0 : Byte) ∉ bytes → buf ++ bytes ≠ [] →
      Delivers deadline (bytes ++ [0]) turns → scan deadline buf true turns = .frame (buf ++ bytes) := by
  induction turns with
  | nil =>
    intro bytes buf _ _ h
    cases bytes <;> exact h.elim
  | cons turn turns ih =>
    intro bytes buf hzero hne h
    obtain ⟨now, read⟩ := turn
    cases bytes with
    | nil => grind
    | cons c bytes =>
      obtain ⟨hnow, hread⟩ := h
      rw [scan, if_pos hnow]
      cases read with
      | failed => exact hread.elim
      | empty => exact ih hzero hne hread
      | byte b =>
        obtain ⟨rfl, hrest⟩ := hread
        have hb : b ≠ 0 := fun h => hzero (h ▸ mem_cons_self)
        have hscan := ih (fun h => hzero (mem_cons_of_mem _ h))
          (show (buf ++ [b]) ++ bytes ≠ [] by simp) hrest
        grind

lemma scan_delimited {bytes : List Byte}
    (hzero : (0 : Byte) ∉ bytes) (hne : bytes ≠ []) (h : Delivers deadline (0 :: bytes ++ [0]) turns) :
    scan deadline [] false turns = .frame bytes := by
  induction turns with
  | nil => exact h.elim
  | cons turn turns ih =>
    obtain ⟨now, read⟩ := turn
    obtain ⟨hnow, hread⟩ := h
    rw [scan, if_pos hnow]
    cases read with
    | failed => exact hread.elim
    | empty => exact ih hread
    | byte b =>
      obtain ⟨rfl, hrest⟩ := hread
      simpa using scan_frame turns hzero (show [] ++ bytes ≠ [] from hne) hrest

/-! ## The round trip -/

open COBSCodec

section RoundTrip

variable {msgType seq : ℕ} {payload : List Byte}

@[simp] lemma length_header (msgType seq payloadLen : ℕ) :
    (header msgType seq payloadLen).length = 4 := by simp [header]

lemma header_fields (hmsg : msgType < 256) (hseq : seq < 256) {payloadLen : ℕ}
    (hlen : payloadLen < 65536) (rest : List Byte) :
    ofBeBytes ((header msgType seq payloadLen ++ rest).take 1) = msgType ∧
      ofBeBytes (((header msgType seq payloadLen ++ rest).take 2).drop 1) = seq ∧
      ofBeBytes (((header msgType seq payloadLen ++ rest).take 4).drop 2) = payloadLen := by
  have h1 : (header msgType seq payloadLen ++ rest).take 1 = beBytes 1 msgType := by
    rw [header, append_assoc, append_assoc]
    exact take_left' (length_beBytes 1 _)
  have h2 : ((header msgType seq payloadLen ++ rest).take 2).drop 1 = beBytes 1 seq := by
    rw [header, append_assoc,
      take_left' (show (beBytes 1 msgType ++ beBytes 1 seq).length = 2 by simp)]
    exact drop_left' (length_beBytes 1 _)
  grind [header, length_header, drop_left', ofBeBytes_beBytes]

lemma crc16_lt (data : List Byte) : crc16 data < 65536 := BitVec.isLt _

lemma parseRaw_rawFrame (hmsg : msgType < 256) (hseq : seq < 256)
    (hlen : payload.length < 65536) :
    parseRaw (rawFrame (header msgType seq payload.length) payload) =
      some ⟨msgType, seq, payload⟩ := by
  have hsize : (rawFrame (header msgType seq payload.length) payload).length =
      payload.length + 6 := by
    simp [rawFrame]
    omega
  have hbody : (header msgType seq payload.length ++ payload).length = payload.length + 4 := by
    simp
    omega
  have htake : (rawFrame (header msgType seq payload.length) payload).take (payload.length + 4) =
      header msgType seq payload.length ++ payload := take_left' hbody
  have hdrop : (rawFrame (header msgType seq payload.length) payload).drop (payload.length + 4) =
      beBytes 2 (crc16 (header msgType seq payload.length ++ payload)) := drop_left' hbody
  have hcrc : ofBeBytes (beBytes 2 (crc16 (header msgType seq payload.length ++ payload))) =
      crc16 (header msgType seq payload.length ++ payload) := by
    rw [ofBeBytes_beBytes]
    exact Nat.mod_eq_of_lt (crc16_lt _)
  have hpayload : (header msgType seq payload.length ++ payload).drop 4 = payload :=
    drop_left' (length_header ..)
  have hfields := header_fields hmsg hseq hlen
    (payload ++ beBytes 2 (crc16 (header msgType seq payload.length ++ payload)))
  rw [← append_assoc, ← rawFrame] at hfields
  simp [parseRaw, hsize, htake, hdrop, hcrc, hpayload, hfields, -drop_one]

/-- A raw frame that lost its last byte is refused: it is too short, or the payload is
shorter than the header says. -/
lemma parseRaw_cut (hmsg : msgType < 256) (hseq : seq < 256) (hlen : payload.length < 65536)
    (b : Byte) : parseRaw (header msgType seq payload.length ++ payload ++ [b]) = none := by
  have hsize : (header msgType seq payload.length ++ payload ++ [b]).length =
      payload.length + 5 := by
    simp
    omega
  grind [header_fields, parseRaw]

lemma rawFrame_eq (head : List Byte) : ∃ hi, rawFrame head payload = head ++ payload ++ [hi] ++
      [BitVec.ofNat 8 (crc16 (head ++ payload))] := by
  refine ⟨BitVec.ofNat 8 (crc16 (head ++ payload) / 256), ?_⟩
  simp [rawFrame, beBytes, leBytes]

lemma ofNat_byte_eq_zero_iff (n : ℕ) : BitVec.ofNat 8 n = (0 : Byte) ↔ n % 256 = 0 := by
  constructor
  · intro h
    have := congrArg BitVec.toNat h
    simpa using this
  · intro h
    apply BitVec.eq_of_toNat_eq
    simpa using h

lemma parseFrame_encode (hmsg : msgType < 256) (hseq : seq < 256)
    (hlen : payload.length < 65536) :
    parseFrame (COBSCodec.encode (rawFrame (header msgType seq payload.length) payload)) =
      if crc16 (header msgType seq payload.length ++ payload) % 256 = 0 then none
      else some ⟨msgType, seq, payload⟩ := by
  have hne : encode (rawFrame (header msgType seq payload.length) payload) ≠ [] := by
    rw [encode_eq]
    exact encodeFrom_ne_nil _ _
  rw [parseFrame, if_neg hne, decode_encode]
  obtain ⟨hi, hraw⟩ := rawFrame_eq (header msgType seq payload.length)
  by_cases hzero : crc16 (header msgType seq payload.length ++ payload) % 256 = 0
  · rw [if_pos hzero]
    rw [(ofNat_byte_eq_zero_iff _).mpr hzero] at hraw
    rw [hraw, dropZero_append_zero]
    exact parseRaw_cut hmsg hseq hlen hi
  all_goals grind [ofNat_byte_eq_zero_iff, Option.some.inj, dropZero_of_ne, parseRaw_rawFrame]

lemma send_written {t : UARTTransport} (hopen : t.isOpen) (hmsg : msgType < 256)
    (hlen : payload.length < 65536) :
    (t.send msgType payload true).written =
      lineFrame (rawFrame (header msgType (t.seq % 256) payload.length) payload) := by grind

/-- Data come back from the codec unless they end in a zero; the code has no zeros; and
a message that was sent is received, exactly when the low byte of its CRC is not zero. -/
theorem uart_round_trip_iff (data : List Byte) (sender receiver : UARTTransport) (msgType : ℕ)
    (payload : List Byte) (start timeout : ℚ) (turns : List Turn) :
    (COBSCodec.decode (COBSCodec.encode data) = .ok data ↔ data.getLast? ≠ some 0) ∧
      (0 : Byte) ∉ COBSCodec.encode data ∧
      (sender.isOpen → receiver.isOpen → msgType < 256 → payload.length < 65536 →
        Delivers (start + timeout) (sender.send msgType payload true).written turns →
        (receiver.receive start timeout turns = some (some ⟨msgType, sender.seq % 256, payload⟩) ↔
          crc16 (header msgType (sender.seq % 256) payload.length ++ payload) % 256 ≠ 0)) := by
  refine ⟨decode_encode_eq_iff data, zero_notMem_encode data, ?_⟩
  intro hsender hreceiver hmsg hlen hline
  have hseq : sender.seq % 256 < 256 := Nat.mod_lt _ (by decide)
  have hne : encode
      (rawFrame (header msgType (sender.seq % 256) payload.length) payload) ≠ [] := by
    rw [encode_eq]
    exact encodeFrom_ne_nil _ _
  rw [send_written hsender hmsg hlen, lineFrame] at hline
  have hscan := scan_delimited turns (zero_notMem_encode _) hne hline
  grind [UARTTransport.receive, parseFrame_encode]

/-- A control request with a zero in its payload. -/
theorem uart_round_trip_request : (⟨true, 0⟩ : UARTTransport).receive 0 1
        (promptly ((⟨true, 0⟩ : UARTTransport).send 1 [0, 7] true).written) =
      some (some ⟨1, 0, [0, 7]⟩) :=
  ((uart_round_trip_iff [] ⟨true, 0⟩ ⟨true, 0⟩ 1 [0, 7] 0 1 _).2.2 rfl rfl (by decide) (by decide)
    (delivers_promptly (by norm_num) _)).mpr (by decide +kernel)

/-- The heartbeat with sequence number 16 has a CRC with a low byte of zero: the receiver
drops it.  A single zero is decoded to nothing. -/
theorem heartbeat_lost : (⟨true, 0⟩ : UARTTransport).receive 0 1
        (promptly ((⟨true, 16⟩ : UARTTransport).send 0xFF [] true).written) = some none ∧
      COBSCodec.decode (COBSCodec.encode [0]) = .ok [] := by decide +kernel

end RoundTrip

end HeimdallDaq.DataPlane.UartTransport
