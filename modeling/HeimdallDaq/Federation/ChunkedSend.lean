/-
  Federation/ChunkedSend.lean --- the senders of chunked schedule uploads.

  `send_chunked` of the coordinator and `upload_schedule_chunked` of heimdall_ctl send
  SCHB, then the chunks with at most `window` of them unacknowledged, then SCHE.
-/
import HeimdallDaq.HwController.ScheduleUpload

namespace HeimdallDaq.Federation

open Foundation HeimdallDaq.HwController List Sender Upload

@[local grind]
def pieces (size : ℕ) (data : List Byte) : List (List Byte) :=
  (List.range ((data.length + size - 1) / size)).map fun i => cut (size * i) (size * i + size) data

structure Sender where
  data : List Byte
  window : ℕ
  checksSize : Bool
  checksSeq : Bool
  schbRefused : String
  schcRefused : String
  badReply : String

@[local grind]
def Sender.sendChunked (schcWindow : ℤ) (data : List Byte) : Sender where
  data := data
  window := (max 1 schcWindow).toNat
  checksSize := false
  checksSeq := true
  schbRefused := "schb_refused"
  schcRefused := "bad_reply"
  badReply := "bad_reply"

@[local grind]
def Sender.uploadScheduleChunked (data : List Byte) (window : ℕ) : Sender where
  data := data
  window := window
  checksSize := true
  checksSeq := false
  schbRefused := "refused"
  schcRefused := "refused"
  badReply := "bad reply"

inductive SendPhase
  | begin
  | opening
  | chunks (sess sent acked : ℕ)
  | closing
  | done (reply : HwController.Answer)
  | failed (reason : Json)

inductive Move
  | send (frame : List Byte) (next : SendPhase)
  | recv (next : HwController.Answer → SendPhase)
  | fail (reason : Json)
  | halt

@[local grind]
def Move.ready (replies : List HwController.Answer) : Move → Bool
  | .send _ _ => true
  | .recv _ => !replies.isEmpty
  | .fail _ => true
  | .halt => false

def okDoc : HwController.Answer → Option (Dict Json)
  | .json doc => if (doc.find "ok").any Json.truthy then some doc else none
  | _ => none

def reasonOf (default bad : String) : HwController.Answer → Json
  | .json doc => (doc.find "reason").getD (.str default)
  | .refused reason => .str reason
  | _ => .str bad

def intOf (doc : Dict Json) (key : String) : Option ℤ :=
  match doc.find key with
  | some (.int n) => some n
  | _ => none

def request (verb : HwController.Verb) (cs : List Code) (ns : List ℤ) (rest : List Byte) (next : SendPhase) : Move :=
  match packWords cs ns with
  | some bs => .send (frame verb (bs ++ rest)) next
  | none => .fail (.str "struct.error")

namespace Sender

variable (lib : Library) (s : Sender)

def chunkList : List (List Byte) := pieces Upload.schcMaxChunk s.data

def chunk (i : ℕ) : List Byte := s.chunkList[i]?.getD []

def move : SendPhase → Move
  | .begin =>
    if s.checksSize ∧ ¬(0 < s.data.length ∧ s.data.length ≤ Upload.schbMaxBytes) then
      .fail (.str ("schedule is " ++ toString s.data.length ++ " bytes; the chunked limit is " ++
        toString Upload.schbMaxBytes))
    else
      request .schb [.u32, .u32, .u16, .u16]
        [s.data.length, (lib.crc32 s.data).toNat, s.chunkList.length, 0] [] .opening
  | .opening => .recv fun reply =>
    match okDoc reply with
    | some doc => .chunks ((intOf doc "sess").getD 0).toNat 0 0
    | none => .failed (reasonOf s.schbRefused s.badReply reply)
  | .chunks sess sent acked =>
    if acked < s.chunkList.length then
      if sent < s.chunkList.length ∧ sent - acked < s.window then
        request .schc [.u16, .u16, .u16] [sess, sent, (s.chunk sent).length] (s.chunk sent)
          (.chunks sess (sent + 1) acked)
      else .recv fun reply =>
        match okDoc reply with
        | some doc =>
          if s.checksSeq ∧ intOf doc "seq" ≠ some acked then
            .failed (reasonOf s.schcRefused s.badReply reply)
          else .chunks sess sent (acked + 1)
        | none => .failed (reasonOf s.schcRefused s.badReply reply)
    else request .sche [.u16] [sess] [] .closing
  | .closing => .recv .done
  | .done _ => .halt
  | .failed _ => .halt

end Sender

structure Link where
  phase : SendPhase := .begin
  up : List (List Byte) := []
  down : List HwController.Answer := []
  server : Upload

inductive Turn
  | sender
  | server (now : ℚ)

namespace Link

variable (lib : Library) (space : Char → Bool) (M : ℕ) (s : Sender)

def step (l : Link) : Turn → Link
  | .sender =>
    match s.move lib l.phase with
    | .send frame next => { l with phase := next, up := l.up ++ [frame] }
    | .recv next =>
      match l.down with
      | reply :: rest => { l with phase := next reply, down := rest }
      | [] => l
    | .fail reason => { l with phase := .failed reason }
    | .halt => l
  | .server now =>
    match l.up with
    | frame :: rest =>
      let (server, reply) := l.server.serve lib space M now frame
      { l with up := rest, down := l.down ++ [reply], server := server }
    | [] => l

def Enabled (l : Link) : Turn → Prop
  | .sender => (s.move lib l.phase).ready l.down = true
  | .server now =>
    l.up ≠ [] ∧ ∀ session ∈ l.server.schedSession,
      now - session.lastActivity ≤ Upload.schedSessionIdleSec

instance (l : Link) : ∀ t : Turn, Decidable (l.Enabled lib s t)
  | .sender => inferInstanceAs (Decidable (_ = true))
  | .server _ => inferInstanceAs (Decidable (_ ∧ _))

end Link

/-! ## The chunks -/

lemma flatten_pieces_take (size k : ℕ) (data : List Byte) :
    ((List.range k).map fun i => cut (size * i) (size * i + size) data).flatten =
      data.take (size * k) := by
  induction k with
  | zero => simp
  | succ k ih =>
    have hcut : cut (size * k) (size * k + size) data = (data.drop (size * k)).take size := by
      rw [cut, drop_take, Nat.add_sub_cancel_left]
    rw [range_succ, map_append, flatten_append, ih, map_singleton,
      flatten_singleton, hcut, Nat.mul_succ, take_add]

lemma flatten_pieces {size : ℕ} (hsize : 0 < size) (data : List Byte) :
    (pieces size data).flatten = data := by
  have hceil : data.length ≤ size * ((data.length + size - 1) / size) := by
    have hlt := Nat.lt_mul_div_succ (data.length + size - 1) hsize
    grind
  rw [pieces, flatten_pieces_take, take_of_length_le hceil]

lemma length_of_mem_pieces {size : ℕ} (hsize : 0 < size) {data piece : List Byte}
    (h : piece ∈ pieces size data) : 1 ≤ piece.length ∧ piece.length ≤ size := by
  obtain ⟨i, hi, rfl⟩ := mem_map.mp h
  have hlt : size * (i + 1) ≤ data.length + size - 1 :=
    (Nat.mul_le_mul_left _ (mem_range.mp hi)).trans (Nat.mul_div_le _ _)
  rw [Nat.mul_succ] at hlt
  rw [cut, length_drop, length_take]
  omega

/-! ## The frames of an upload -/

namespace Sender

variable {lib : Library} {space : Char → Bool} {M : ℕ} {s : Sender}

@[local grind]
def Fits (s : Sender) : Prop := 1 ≤ s.data.length ∧ s.data.length ≤ Upload.schbMaxBytes

def schbFrame (lib : Library) (s : Sender) : List Byte :=
  frame .schb ((packWords [.u32, .u32, .u16, .u16]
    [s.data.length, (lib.crc32 s.data).toNat, s.chunkList.length, 0]).getD [] ++ [])

@[local grind]
def schcFrame (s : Sender) (sess i : ℕ) : List Byte :=
  frame .schc ((packWords [.u16, .u16, .u16] [sess, i, (s.chunk i).length]).getD [] ++ s.chunk i)

def scheFrame (sess : ℕ) : List Byte := frame .sche ((packWords [.u16] [sess]).getD [] ++ [])

lemma chunkList_length_bounds (hfits : s.Fits) :
    1 ≤ s.chunkList.length ∧ s.chunkList.length ≤ s.data.length ∧
      s.data.length ≤ s.chunkList.length * Upload.schcMaxChunk ∧ s.chunkList.length ≤ 2260 := by
  grind [chunkList, HwController.Upload.schbMaxBytes, HwController.Upload.schcMaxChunk]

variable {i : ℕ}

lemma chunk_mem (hi : i < s.chunkList.length) : s.chunk i ∈ s.chunkList := by
  rw [chunk, getElem?_eq_getElem hi]
  exact getElem_mem hi

lemma chunk_length (hi : i < s.chunkList.length) :
    1 ≤ (s.chunk i).length ∧ (s.chunk i).length ≤ Upload.schcMaxChunk :=
  length_of_mem_pieces (by decide) (chunk_mem hi)

lemma flatten_chunkList (s : Sender) : s.chunkList.flatten = s.data :=
  flatten_pieces (by decide) s.data

lemma take_succ_chunkList (hi : i < s.chunkList.length) :
    s.chunkList.take (i + 1) = s.chunkList.take i ++ [s.chunk i] := by
  rw [take_add_one, chunk, getElem?_eq_getElem hi]
  rfl

lemma fits_natCast {c : Code} {n : ℕ} (h : n < 256 ^ c.size) : c.Fits n :=
  ⟨Int.natCast_nonneg n, by exact_mod_cast h⟩

lemma request_of_pack {verb : HwController.Verb} {cs : List Code} {ns : List ℤ} {rest bs : List Byte}
    {next : SendPhase} (h : packWords cs ns = some bs) :
    request verb cs ns rest next = .send (frame verb ((packWords cs ns).getD [] ++ rest)) next := by
  rw [request, h]
  rfl

lemma exists_schbWords (lib : Library) (hfits : s.Fits) :
    ∃ bs, packWords [.u32, .u32, .u16, .u16] [(s.data.length : ℤ), ((lib.crc32 s.data).toNat : ℤ),
        (s.chunkList.length : ℤ), 0] = some bs ∧
      ∀ verb rest, unpackWords [.u32, .u32, .u16] (cut 4 14 (frame verb (bs ++ rest))) =
        some [(s.data.length : ℤ), ((lib.crc32 s.data).toNat : ℤ), (s.chunkList.length : ℤ)] := by
  obtain ⟨-, -, -, hcount⟩ := chunkList_length_bounds hfits
  have hsize : s.data.length ≤ 262144 := hfits.2
  have hcrc : (lib.crc32 s.data).toNat < 2 ^ 32 := (lib.crc32 s.data).isLt
  have hwords : WordsFit [.u32, .u32, .u16]
      [s.data.length, (lib.crc32 s.data).toNat, s.chunkList.length] :=
    .cons ⟨nofun, fits_natCast (show _ < 4294967296 by omega)⟩
      (.cons ⟨nofun, fits_natCast (show _ < 4294967296 by omega)⟩
        (.cons ⟨nofun, fits_natCast (show _ < 65536 by omega)⟩ .nil))
  obtain ⟨front, hfront, -, hread⟩ := exists_packWords 14 hwords rfl (by decide)
  have hpack : packWords ([.u32, .u32, .u16] ++ [.u16])
      ([(s.data.length : ℤ), ((lib.crc32 s.data).toNat : ℤ), (s.chunkList.length : ℤ)] ++ [0]) =
        some (front ++ [0, 0]) :=
    packWords_append hfront rfl (by decide)
  grind

lemma move_begin (lib : Library) (hfits : s.Fits) :
    s.move lib .begin = .send (s.schbFrame lib) .opening := by
  obtain ⟨bs, hbs, -⟩ := exists_schbWords lib hfits
  rw [move, if_neg fun h => h.2 hfits]
  exact request_of_pack hbs

lemma processCtrFrame_schbFrame (hfits : s.Fits) : processCtrFrame space M false (s.schbFrame lib) =
      .schb s.data.length (lib.crc32 s.data).toNat s.chunkList.length := by
  obtain ⟨bs, hbs, hread⟩ := exists_schbWords lib hfits
  rw [schbFrame, hbs, Option.getD_some, processCtrFrame_frame, decodeCall, hread]
  rfl

variable {sess : ℕ}

section

variable (hfits : s.Fits) (hsess : sess < 65536) (hi : i < s.chunkList.length)
include hfits hsess hi

lemma exists_schcWords :
    ∃ bs, packWords [.u16, .u16, .u16] [(sess : ℤ), (i : ℤ), ((s.chunk i).length : ℤ)] = some bs ∧
      4 + bs.length = 10 ∧ ∀ verb rest, unpackWords [.u16, .u16, .u16]
        (cut 4 10 (frame verb (bs ++ rest))) =
          some [(sess : ℤ), (i : ℤ), ((s.chunk i).length : ℤ)] := by
  obtain ⟨-, -, -, hcount⟩ := chunkList_length_bounds hfits
  have hlen : (s.chunk i).length ≤ 116 := (chunk_length hi).2
  exact exists_packWords 10 (.cons ⟨nofun, fits_natCast hsess⟩
    (.cons ⟨nofun, fits_natCast (show _ < 65536 by omega)⟩
      (.cons ⟨nofun, fits_natCast (show _ < 65536 by omega)⟩ .nil))) rfl (by decide)

lemma request_schcFrame (next : SendPhase) :
    request .schc [.u16, .u16, .u16] [sess, i, (s.chunk i).length] (s.chunk i) next =
      .send (s.schcFrame sess i) next := by grind [exists_schcWords, request_of_pack]

lemma processCtrFrame_schcFrame :
    processCtrFrame space M false (s.schcFrame sess i) = .schc sess i (s.chunk i).length := by
  obtain ⟨bs, hbs, -, hread⟩ := exists_schcWords hfits hsess hi
  rw [schcFrame, hbs, Option.getD_some, processCtrFrame_frame, decodeCall, hread]
  rfl

lemma cut_schcFrame : cut 10 (10 + (s.chunk i).length) (s.schcFrame sess i) = s.chunk i := by
  obtain ⟨bs, hbs, hlen, -⟩ := exists_schcWords hfits hsess hi
  have hchunk : (s.chunk i).length ≤ 116 := (chunk_length hi).2
  have hpart : cut (4 + 6) (4 + (6 + (s.chunk i).length)) (frame .schc (bs ++ (s.chunk i ++ []))) =
      s.chunk i :=
    cut_frame_part (by omega) rfl (by omega)
  rw [append_nil, ← Nat.add_assoc] at hpart
  grind

end

lemma exists_scheWords (hsess : sess < 65536) :
    ∃ bs, packWords [.u16] [(sess : ℤ)] = some bs ∧ 4 + bs.length = 6 ∧ ∀ verb rest,
      unpackWords [.u16] (cut 4 6 (frame verb (bs ++ rest))) = some [(sess : ℤ)] :=
  exists_packWords 6 (.cons ⟨nofun, fits_natCast hsess⟩ .nil) rfl (by decide)

lemma request_scheFrame (hsess : sess < 65536) (next : SendPhase) :
    request .sche [.u16] [sess] [] next = .send (scheFrame sess) next := by
  obtain ⟨bs, hbs, -⟩ := exists_scheWords hsess
  exact request_of_pack hbs

lemma processCtrFrame_scheFrame (hsess : sess < 65536) :
    processCtrFrame space M false (scheFrame sess) = .sche sess := by
  obtain ⟨bs, hbs, -, hread⟩ := exists_scheWords hsess
  rw [scheFrame, hbs, Option.getD_some, processCtrFrame_frame, decodeCall, hread]
  rfl

end Sender

/-! ## An upload -/

namespace Link

section Progress

variable (lib : Library) (space : Char → Bool) (M : ℕ) (s : Sender) (u₀ : Upload) (text : Text)
  (doc : Dict Json)

def sess : ℕ := u₀.sessId % 0xFFFF + 1

@[local grind]
def frameAt : ℕ → List Byte
  | 0 => s.schbFrame lib
  | i + 1 => if i < s.chunkList.length then s.schcFrame (sess u₀) i else Sender.scheFrame (sess u₀)

def answerAt : ℕ → HwController.Answer
  | 0 => .json [("ok", .bool true), ("sess", .int (sess u₀))]
  | i + 1 =>
    if i < s.chunkList.length then .json [("ok", .bool true), ("seq", .int i)]
    else .schd text (Upload.entryCount doc)

def logAt (k : ℕ) : List UploadEvent :=
  u₀.log ++ .opened (sess u₀) s.data.length (lib.crc32 s.data).toNat s.chunkList.length ::
    Upload.chunkEvents (sess u₀) (s.chunkList.take k)

@[local grind]
def serverAt (last : ℚ) : ℕ → Upload
  | 0 => u₀
  | k + 1 =>
    if k ≤ s.chunkList.length then
      { conn := u₀.conn
        schedSession := some ⟨sess u₀, s.data.length, (lib.crc32 s.data).toNat, s.chunkList.length,
          (s.chunkList.take k).flatten, k, last⟩
        sessId := sess u₀
        log := logAt lib s u₀ k }
    else
      { conn := u₀.conn
        schedSession := none
        sessId := sess u₀
        log := logAt lib s u₀ s.chunkList.length ++ [.submitted (sess u₀) text] }

@[local grind]
def phaseAt (sent read : ℕ) : SendPhase :=
  if sent = 0 then .begin
  else if read = 0 then .opening
  else if sent ≤ s.chunkList.length + 1 then .chunks (sess u₀) (sent - 1) (read - 1)
  else if read ≤ s.chunkList.length + 1 then .closing
  else .done (answerAt s u₀ text doc (s.chunkList.length + 1))

/-- An upload of which so many frames were sent, served and acknowledged. -/
@[local grind]
structure Progress (l : Link) (sent served read : ℕ) (last : ℚ) : Prop where
  read_le : read ≤ served
  served_le : served ≤ sent
  sent_le : sent ≤ s.chunkList.length + 2
  opening : read = 0 → sent ≤ 1
  closing : sent = s.chunkList.length + 2 → s.chunkList.length + 1 ≤ read
  phase : l.phase = phaseAt s u₀ text doc sent read
  up : l.up = (List.range' served (sent - served)).map (frameAt lib s u₀)
  down : l.down = (List.range' read (served - read)).map (answerAt s u₀ text doc)
  server : l.server = serverAt lib s u₀ text last served

variable {lib space M s u₀ text doc} {l : Link} {sent served read : ℕ} {last : ℚ}

lemma sess_lt : sess u₀ < 65536 := by
  unfold sess
  omega

variable {k : ℕ}

lemma logAt_succ (hk : k < s.chunkList.length) :
    logAt lib s u₀ (k + 1) = logAt lib s u₀ k ++ [.accepted (sess u₀) k (s.chunk k)] := by
  rw [logAt, Sender.take_succ_chunkList hk, Upload.chunkEvents_append, length_take,
    Nat.min_eq_left hk.le, logAt, append_assoc, cons_append]

lemma serve_schb (hfits : s.Fits) (hbad : u₀.conn.clusterBad = false) (now : ℚ) :
    u₀.serve lib space M now (s.schbFrame lib) =
      (serverAt lib s u₀ text now 1, answerAt s u₀ text doc 0) := by
  obtain ⟨hpos, hle, hmul, -⟩ := Sender.chunkList_length_bounds hfits
  have hbounds := hfits.1
  unfold Upload.serve
  rw [hbad, Sender.processCtrFrame_schbFrame hfits]
  simp only
  rw [Upload.handleSchb, if_neg (not_lt.mpr hfits.2), if_neg (by omega), serverAt,
    if_pos (Nat.zero_le _)]
  rfl

lemma serverAt_session (hk : k ≤ s.chunkList.length) :
    (serverAt lib s u₀ text last (k + 1)).schedSession =
      some ⟨sess u₀, s.data.length, (lib.crc32 s.data).toNat, s.chunkList.length,
        (s.chunkList.take k).flatten, k, last⟩ := by rw [serverAt, if_pos hk]

variable {now : ℚ}

lemma liveSession_serverAt (hk : k ≤ s.chunkList.length)
    (hidle : now - last ≤ Upload.schedSessionIdleSec) :
    (serverAt lib s u₀ text last (k + 1)).liveSession now (sess u₀) =
      (serverAt lib s u₀ text last (k + 1), some ⟨sess u₀, s.data.length, (lib.crc32 s.data).toNat,
        s.chunkList.length, (s.chunkList.take k).flatten, k, last⟩) := by
  grind [HwController.Upload.liveSession]

lemma clusterBad_serverAt (hbad : u₀.conn.clusterBad = false) (i : ℕ) :
    (serverAt lib s u₀ text last i).conn.clusterBad = false := by
  cases i with
  | zero => exact hbad
  | succ k => grind

lemma length_flatten_take (hk : k < s.chunkList.length) :
    (s.chunkList.take k).flatten.length + (s.chunk k).length ≤ s.data.length := by
  have hlead : (s.chunkList.take (k + 1)).flatten ++ (s.chunkList.drop (k + 1)).flatten = s.data := by
    rw [← flatten_append, take_append_drop, Sender.flatten_chunkList]
  grind [Sender.take_succ_chunkList]

lemma serve_schc (hfits : s.Fits) (hbad : u₀.conn.clusterBad = false)
    (hk : k < s.chunkList.length) (hidle : now - last ≤ Upload.schedSessionIdleSec) :
    (serverAt lib s u₀ text last (k + 1)).serve lib space M now (s.schcFrame (sess u₀) k) =
      (serverAt lib s u₀ text now (k + 2), .json [("ok", .bool true), ("seq", .int k)]) := by
  have hlen := Sender.chunk_length hk
  have htotal := length_flatten_take hk
  unfold Upload.serve
  rw [clusterBad_serverAt hbad, Sender.processCtrFrame_schcFrame hfits sess_lt hk]
  simp only
  rw [Upload.handleSchc, liveSession_serverAt hk.le hidle]
  simp only
  rw [if_neg (not_not.mpr rfl), if_neg (by omega), Sender.cut_schcFrame hfits sess_lt hk, serverAt, if_pos hk.le, serverAt,
    if_pos (Nat.succ_le_of_lt hk), logAt_succ hk, Sender.take_succ_chunkList hk, flatten_append,
    flatten_singleton]
  rfl

lemma serve_sche (hbad : u₀.conn.clusterBad = false) (hdecode : Text.decode s.data = some text)
    (hloads : lib.loads text = .ok (.obj doc)) (hidle : now - last ≤ Upload.schedSessionIdleSec) :
    (serverAt lib s u₀ text last (s.chunkList.length + 1)).serve lib space M now
        (Sender.scheFrame (sess u₀)) =
      (serverAt lib s u₀ text now (s.chunkList.length + 2), .schd text (Upload.entryCount doc)) := by
  unfold Upload.serve
  rw [clusterBad_serverAt hbad, Sender.processCtrFrame_scheFrame sess_lt]
  simp only
  rw [Upload.handleSche, liveSession_serverAt le_rfl hidle, take_length, Sender.flatten_chunkList]
  simp only
  rw [if_neg (by omega), if_neg (not_not.mpr rfl), hdecode]
  simp only
  rw [hloads]
  simp only
  rw [serverAt, if_pos le_rfl, serverAt, if_neg (by omega)]
  rfl

lemma serve_frameAt (hfits : s.Fits) (hbad : u₀.conn.clusterBad = false)
    (hdecode : Text.decode s.data = some text) (hloads : lib.loads text = .ok (.obj doc)) {i : ℕ}
    (hi : i < s.chunkList.length + 2)
    (hidle : ∀ session ∈ (serverAt lib s u₀ text last i).schedSession,
      now - session.lastActivity ≤ Upload.schedSessionIdleSec) :
    (serverAt lib s u₀ text last i).serve lib space M now (frameAt lib s u₀ i) =
      (serverAt lib s u₀ text now (i + 1), answerAt s u₀ text doc i) := by
  cases i with
  | zero => exact serve_schb hfits hbad now
  | succ k =>
    have hlast : now - last ≤ schedSessionIdleSec := hidle _ (serverAt_session (by omega))
    grind [answerAt, serve_schc, serve_sche]

lemma Progress.move (hfits : s.Fits) (hwindow : 1 ≤ s.window)
    (h : Progress lib s u₀ text doc l sent served read last) :
    (s.move lib l.phase = .send (frameAt lib s u₀ sent) (phaseAt s u₀ text doc (sent + 1) read) ∧
      sent < s.chunkList.length + 2 ∧ (read = 0 → sent = 0) ∧
      (sent = s.chunkList.length + 1 → s.chunkList.length + 1 ≤ read)) ∨
    (∃ next, s.move lib l.phase = .recv next ∧
      next (answerAt s u₀ text doc read) = phaseAt s u₀ text doc sent (read + 1) ∧ read < sent) ∨
    (s.move lib l.phase = .halt ∧ read = s.chunkList.length + 2) := by
  have hread : read ≤ sent := h.read_le.trans h.served_le
  obtain ⟨-, -, hsent, hopening, hclosing, hphase, -⟩ := h
  rw [hphase]
  clear hphase
  obtain ⟨hpos, -⟩ := Sender.chunkList_length_bounds hfits
  by_cases hsent0 : sent = 0
  · grind [Sender.move_begin]
  by_cases hread0 : read = 0
  · obtain rfl : sent = 1 := by have := hopening hread0; omega
    subst hread0
    refine .inr (.inl ⟨_, rfl, ?_, by omega⟩)
    rw [phaseAt, if_neg (by omega), if_neg (by omega), if_pos (by omega)]
    rfl
  obtain ⟨k, rfl⟩ := Nat.exists_eq_succ_of_ne_zero hread0
  obtain ⟨j, rfl⟩ := Nat.exists_eq_succ_of_ne_zero hsent0
  by_cases hlast : j + 1 ≤ s.chunkList.length + 1
  · have hphase : phaseAt s u₀ text doc (j + 1) (k + 1) = .chunks (sess u₀) j k := by grind
    rw [hphase, Sender.move]
    by_cases hacked : k < s.chunkList.length
    · rw [if_pos hacked]
      by_cases hroom : j < s.chunkList.length ∧ j - k < s.window
      · grind [Sender.request_schcFrame, sess_lt]
      · rw [if_neg hroom]
        refine .inr (.inl ⟨_, rfl, ?_, by omega⟩)
        rw [answerAt, if_pos hacked, phaseAt, if_neg hsent0, if_neg (by omega), if_pos hlast]
        exact if_neg fun h => h.2 rfl
    all_goals grind [Sender.request_scheFrame, sess_lt]
  · obtain rfl : j = s.chunkList.length + 1 := by omega
    by_cases hdone : k + 1 ≤ s.chunkList.length + 1
    · obtain rfl : k = s.chunkList.length := by have := hclosing rfl; omega
      have hphase : phaseAt s u₀ text doc (s.chunkList.length + 1 + 1) (s.chunkList.length + 1) =
          .closing := by
        rw [phaseAt, if_neg hsent0, if_neg hread0, if_neg hlast, if_pos hdone]
      rw [hphase]
      refine .inr (.inl ⟨_, rfl, ?_, by omega⟩)
      grind
    · refine .inr (.inr ⟨?_, by omega⟩)
      rw [phaseAt, if_neg hsent0, if_neg hread0, if_neg hlast, if_neg hdone]
      rfl

lemma range'_eq_cons {a b : ℕ} (h : a < b) :
    List.range' a (b - a) = a :: List.range' (a + 1) (b - (a + 1)) := by
  rw [show b - a = b - (a + 1) + 1 by omega, range'_succ]

lemma range'_eq_concat {a b : ℕ} (h : a ≤ b) :
    List.range' a (b + 1 - a) = List.range' a (b - a) ++ [b] := by
  rw [show b + 1 - a = b - a + 1 by omega, range'_1_concat, show a + (b - a) = b by omega]

lemma exists_enabled_of_up (h : l.up ≠ []) : ∃ t, l.Enabled lib s t := by
  cases hsession : l.server.schedSession with
  | none => exact ⟨.server 0, h, fun session hs => by rw [hsession] at hs; cases hs⟩
  | some session =>
    refine ⟨.server session.lastActivity, h, fun session' hs => ?_⟩
    rw [hsession] at hs
    cases hs
    rw [sub_self]
    decide

lemma Progress.complete (hfits : s.Fits) (hwindow : 1 ≤ s.window)
    (h : Progress lib s u₀ text doc l sent served read last) (hstuck : ¬∃ t, l.Enabled lib s t) :
    served = s.chunkList.length + 2 ∧ read = s.chunkList.length + 2 := by
  have hmove := h.move hfits hwindow
  obtain ⟨hread, hserved, hsent, -, -, -, hup, hdown, hserver⟩ := h
  have hall : served = sent := by
    by_contra hne
    have hlt : served < sent := by omega
    refine hstuck (exists_enabled_of_up ?_)
    rw [hup, range'_eq_cons hlt]
    exact cons_ne_nil _ _
  rcases hmove with ⟨hmove, -⟩ | ⟨next, hmove, -, hlt⟩ | ⟨-, hdone⟩
  · refine absurd ⟨.sender, ?_⟩ hstuck
    rw [Enabled, hmove]
    rfl
  · refine absurd ⟨.sender, ?_⟩ hstuck
    rw [Enabled, hmove, hdown, range'_eq_cons (by omega)]
    rfl
  · omega

lemma progress_start (last : ℚ) : Progress lib s u₀ text doc { server := u₀ } 0 0 0 last where
  read_le := le_rfl
  served_le := le_rfl
  sent_le := Nat.zero_le _
  opening := fun _ => Nat.zero_le _
  closing := nofun
  phase := rfl
  up := rfl
  down := rfl
  server := rfl

variable (hfits : s.Fits) (hwindow : 1 ≤ s.window) (hbad : u₀.conn.clusterBad = false)
  (hdecode : Text.decode s.data = some text) (hloads : lib.loads text = .ok (.obj doc))
  {turns : List Turn}
include hfits hwindow hbad hdecode hloads

lemma Progress.step (h : Progress lib s u₀ text doc l sent served read last) {t : Turn} (ht : l.Enabled lib s t) :
    ∃ sent' served' read' last',
      Progress lib s u₀ text doc (l.step lib space M s t) sent' served' read' last' ∧
      sent' + served' + read' = sent + served + read + 1 := by
  have hmove := h.move hfits hwindow
  obtain ⟨hread, hserved, hsent, hopening, hclosing, hphase, hup, hdown, hserver⟩ := h
  cases t with
  | sender =>
    unfold Enabled at ht
    unfold Link.step
    rcases hmove with ⟨hmove, hlt, hfirst, hend⟩ | ⟨next, hmove, hnext, hlt⟩ | ⟨hmove, -⟩
    · rw [hmove]
      refine ⟨sent + 1, served, read, last, ⟨hread, by omega, by omega, by omega, by omega, rfl, ?_,
        hdown, hserver⟩, by omega⟩
      rw [range'_eq_concat hserved, map_append, ← hup]
      rfl
    · rw [hmove] at ht ⊢
      have hreply : read < served := by
        by_contra hge
        rw [hdown, show served - read = 0 by omega] at ht
        exact Bool.false_ne_true ht
      rw [range'_eq_cons hreply, map_cons] at hdown
      simp only [hdown]
      exact ⟨sent, served, read + 1, last, ⟨hreply, hserved, hsent, by omega, by omega, hnext, hup, rfl,
        hserver⟩, by omega⟩
    all_goals grind
  | server now =>
    obtain ⟨hne, hidle⟩ := ht
    have hlt : served < sent := by
      by_contra hge
      rw [hup, show sent - served = 0 by omega] at hne
      exact hne rfl
    rw [range'_eq_cons hlt, map_cons] at hup
    rw [hserver] at hidle
    unfold Link.step
    simp only [hup]
    rw [hserver, serve_frameAt hfits hbad hdecode hloads (by omega) hidle]
    refine ⟨sent, served + 1, read, now, ⟨by omega, hlt, hsent, hopening, hclosing, hphase, rfl, ?_,
      rfl⟩, by omega⟩
    rw [range'_eq_concat hread, map_append, ← hdown]
    rfl

lemma progress_run (h : Progress lib s u₀ text doc l sent served read last)
    (halong : Along (step lib space M s) (Enabled lib s) l turns) : ∃ sent' served' read' last',
      Progress lib s u₀ text doc (run (step lib space M s) l turns) sent' served' read' last' ∧
      sent' + served' + read' = sent + served + read + turns.length := by
  induction turns generalizing l sent served read last with
  | nil => exact ⟨sent, served, read, last, h, rfl⟩
  | cons t turns ih =>
    obtain ⟨ht, halong⟩ := halong
    obtain ⟨sent₁, served₁, read₁, last₁, h₁, hsum₁⟩ := h.step hfits hwindow hbad hdecode hloads ht
    obtain ⟨sent₂, served₂, read₂, last₂, h₂, hsum₂⟩ := ih h₁ halong
    exact ⟨sent₂, served₂, read₂, last₂, h₂, by rw [length_cons]; omega⟩

lemma upload_ends (halong : Along (step lib space M s) (Enabled lib s) { server := u₀ } turns) :
    turns.length ≤ 3 * (s.chunkList.length + 2) ∧
      ((¬∃ t, (run (step lib space M s) { server := u₀ } turns).Enabled lib s t) →
        (run (step lib space M s) { server := u₀ } turns).server.log =
          u₀.log ++ (.opened (sess u₀) s.data.length (lib.crc32 s.data).toNat s.chunkList.length ::
            chunkEvents (sess u₀) s.chunkList) ++ [.submitted (sess u₀) text]) := by
  obtain ⟨sent, served, read, last, hprogress, hsum⟩ :=
    progress_run hfits hwindow hbad hdecode hloads (progress_start 0) halong
  constructor
  · grind
  · intro hstuck
    obtain ⟨rfl, -⟩ := hprogress.complete hfits hwindow hstuck
    rw [hprogress.server, serverAt, if_neg (by omega), logAt, take_length]

end Progress

/-- An honest upload of either sender ends with the text submitted, if no frame comes
later than 30 s after the last; and whatever frames a connection gets, a text that is
submitted is what the chunks since the last SCHB were put together to. -/
theorem chunked_upload (lib : Library) (space : Char → Bool) (M : ℕ) :
    (∀ s : Sender, ((∃ schcWindow data, s = Sender.sendChunked schcWindow data) ∨
        ∃ data window, 1 ≤ window ∧ s = Sender.uploadScheduleChunked data window) →
      1 ≤ s.data.length ∧ s.data.length ≤ 262144 →
      ∀ text doc, Text.decode s.data = some text → lib.loads text = .ok (.obj doc) →
      ∀ u : Upload, u.conn.clusterBad = false →
      ∀ turns, Along (step lib space M s) (Enabled lib s) { server := u } turns →
        turns.length ≤ 3 * (s.chunkList.length + 2) ∧
        ((¬∃ t, (run (step lib space M s) { server := u } turns).Enabled lib s t) →
          (run (step lib space M s) { server := u } turns).server.log =
            u.log ++ (.opened (sess u) s.data.length (lib.crc32 s.data).toNat s.chunkList.length ::
              Upload.chunkEvents (sess u) s.chunkList) ++ [.submitted (sess u) text])) ∧
    ∀ u : Upload, u.schedSession = none → u.log = [] → ∀ actions before sess text after,
      (run (Upload.step lib space M) u actions).log = before ++ .submitted sess text :: after →
        Upload.Justified lib before sess text := by
  constructor
  · intro s hs hfits text doc hdecode hloads u hbad turns halong
    have hwindow : 1 ≤ s.window := by grind
    exact upload_ends hfits hwindow hbad hdecode hloads halong
  · intro u hsession hlog actions before sess text after h
    exact (sound_run hsession hlog actions).submissions before sess text after h

namespace Empty

def library : Library := ⟨fun _ => 0, fun _ => .ok (.obj [])⟩

def sender : Sender := .uploadScheduleChunked [0x7B, 0x7D] 16

def turns (now : ℚ) : List Turn := [.sender, .server 0, .sender, .sender, .server now, .sender]

/-- The text of two bytes is submitted. -/
theorem chunked_upload_prompt : (run (step library (fun _ => false) 1 sender) { server := {} }
      (turns 1 ++ [.sender, .server 2, .sender])).server.log =
        [.opened 1 2 0 1, .accepted 1 0 [0x7B, 0x7D], .submitted 1 [.char '{', .char '}']] ∧
    Upload.Justified library [.opened 1 2 0 1, .accepted 1 0 [0x7B, 0x7D]] 1
      [.char '{', .char '}'] := by
  have hupload := (chunked_upload library (fun _ => false) 1).1 sender
    (.inr ⟨_, 16, by decide, rfl⟩) (by decide) [.char '{', .char '}'] [] (by decide) rfl {} rfl
    (turns 1 ++ [.sender, .server 2, .sender]) (by decide +kernel)
  refine ⟨(hupload.2 ?_).trans (by decide), ?_⟩
  · rintro ⟨t, ht⟩
    cases t with
    | sender => exact absurd ht (by decide +kernel)
    | server now => exact ht.1 (by decide +kernel)
  · exact (chunked_upload library (fun _ => false) 1).2 {} rfl rfl
      [.frame 0 (sender.schbFrame library), .frame 1 (sender.schcFrame 1 0),
        .frame 2 (Sender.scheFrame 1)] _ _ _ [] (by decide +kernel)

/-- The chunk is served 31 s after SCHB: the session has idled out, the sender gives up
and nothing is submitted. -/
theorem idle_upload_dropped :
    let l := run (step library (fun _ => false) 1 sender) { server := {} } (turns 31)
    l.phase = .failed (.str "bad_session") ∧ l.up = [] ∧ l.server.log = [.opened 1 2 0 1] :=
  ⟨by with_unfolding_all rfl, by decide, by decide +kernel⟩

end Empty

end Link

end HeimdallDaq.Federation
