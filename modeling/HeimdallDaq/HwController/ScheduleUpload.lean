/-
  HwController/ScheduleUpload.lean --- chunked schedule uploads.

  SCHB opens a session on the connection, SCHC adds the next chunk to it and SCHE hands
  the text over to SCHD.
-/
import HeimdallDaq.HwController.Control
import HeimdallDaq.HwController.CtrFrame

namespace HeimdallDaq.HwController

open Foundation

structure SchedSession where
  sess : ℕ
  totalLen : ℕ
  crc32 : ℕ
  nchunks : ℕ
  buf : List Byte := []
  nextSeq : ℕ := 0
  lastActivity : ℚ

inductive UploadEvent
  | opened (sess totalLen crc nchunks : ℕ)
  | accepted (sess seq : ℕ) (payload : List Byte)
  | submitted (sess : ℕ) (text : Text)
  deriving DecidableEq

structure Upload where
  conn : ConnState := {}
  schedSession : Option SchedSession := none
  /-- `_sess_id` of the control plane -/
  sessId : ℕ := 0
  log : List UploadEvent := []

/-- The library functions that `_handle_sche` calls. -/
structure Library where
  /-- `zlib.crc32(data) & U32_MAX` -/
  crc32 : List Byte → BitVec 32
  /-- `json.loads(text)` -/
  loads : Text → Except ErrorKind Json

inductive Answer
  /-- `_build_reply(None)` -/
  | zeros
  /-- `_json_reply` -/
  | json (doc : Dict Json)
  /-- `_ack_reply(False, reason, {"entries": 0})` -/
  | refused (reason : String)
  /-- `_submit_request("SCHD", [text], extra={"entries": n})` -/
  | schd (text : Text) (entries : ℕ)
  | other

namespace Upload

def schbMaxBytes : ℕ := 262144

def schcMaxChunk : ℕ := 116

@[local grind]
def schedSessionIdleSec : ℚ := 30

@[local grind]
def drop (u : Upload) : Upload := { u with schedSession := none }

@[local grind]
def note (u : Upload) (e : UploadEvent) : Upload := { u with log := u.log ++ [e] }

variable (now : ℚ)

@[local grind]
def handleSchb (totalLen crc nchunks : ℕ) (u : Upload) : Upload × Answer :=
  if schbMaxBytes < totalLen then
    (u.drop, .json [("ok", .bool false), ("reason", .str "too_large")])
  else if totalLen = 0 ∨ nchunks = 0 ∨ totalLen < nchunks ∨ nchunks * schcMaxChunk < totalLen then
    (u.drop, .json [("ok", .bool false), ("reason", .str "bad_request")])
  else
    -- `next_session_id`
    let sess := u.sessId % 0xFFFF + 1
    ({ u with sessId := sess, schedSession := some ⟨sess, totalLen, crc, nchunks, [], 0, now⟩ }.note
        (.opened sess totalLen crc nchunks),
      .json [("ok", .bool true), ("sess", .int sess)])

variable (sess : ℕ)

@[local grind]
def liveSession (u : Upload) : Upload × Option SchedSession :=
  match u.schedSession with
  | none => (u, none)
  | some s =>
    if s.sess ≠ sess then (u, none)
    else if schedSessionIdleSec < now - s.lastActivity then (u.drop, none)
    else (u, some s)

@[local grind]
def handleSchc (msg : List Byte) (sess seq length : ℕ) (u : Upload) : Upload × Answer :=
  match u.liveSession now sess with
  | (u', none) =>
    (u', .json [("ok", .bool false), ("reason", .str "bad_session"), ("seq", .int seq)])
  | (u', some s) =>
    if seq ≠ s.nextSeq then
      (u'.drop, .json [("ok", .bool false), ("reason", .str "out_of_order"), ("seq", .int seq)])
    else if ¬(1 ≤ length ∧ length ≤ schcMaxChunk) ∨ s.totalLen < s.buf.length + length ∨
        s.nchunks ≤ seq then
      (u'.drop, .json [("ok", .bool false), ("reason", .str "overflow"), ("seq", .int seq)])
    else
      let payload := cut 10 (10 + length) msg
      ({ u' with schedSession := some { s with
          buf := s.buf ++ payload, nextSeq := s.nextSeq + 1, lastActivity := now } }.note
          (.accepted sess seq payload),
        .json [("ok", .bool true), ("seq", .int seq)])

def entryCount (doc : Dict Json) : ℕ :=
  match doc.find "entries" with
  | some (.arr xs) => min 99999 xs.length
  | _ => 0

def handleSche (lib : Library) (now : ℚ) (sess : ℕ) (u : Upload) : Upload × Answer :=
  match u.liveSession now sess with
  | (u', none) => (u'.drop, .refused "bad_session")
  | (u', some s) =>
    if s.buf.length ≠ s.totalLen ∨ s.nextSeq ≠ s.nchunks then (u'.drop, .refused "incomplete")
    else if (lib.crc32 s.buf).toNat ≠ s.crc32 then (u'.drop, .refused "crc_mismatch")
    else
      match Text.decode s.buf with
      | none => (u'.drop, .refused "parse_error")
      | some text =>
        match lib.loads text with
        | .ok (.obj doc) => (u'.drop.note (.submitted sess text), .schd text (entryCount doc))
        | .ok _ => (u'.drop, .refused "parse_error")
        | .error .value => (u'.drop, .refused "parse_error")
        -- any other exception ends in `process_ctr_frame`
        | .error _ => (u'.drop, .zeros)

def serve (lib : Library) (space : Char → Bool) (M : ℕ) (now : ℚ) (msg : List Byte) (u : Upload) :
    Upload × Answer :=
  match processCtrFrame space M u.conn.clusterBad msg with
  | .schb totalLen crc nchunks => u.handleSchb now totalLen crc nchunks
  | .schc sess seq length => u.handleSchc now msg sess seq length
  | .sche sess => u.handleSche lib now sess
  | .zeros => (u, .zeros)
  | _ => (u, .other)

inductive Action
  | frame (now : ℚ) (msg : List Byte)
  | elsewhere (conn : ConnState) (sessId : ℕ)

def step (lib : Library) (space : Char → Bool) (M : ℕ) (u : Upload) : Action → Upload
  | .frame now msg => (u.serve lib space M now msg).1
  | .elsewhere conn sessId => { u with conn := conn, sessId := sessId }

/-- What a step can do to the upload. -/
@[local grind]
inductive Effect (lib : Library) (u u' : Upload) : Prop
  | kept (hlog : u'.log = u.log) (h : u'.schedSession = none ∨ u'.schedSession = u.schedSession)
  | opened (sess totalLen crc nchunks : ℕ) (now : ℚ)
      (hlog : u'.log = u.log ++ [.opened sess totalLen crc nchunks])
      (h : u'.schedSession = some ⟨sess, totalLen, crc, nchunks, [], 0, now⟩)
  | accepted (s : SchedSession) (payload : List Byte) (now : ℚ) (hs : u.schedSession = some s)
      (hlog : u'.log = u.log ++ [.accepted s.sess s.nextSeq payload])
      (h : u'.schedSession = some { s with
        buf := s.buf ++ payload, nextSeq := s.nextSeq + 1, lastActivity := now })
  | submitted (s : SchedSession) (text : Text) (hs : u.schedSession = some s)
      (hlen : s.buf.length = s.totalLen) (hseq : s.nextSeq = s.nchunks)
      (hcrc : (lib.crc32 s.buf).toNat = s.crc32) (htext : Text.decode s.buf = some text)
      (hlog : u'.log = u.log ++ [.submitted s.sess text]) (h : u'.schedSession = none)

variable {lib : Library} {space : Char → Bool} {M : ℕ} {u u' : Upload}

lemma liveSession_cases (u : Upload) :
    ((u.liveSession now sess).2 = none ∧ (u.liveSession now sess).1 = u) ∨
      ((u.liveSession now sess).2 = none ∧ (u.liveSession now sess).1 = u.drop) ∨
      ∃ s, u.schedSession = some s ∧ s.sess = sess ∧ u.liveSession now sess = (u, some s) := by
  grind

lemma effect_handleSchc (lib : Library) (now : ℚ) (msg : List Byte) (sess seq length : ℕ)
    (u : Upload) : Effect lib u (u.handleSchc now msg sess seq length).1 := by grind

lemma effect_handleSche (lib : Library) (now : ℚ) (sess : ℕ) (u : Upload) :
    Effect lib u (u.handleSche lib now sess).1 := by
  unfold handleSche
  rcases liveSession_cases now sess u with ⟨hnone, hu⟩ | ⟨hnone, hu⟩ | ⟨s, hs, rfl, hlive⟩
  · grind
  all_goals grind

lemma step_effect (a : Action) : Effect lib u (step lib space M u a) := by
  cases a with
  | frame now msg =>
    grind [Upload.step, serve, effect_handleSchc, effect_handleSche]
  | elsewhere conn sessId => exact .kept rfl (.inr rfl)

/-! ## Submitted texts -/

@[local grind]
def chunkEvents (payloads : List (List Byte)) : List UploadEvent :=
  payloads.mapIdx fun seq payload => .accepted sess seq payload

def Grown (log : List UploadEvent) (s : SchedSession) : Prop :=
  ∃ before payloads, log = before ++ .opened s.sess s.totalLen s.crc32 s.nchunks ::
    chunkEvents s.sess payloads ∧ s.buf = payloads.flatten ∧ s.nextSeq = payloads.length

/-- The text is put together from all chunks accepted since the last SCHB that was
accepted, which was of this session, and is as that SCHB announced it. -/
def Justified (lib : Library) (log : List UploadEvent) (sess : ℕ) (text : Text) : Prop :=
  ∃ before totalLen crc nchunks payloads,
    log = before ++ .opened sess totalLen crc nchunks :: chunkEvents sess payloads ∧
    text.encode = some payloads.flatten ∧ payloads.flatten.length = totalLen ∧
    payloads.length = nchunks ∧ (lib.crc32 payloads.flatten).toNat = crc

/-- The open session has grown from the log, and every submission is justified by what
was logged before it. -/
@[local grind]
structure Sound (lib : Library) (u : Upload) : Prop where
  session : ∀ s, u.schedSession = some s → Grown u.log s
  submissions : ∀ before sess text after,
    u.log = before ++ .submitted sess text :: after → Justified lib before sess text

lemma chunkEvents_append (payloads : List (List Byte)) (payload : List Byte) :
    chunkEvents sess (payloads ++ [payload]) =
      chunkEvents sess payloads ++ [.accepted sess payloads.length payload] := List.mapIdx_concat

lemma submitted_of_append {log before after : List UploadEvent} {e : UploadEvent} {sess : ℕ}
    {text : Text} (h : log ++ [e] = before ++ .submitted sess text :: after) :
    (e = .submitted sess text ∧ before = log) ∨
      ∃ after', log = before ++ .submitted sess text :: after' := by
  rcases List.eq_nil_or_concat after with rfl | ⟨after', last, rfl⟩
  all_goals grind [List.append_inj']

lemma Sound.effect (hsound : Sound lib u) (h : Effect lib u u') : Sound lib u' := by
  cases h with
  | kept hlog hsession => grind
  | opened sess totalLen crc nchunks now hlog hsession =>
    refine ⟨fun s hs => ?_, fun before sess text after h => ?_⟩
    · rw [hsession] at hs
      cases hs
      exact ⟨u.log, [], hlog, rfl, rfl⟩
    all_goals grind [submitted_of_append]
  | accepted s payload now hs hlog hsession =>
    refine ⟨fun s' hs' => ?_, fun before sess text after h => ?_⟩
    · rw [hsession] at hs'
      cases hs'
      obtain ⟨before, payloads, hgrown, hbuf, hseq⟩ := hsound.session s hs
      refine ⟨before, payloads ++ [payload], ?_, ?_, ?_⟩
      all_goals grind
    all_goals grind [submitted_of_append]
  | submitted s text hs hlen hseq hcrc htext hlog hsession =>
    refine ⟨fun s' hs' => ?_, fun before sess text' after h => ?_⟩
    · rw [hsession] at hs'
      cases hs'
    · rcases submitted_of_append (hlog ▸ h) with ⟨he, rfl⟩ | ⟨after', hafter⟩
      · cases he
        obtain ⟨before, payloads, hgrown, hbuf, hcount⟩ := hsound.session s hs
        rw [hbuf] at hlen hcrc htext
        exact ⟨before, _, _, _, payloads, hgrown, Text.decode_eq_some_iff.mp htext, hlen,
          hcount.symm.trans hseq, hcrc⟩
      all_goals grind

lemma sound_run (hsession : u.schedSession = none) (hlog : u.log = []) (actions : List Action) :
    Sound lib (run (step lib space M) u actions) := by
  have hstart : Sound lib u := by
    refine ⟨fun s hs => ?_, fun before sess text after h => ?_⟩
    · rw [hsession] at hs
      cases hs
    · rw [hlog] at h
      exact absurd h.symm (List.append_ne_nil_of_right_ne_nil _ (List.cons_ne_nil _ _))
  exact run_invariant (step lib space M) (fun s a hs (_ : True) => hs.effect (step_effect a)) actions u
    hstart (along_of_forall _ (fun _ _ => trivial) actions u)

end Upload

end HeimdallDaq.HwController
