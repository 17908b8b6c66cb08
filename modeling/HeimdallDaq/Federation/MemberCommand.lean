/-
  Federation/MemberCommand.lean --- commands of the coordinator and what a member decodes.

  The coordinator packs a text command into a frame; the member's `process_ctr_frame`
  decodes it with formats of its own.
-/
import HeimdallDaq.HwController.CtrFrame

namespace HeimdallDaq.Federation

open Foundation HeimdallDaq.HwController List Text

inductive CommandError
  /-- `ValueError(message)` -/
  | raised (message : Text)
  /-- raised by a conversion or by `struct.pack` -/
  | builtin (kind : ErrorKind)
  deriving DecidableEq

@[local grind]
def channelVerbs : List Verb := [.gain, .egan, .bias]

def channelMax : ℕ := 31

@[local grind]
def hwcTable : List (String × Verb) :=
  [("FREQ", .freq), ("GAIN", .gain), ("EGAN", .egan), ("BIAS", .bias), ("ORNT", .ornt),
    ("SCHD", .schd), ("AGC", .agc), ("INIT", .init), ("SCHS", .schs), ("SCHQ", .schq),
    ("SCHN", .schn), ("RFQ", .rfq), ("PARK", .park), ("SCAN", .scan), ("OSTP", .ostp),
    ("OQRY", .oqry)]

def extTable : List (String × Verb) :=
  [("RECL", .recl), ("HWSQ", .hwsq), ("TLCK", .tlck), ("SCHG", .schg)]

@[local grind]
def verbOf (table : List (String × Verb)) (name : Text) : Option Verb :=
  (table.find? fun entry => Text.ofString entry.1 = name).map Prod.snd

variable (space : Char → Bool)

def fieldsOf (args : Text) : List Text :=
  Text.words space (args.map fun g => if g = .char ',' then .char ' ' else g)

section Encoders

variable (py : Python) (upper : Text → Text) (errorText : ErrorKind → Text)

def intText (t : Text) : Except CommandError ℤ :=
  match t.toString?.bind py.intOfText with
  | some n => .ok n
  | none => .error (.builtin .value)

def floatText (t : Text) : Except CommandError PyFloat :=
  match t.toString?.bind py.floatOfText with
  | some x => .ok x
  | none => .error (.builtin .value)

variable (cmd : Text)

def commandParts : Option (Text × Text) :=
  match Text.splitFirst py.isSpace cmd with
  | [] => none
  | [first] => some (upper first, [])
  | first :: rest :: _ => some (upper first, Text.strip py.isSpace rest)

def packInts (cs : List Code) (ns : List ℤ) : Except CommandError (List Byte) :=
  match packWords cs ns with
  | some bs => .ok bs
  | none => .error (.builtin .struct)

def packFloats (az el : PyFloat) : Except CommandError (List Byte) :=
  match Format.binary32.bits az, Format.binary32.bits el with
  | some a, some b => packInts [.u32, .u32] [a, b]
  | _, _ => .error (.builtin .overflow)

def packArgs (name args : Text) : Verb → Except CommandError (List Byte)
  | .freq => do
      let n ← intText py args
      packInts [.u64] [n]
  | .gain | .egan | .bias => do
      let values ← (fieldsOf py.isSpace args).mapM (intText py)
      if values = [] then
        .error (.raised (name ++ Text.ofString " requires per-channel values"))
      else packInts (List.replicate values.length .u32) values
  | .ornt => do
      let fields ← (fieldsOf py.isSpace args).mapM (floatText py)
      match fields with
      | az :: el :: _ => packFloats az el
      | _ => .error (.raised (Text.ofString "ORNT requires azimuth and elevation"))
  | .schd =>
    match args.encode with
    | none => .error (.builtin .value)
    | some payload =>
      if 124 < payload.length then
        .error (.raised (Text.ofString "SCHD payload exceeds 124 bytes"))
      else .ok payload
  | _ => .ok []

def packHwcCommand : Except CommandError (Verb × List Byte) :=
  match commandParts py upper cmd with
  | none => .error (.raised (Text.ofString "Empty command"))
  | some (name, args) =>
    match verbOf hwcTable name with
    | none => .error (.raised (Text.ofString "Unknown HWC command: " ++ name))
    | some verb => (packArgs py name args verb).map fun payload => (verb, payload)

def encodeHwcCommand : Except CommandError (Verb × List Byte) :=
  match packHwcCommand py upper cmd with
  | .error (.builtin .struct) => .error (.raised (errorText .struct))
  | .error (.builtin .overflow) => .error (.raised (errorText .overflow))
  | result => result

def tlkaUsage : CommandError := .raised (Text.ofString "TLKA requires 1 (approve) or 0 (revoke)")

def encodeOther (cmd args : Text) : Except CommandError (Verb × List Byte × Option (List ℤ)) := do
  let (verb, payload) ← encodeHwcCommand py upper errorText cmd
  if verb ∈ channelVerbs then
    let values ← (fieldsOf py.isSpace args).mapM (intText py)
    if channelMax < values.length then
      .error (.raised (Text.ofString (verb.text ++ " takes at most " ++ toString channelMax ++ " values")))
    else .ok (verb, payload, some values)
  else .ok (verb, payload, none)

def encodeMemberCommand : Except CommandError (Verb × List Byte × Option (List ℤ)) :=
  match commandParts py upper cmd with
  | none => encodeOther py upper errorText cmd []
  | some (name, args) =>
    match verbOf extTable name with
    | some verb => .ok (verb, [], none)
    | none =>
      if name = Text.ofString "TLKA" then
        match intText py args with
        | .error _ => .error tlkaUsage
        | .ok value =>
          if value = 0 ∨ value = 1 then
            (packInts [.u32] [value]).map fun payload => (.tlka, payload, none)
          else .error tlkaUsage
      else encodeOther py upper errorText cmd args

def xackFrame (term : ℤ) (clusterId : Text) : Option (List Byte) :=
  clusterId.encode.bind fun cid =>
    (packWords [.u32] [term % 2 ^ 32]).bind fun word =>
      (packWords [.u32] [0]).map fun last => frame .xack (word ++ (fit 32 (cid.take 31) ++ last))

/-! ## Arguments -/

def argumentsOf (args : Text) : Verb → Except CommandError (List Param)
  | .freq => (intText py args).map fun n => [.int n]
  | .gain | .egan | .bias => ((fieldsOf py.isSpace args).mapM (intText py)).map (List.map Param.int)
  | .ornt => ((fieldsOf py.isSpace args).mapM (floatText py)).map fun xs => (xs.take 2).map Param.float
  | .schd => .ok [.text args]
  | .tlka => (intText py args).map fun n => [.int n]
  | _ => .ok []

def arguments (verb : Verb) : Except CommandError (List Param) :=
  argumentsOf py ((commandParts py upper cmd).map Prod.snd |>.getD []) verb

end Encoders

@[local grind]
def carried (verb : Verb) (params : List Param) : Call :=
  match verb, params with
  | .tlka, [.int value] => .tlka value
  | .hwsq, _ => .query .hwsq
  | .schg, _ => .query .schg
  | .tlck, _ => .query .tlck
  | verb, params => .submit verb params

def inFrame : Param → Param
  | .float x => .float (Format.binary32.roundFloat x)
  | .text t => .text (Text.strip space (t.rdropWhile (· = .char (Char.ofNat 0))))
  | p => p

@[local grind]
def delivered (M : ℕ) (verb : Verb) (params : List Param) : Call :=
  if verb ∈ channelVerbs then
    if channelMax < M then .zeros
    else .submit verb ((params ++ List.replicate M (Param.int 0)).take M)
  else carried verb (params.map (inFrame space))

@[local grind]
def ArgsKept (M : ℕ) (verb : Verb) (params : List Param) : Prop :=
  (verb ∈ channelVerbs → M ≤ channelMax ∧ params.length = M) ∧
    (∀ x, .float x ∈ params → Format.binary32.roundFloat x = x) ∧
    ∀ t, .text t ∈ params → t.getLast? ≠ some (.char (Char.ofNat 0))

/-! ## What the member decodes -/

section Decoding

variable {space : Char → Bool} {M : ℕ}

lemma rdropWhile_append_replicate {α : Type} {p : α → Bool} {a : α} (ha : p a)
    (l : List α) (k : ℕ) : (l ++ List.replicate k a).rdropWhile p = l.rdropWhile p := by
  induction k with
  | zero => rw [replicate_zero, append_nil]
  | succ k ih =>
    rw [replicate_succ', ← append_assoc, rdropWhile_concat_pos _ _ _ ha, ih]

lemma fits_of_wordsFit_replicate {m : ℕ} {ns : List ℤ} (h : WordsFit (List.replicate m .u32) ns) :
    ∀ n ∈ ns, Code.u32.Fits n := by
  induction m generalizing ns with
  | zero =>
    cases h
    exact nofun
  | succ m ih =>
    obtain ⟨n, rest, hn, hrest, rfl⟩ := forall₂_cons_left_iff.mp h
    exact forall_mem_cons.mpr ⟨hn.2, ih hrest⟩

variable {verb : Verb} {values : List ℤ} {payload : List Byte}

lemma decode_channels (hverb : verb ∈ channelVerbs)
    (h : packWords (List.replicate values.length .u32) values = some payload) :
    processCtrFrame space M false (frame verb payload) =
      delivered space M verb (values.map .int) := by
  have hfits := fits_of_wordsFit_replicate (wordsFit_of_packWords (by simp) h)
  obtain rfl : wordBytes values = payload :=
    Option.some.inj ((packFrom_words hfits).symm.trans h)
  have hcall : processCtrFrame space M false (frame verb (wordBytes values)) =
      ((unpackWords (replicate M .u32) (cut 4 (4 + 4 * M) (frame verb (wordBytes values)))).map
        fun ns => Call.submit verb (ns.map .int)).getD .zeros := by
    rw [processCtrFrame_frame]
    simp only [channelVerbs, mem_cons, not_mem_nil, or_false] at hverb
    rcases hverb with rfl | rfl | rfl <;> rfl
  rw [hcall, delivered, if_pos hverb]
  split_ifs with hM
  · have hnone : unpackWords (replicate M .u32)
        (cut 4 (4 + 4 * M) (frame verb (wordBytes values))) = none := by
      rw [unpackWords, Option.map_eq_none_iff, Option.eq_none_iff_forall_ne_some]
      intro fs hfs
      have hlen := Struct.length_of_unpackFrom hfs
      rw [cut_frame_eq, length_take, length_fit, sizeFrom_replicate] at hlen
      unfold channelMax at hM
      omega
    rw [hnone]
    rfl
  · rw [unpackWords_channels (by unfold channelMax at hM; omega) hfits, Option.map_some,
      Option.getD_some, map_take, map_append, map_replicate]

lemma decode_freq {n : ℤ} (h : packWords [.u64] [n] = some payload) :
    processCtrFrame space M false (frame .freq payload) = .submit .freq [.int n] := by
  have hread := (unpackWords_frame 12 (by simp) h rfl (by decide) .freq []).1
  rw [append_nil] at hread
  rw [processCtrFrame_frame, decodeCall, hread]
  rfl

lemma decode_tlka {n : ℤ} (h : packWords [.u32] [n] = some payload) :
    processCtrFrame space M false (frame .tlka payload) = .tlka n := by
  have hread := (unpackWords_frame 8 (by simp) h rfl (by decide) .tlka []).1
  rw [append_nil] at hread
  rw [processCtrFrame_frame, decodeCall, hread]
  rfl

lemma packWords_of_packInts {cs : List Code} {ns : List ℤ}
    (h : packInts cs ns = .ok payload) : packWords cs ns = some payload := by grind [packInts]

variable {az el : PyFloat}

lemma packFloats_eq_ok (h : packFloats az el = .ok payload) :
    ∃ a b : ℕ, Format.binary32.bits az = some a ∧ Format.binary32.bits el = some b ∧
      packWords [.u32, .u32] [(a : ℤ), (b : ℤ)] = some payload := by
  grind [packFloats, packWords_of_packInts]

lemma decode_ornt (h : packFloats az el = .ok payload) :
    processCtrFrame space M false (frame .ornt payload) =
      .submit .ornt [.float (Format.binary32.roundFloat az), .float (Format.binary32.roundFloat el)] := by
  obtain ⟨a, b, ha, hb, hbs⟩ := packFloats_eq_ok h
  have hp : 1 < Format.binary32.precision := by decide
  have hread := (unpackWords_frame 12 (by simp) hbs rfl (by decide) .ornt []).1
  rw [append_nil] at hread
  have hfloats : unpackFloats 2 (cut 4 12 (frame .ornt payload)) =
      some [Format.binary32.ofBits a, Format.binary32.ofBits b] := by
    rw [unpackFloats, show replicate 2 Code.u32 = [.u32, .u32] from rfl, hread]
    simp only [Option.map_some, map_cons, map_nil, Int.toNat_natCast]
  grind [HwController.processCtrFrame_frame, HwController.decodeCall, Format.ofBits_bits]

lemma decode_schd {args : Text} (h : args.encode = some payload) (hle : payload.length ≤ 124) :
    processCtrFrame space M false (frame .schd payload) =
      .submit .schd [.text (Text.strip space (args.rdropWhile (· = .char (Char.ofNat 0))))] := by
  have hcut : cut 4 128 (frame .schd payload) = fit 124 payload := by
    rw [cut_frame_eq _ _ 124, take_of_length_le (length_fit 124 payload).le]
  have htext : decodeIgnore (fit 124 payload) =
      args ++ replicate (124 - payload.length) (.char (Char.ofNat 0)) := by
    refine decodeWithFrom_of_encode ?_ le_rfl
    rw [encode_append, h, encode_replicate utf8_null, fit, take_of_length_le hle]
    rfl
  rw [processCtrFrame_frame, decodeCall, hcut, schdText, htext, rdropWhile_append_replicate]
  · rfl
  · rfl

lemma takeWhile_append_replicate {α : Type} {p : α → Bool} {a : α} (ha : p a = false)
    (l : List α) (k : ℕ) : (l ++ List.replicate k a).takeWhile p = l.takeWhile p := by
  induction l with
  | nil =>
    cases k with
    | zero => rfl
    | succ k => rw [nil_append, replicate_succ, takeWhile_cons, if_neg (by simp [ha])]; rfl
  | cons b l ih =>
    rw [cons_append, takeWhile_cons, takeWhile_cons, ih]

lemma decode_xack {term : ℤ} {clusterId : Text} {cid msg : List Byte}
    (hcid : clusterId.encode = some cid) (h : xackFrame term clusterId = some msg) :
    msg.length = 128 ∧ processCtrFrame space M false msg =
      .xack (term % 2 ^ 32) (Text.decodeReplace ((cid.take 31).takeWhile (· ≠ 0))) := by
  rw [xackFrame, hcid, Option.bind_some] at h
  obtain ⟨word, hword, h⟩ := Option.bind_eq_some_iff.mp h
  obtain ⟨last, hlast, rfl⟩ := Option.map_eq_some_iff.mp h
  obtain ⟨hread, hlen⟩ := unpackWords_frame 8 (by simp) hword rfl (by decide) .xack
    (fit 32 (cid.take 31) ++ last)
  have hpart : cut (4 + 4) (4 + (4 + 32)) (frame .xack (word ++ (fit 32 (cid.take 31) ++ last))) =
      fit 32 (cid.take 31) :=
    cut_frame_part (by omega) (length_fit _ _) (by decide)
  grind [fit, takeWhile_append_replicate, HwController.length_frame, HwController.processCtrFrame_frame, HwController.decodeCall]

@[local grind]
def Carries (space : Char → Bool) (M : ℕ) (verb : Verb) (payload : List Byte) (params : List Param) :
    Prop :=
  processCtrFrame space M false (frame verb payload) = delivered space M verb params ∧
    (processCtrFrame space M false (frame verb payload) = carried verb params ↔ ArgsKept M verb params)

lemma carries_channels (hverb : verb ∈ channelVerbs)
    (h : packWords (List.replicate values.length .u32) values = some payload) :
    Carries space M verb payload (values.map .int) := by
  grind [decode_channels]

lemma carries_ints (ns : List ℤ) (hverb : verb ∉ channelVerbs)
    (h : processCtrFrame space M false (frame verb payload) = carried verb (ns.map .int)) :
    Carries space M verb payload (ns.map .int) := by
  have hframe : (ns.map Param.int).map (inFrame space) = ns.map .int := by
    rw [map_map]
    rfl
  refine ⟨?_, iff_of_true h ⟨fun hmem => absurd hmem hverb, by simp, by simp⟩⟩
  rw [h, delivered, if_neg hverb, hframe]

lemma carries_ornt (h : packFloats az el = .ok payload) :
    Carries space M .ornt payload [.float az, .float el] := by
  have hdecode : processCtrFrame space M false _ = _ := decode_ornt h
  refine ⟨hdecode, ?_⟩
  grind

lemma strip_rdropWhile_eq_iff {t : Text} (hstrip : Text.strip space t = t) :
    Text.strip space (t.rdropWhile (· = .char (Char.ofNat 0))) = t ↔
      t.getLast? ≠ some (.char (Char.ofNat 0)) := by
  have hself : t.rdropWhile (· = .char (Char.ofNat 0)) = t ↔
      t.getLast? ≠ some (.char (Char.ofNat 0)) := by
    rw [rdropWhile_eq_self_iff]
    cases t using reverseRecOn with
    | nil => simp
    | append_singleton t g => simp
  constructor
  · intro heq
    have hlen : t.length ≤ (t.rdropWhile (· = .char (Char.ofNat 0))).length := by
      conv_lhs => rw [← heq]
      exact length_strip_le space _
    exact hself.mp ((List.rdropWhile_prefix _ t).eq_of_length_le hlen)
  all_goals grind

lemma carries_schd {args : Text} (h : args.encode = some payload)
    (hle : payload.length ≤ 124) (hstrip : Text.strip space args = args) :
    Carries space M .schd payload [.text args] := by
  have hdecode : processCtrFrame space M false _ = _ := decode_schd h hle
  refine ⟨hdecode, ?_⟩
  grind [strip_rdropWhile_eq_iff]

end Decoding

/-! ## Accepted commands -/

section Commands

variable {py : Python} {upper : Text → Text} {errorText : ErrorKind → Text} {M : ℕ}

variable {verb : Verb} {payload : List Byte}

lemma carries_packArgs {name args : Text}
    (hverb : verb ∈ hwcTable.map Prod.snd) (hstrip : Text.strip py.isSpace args = args)
    (h : packArgs py name args verb = .ok payload) :
    ∃ params, argumentsOf py args verb = .ok params ∧ Carries py.isSpace M verb payload params := by
  have hchannels : ∀ channel ∈ channelVerbs, ∀ values : List ℤ,
      (if values = [] then .error (.raised (name ++ ofString " requires per-channel values"))
        else packInts (replicate values.length .u32) values) = Except.ok payload →
      Carries py.isSpace M channel payload (values.map .int) := by
    intro channel hchannel values hpack
    split_ifs at hpack
    exact carries_channels hchannel (packWords_of_packInts hpack)
  cases verb with
  | freq =>
    obtain ⟨n, hn, h⟩ := bind_eq_ok.mp h
    refine ⟨[.int n], by rw [argumentsOf, hn]; rfl, ?_⟩
    exact carries_ints [n] (by decide) (decode_freq (packWords_of_packInts h))
  | gain =>
    obtain ⟨values, hvalues, h⟩ := bind_eq_ok.mp h
    exact ⟨_, by rw [argumentsOf, hvalues]; rfl, hchannels _ (by decide) values h⟩
  | egan =>
    obtain ⟨values, hvalues, h⟩ := bind_eq_ok.mp h
    exact ⟨_, by rw [argumentsOf, hvalues]; rfl, hchannels _ (by decide) values h⟩
  | bias =>
    obtain ⟨values, hvalues, h⟩ := bind_eq_ok.mp h
    exact ⟨_, by rw [argumentsOf, hvalues]; rfl, hchannels _ (by decide) values h⟩
  | ornt =>
    obtain ⟨fields, hfields, h⟩ := bind_eq_ok.mp h
    match fields with
    | [] => cases h
    | [_] => cases h
    | az :: el :: rest =>
      exact ⟨_, by rw [argumentsOf, hfields]; rfl, carries_ornt h⟩
  | schd =>
    rw [packArgs] at h
    split at h
    · cases h
    next bs hbs =>
      split_ifs at h with hlong
      cases h
      exact ⟨_, rfl, carries_schd hbs (not_lt.mp hlong) hstrip⟩
  | agc | init | schs | schq | schn | rfq | park | scan | ostp | oqry =>
    cases h
    exact ⟨[], rfl, carries_ints [] (by decide) (processCtrFrame_frame _ _ _ _)⟩
  | exit | sthu | xack | hwsq | schg | tlck | tlka | recl | schb | schc | sche =>
    exact absurd hverb (by decide)

lemma verbOf_mem {table : List (String × Verb)} {name : Text}
    (h : verbOf table name = some verb) : verb ∈ table.map Prod.snd := by
  obtain ⟨entry, hentry, rfl⟩ := Option.map_eq_some_iff.mp h
  exact mem_map_of_mem (mem_of_find?_eq_some hentry)

lemma strip_of_commandParts {cmd name args : Text} (h : commandParts py upper cmd = some (name, args)) :
    Text.strip py.isSpace args = args := by
  unfold commandParts at h
  split at h
  · cases h
  · cases h
    rfl
  · cases h
    exact strip_strip py.isSpace _

/-- A frame of an accepted command has 128 bytes, and a member with `M` channels decodes it
to the command's arguments as frames carry them. -/
@[local grind]
def Decodes (py : Python) (upper : Text → Text) (M : ℕ) (cmd : Text) (verb : Verb)
    (payload : List Byte) : Prop :=
  (frame verb payload).length = 128 ∧
    ∃ params, arguments py upper cmd verb = .ok params ∧ Carries py.isSpace M verb payload params

variable {cmd : Text}

lemma decodes_packHwcCommand
    (h : packHwcCommand py upper cmd = .ok (verb, payload)) : Decodes py upper M cmd verb payload := by
  unfold packHwcCommand at h
  split at h
  · cases h
  next name args hparts =>
    split at h
    · cases h
    next verb' hverb =>
      cases hpack : packArgs py name args verb' with
      | error e =>
        rw [hpack] at h
        cases h
      | ok payload' =>
        rw [hpack] at h
        cases h
        obtain ⟨params, hparams, hcarries⟩ :=
          carries_packArgs (M := M) (verbOf_mem hverb) (strip_of_commandParts hparts) hpack
        grind [HwController.length_frame, arguments]

lemma packHwcCommand_of_encodeHwcCommand {result : Verb × List Byte}
    (h : encodeHwcCommand py upper errorText cmd = .ok result) :
    packHwcCommand py upper cmd = .ok result := by grind [encodeHwcCommand]

variable {values : Option (List ℤ)}

lemma decodes_encodeOther {cmd args : Text}
    (h : encodeOther py upper errorText cmd args = .ok (verb, payload, values)) :
    Decodes py upper M cmd verb payload := by
  obtain ⟨⟨verb', payload'⟩, hencode, h⟩ := bind_eq_ok.mp h
  grind [decodes_packHwcCommand, packHwcCommand_of_encodeHwcCommand, bind_eq_ok]

lemma decodes_encodeMemberCommand
    (h : encodeMemberCommand py upper errorText cmd = .ok (verb, payload, values)) :
    Decodes py upper M cmd verb payload := by
  unfold encodeMemberCommand at h
  split at h
  · exact decodes_encodeOther h
  next name args hparts =>
    split at h
    next verb' hverb =>
      cases h
      have hext := verbOf_mem hverb
      simp only [extTable, map_cons, map_nil, mem_cons, not_mem_nil, or_false]
        at hext
      refine ⟨length_frame _ _, [], ?_, ?_⟩
      · rw [arguments]
        rcases hext with rfl | rfl | rfl | rfl <;> rfl
      · rcases hext with rfl | rfl | rfl | rfl <;>
          exact carries_ints [] (by decide) (processCtrFrame_frame _ _ _ _)
    · split_ifs at h with htlka
      · split at h
        · cases h
        next value hvalue =>
          split_ifs at h
          cases hpack : packInts [.u32] [value] with
          | error e =>
            rw [hpack] at h
            cases h
          | ok payload' =>
            rw [hpack] at h
            cases h
            refine ⟨length_frame _ _, [.int value], ?_, ?_⟩
            · rw [arguments, hparts]
              exact congrArg (Except.map _) hvalue
            · exact carries_ints [value] (by decide) (decode_tlka (packWords_of_packInts hpack))
      · exact decodes_encodeOther h

lemma decodeReplace_clusterId {clusterId : Text} {cid : List Byte}
    (hcid : clusterId.encode = some cid) (hlen : cid.length ≤ 31)
    (hnull : .char (Char.ofNat 0) ∉ clusterId) :
    Text.decodeReplace ((cid.take 31).takeWhile (· ≠ 0)) = clusterId := by
  have hall : cid.takeWhile (· ≠ 0) = cid := by
    rw [takeWhile_eq_self_iff]
    intro b hb
    simp only [ne_eq, decide_not, Bool.not_eq_true', decide_eq_false_iff_not]
    rintro rfl
    exact hnull (ascii_mem_of_encode (n := 0) hcid hb)
  rw [take_of_length_le hlen, hall]
  exact decodeWithFrom_of_encode hcid le_rfl

/-- Every frame of an accepted command has 128 bytes, and a member decodes it to the verb and
its arguments: the first `M` channel values with zeros for missing ones (nothing when `M` is
above 31), bearings rounded to 32 bits, texts without zeros at the end, everything else as it
is.  A handshake gives the term modulo `2 ^ 32` and the cluster id up to 31 bytes. -/
theorem member_decodes (py : Python) (upper : Text → Text) (errorText : ErrorKind → Text) (M : ℕ) :
    (∀ cmd verb payload values,
      encodeMemberCommand py upper errorText cmd = .ok (verb, payload, values) →
        Decodes py upper M cmd verb payload) ∧
    (∀ cmd verb payload, packHwcCommand py upper cmd = .ok (verb, payload) →
      Decodes py upper M cmd verb payload) ∧
    ∀ term clusterId msg, xackFrame term clusterId = some msg →
      msg.length = 128 ∧ ∃ cid, clusterId.encode = some cid ∧
        processCtrFrame py.isSpace M false msg =
          .xack (term % 2 ^ 32) (Text.decodeReplace ((cid.take 31).takeWhile (· ≠ 0))) ∧
        (0 ≤ term → term < 2 ^ 32 → cid.length ≤ 31 → .char (Char.ofNat 0) ∉ clusterId →
          processCtrFrame py.isSpace M false msg = .xack term clusterId) := by
  refine ⟨fun cmd verb payload values => decodes_encodeMemberCommand,
    fun cmd verb payload => decodes_packHwcCommand, fun term clusterId msg h => ?_⟩
  obtain ⟨cid, hcid, -⟩ := Option.bind_eq_some_iff.mp h
  have hdecode : _ ∧ processCtrFrame py.isSpace M false msg = _ := decode_xack hcid h
  grind [decodeReplace_clusterId]

end Commands

namespace Bearing

def interpreter : Python where
  intOfText s := if s = "7" then some 7 else none
  floatOfText s := if s = "1.000000000931322574615478515625" then some (.fin (1 + 1 / 2 ^ 30)) else none
  floatOfInt _ := none
  repr _ := ""
  errorText _ _ := ""
  isSpace c := c = ' '
  lower := id

def command : Text :=
  Text.ofString "ORNT 1.000000000931322574615478515625 1.000000000931322574615478515625"

/-- One gain, and a handshake, reach a member with one channel. -/
theorem member_decodes_gain : Decodes interpreter id 1 (Text.ofString "GAIN 7") .gain [7, 0, 0, 0] ∧
      ∃ msg, xackFrame 3 (Text.ofString "default") = some msg ∧
        processCtrFrame interpreter.isSpace 1 false msg = .xack 3 (Text.ofString "default") := by
  obtain ⟨hcommand, -, hxack⟩ := member_decodes interpreter id (fun _ => []) 1
  refine ⟨hcommand _ _ _ (some [7]) (by decide), _, rfl, ?_⟩
  obtain ⟨-, cid, hcid, -, hexact⟩ := hxack 3 (ofString "default") _ rfl
  cases hcid
  exact hexact (by decide) (by decide) (by decide) (by decide)

/-- A bearing of 31 binary digits is accepted, and the member gets 24 of them. -/
theorem bearing_rounded : encodeMemberCommand interpreter id (fun _ => []) command =
        .ok (.ornt, [0, 0, 0x80, 0x3F, 0, 0, 0x80, 0x3F], none) ∧
      arguments interpreter id command .ornt =
        .ok [.float (.fin (1 + 1 / 2 ^ 30)), .float (.fin (1 + 1 / 2 ^ 30))] ∧
      processCtrFrame interpreter.isSpace 5 false
        (frame .ornt [0, 0, 0x80, 0x3F, 0, 0, 0x80, 0x3F]) =
          .submit .ornt [.float (.fin 1), .float (.fin 1)] :=
  ⟨by decide +kernel, by decide +kernel, by decide +kernel⟩

end Bearing

end HeimdallDaq.Federation
