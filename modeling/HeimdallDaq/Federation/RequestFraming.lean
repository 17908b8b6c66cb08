/-
  Federation/RequestFraming.lean --- how a request of the coordinator's port is framed.

  `encode_request` writes one line, after an optional `AUTH` part and before an optional
  `@n` mark, and the body behind the line.
-/
import HeimdallDaq.Foundation.Text

namespace HeimdallDaq.Federation.Framing

open Foundation List Text

/-! ## Characters -/

structure Unicode where
  /-- `c.isspace()` -/
  isSpace : Char → Bool
  /-- `c.upper()`, one character or several -/
  upper : Char → List Char
  isSpace_ascii : ∀ n : Fin 128, isSpace (Char.ofNat n) =
    decide (n.val = 32 ∨ (9 ≤ n.val ∧ n.val ≤ 13) ∨ (28 ≤ n.val ∧ n.val ≤ 31))
  upper_ascii : ∀ n : Fin 128, upper (Char.ofNat n) = [(Char.ofNat n).toUpper]
  upper_ne_nil : ∀ c, upper c ≠ []
  upper_space : ∀ c, isSpace c → upper c = [c]
  upper_replacement : upper '�' = ['�']

abbrev Unicode.space (u : Unicode) : Glyph → Bool := Glyph.satisfies u.isSpace

@[local grind]
def isByteSpace (b : Byte) : Bool := b.toNat = 32 ∨ (9 ≤ b.toNat ∧ b.toNat ≤ 13)

@[local grind]
def upperByte (b : Byte) : Byte := if 97 ≤ b.toNat ∧ b.toNat ≤ 122 then b - 32 else b

@[local grind]
def upperBytes (bs : List Byte) : List Byte := bs.map upperByte

@[local grind]
def asciiBytes (s : String) : List Byte := s.toList.map fun c => BitVec.ofNat 8 c.toNat

/-! ## Constants -/

@[local grind]
def legacyVerbs : List Text :=
  ["PING", "STATUS", "FREQ", "GAIN", "INSTANCE", "REBALANCE"].map Text.ofString

def jsonVerbs : List Text := ["REGISTER", "SCHEDULE"].map Text.ofString

def firstReadBytes : ℕ := 4096

def maxLineBytes : ℕ := 65536

def maxBodyBytes : ℕ := 1048576

def maxInlineBytes : ℕ := 3072

def authTokenMaxLen : ℕ := 128

def isValidAuthToken (token : Text) : Bool :=
  0 < token.length ∧ token.length ≤ authTokenMaxLen ∧
    token.all (Glyph.satisfies fun c => 33 ≤ c.toNat ∧ c.toNat ≤ 126)

/-! ## Writing a request -/

/-- An exception of `encode_request`. -/
inductive EncodeError
  /-- `ValueError(message)` -/
  | raised (message : String)
  /-- `UnicodeEncodeError` -/
  | unicode
  deriving DecidableEq

variable (n : ℕ)

def decimal : Text := (Nat.toDigits 10 n).map .char

def markText : Text := .char '@' :: decimal n

def authPart (token : Text) : Text := Text.ofString "AUTH" ++ .char ' ' :: (token ++ [.char ' '])

def encodeLine (text : Text) : Except EncodeError (List Byte) :=
  match text.encode with
  | some bs => .ok (bs ++ [10])
  | none => .error .unicode

variable (token : Option Text)

def addAuth (line : Text) : Except EncodeError Text :=
  match token with
  | none | some [] => .ok line
  | some token =>
    if isValidAuthToken token then .ok (authPart token ++ line)
    else .error (.raised ("bad auth_token (printable, no spaces, <= " ++
      toString authTokenMaxLen ++ " chars)"))

def addBody (body : Option (List Byte)) (line : Text) : Except EncodeError (List Byte) :=
  match body with
  | none => encodeLine line
  | some payload =>
    if 1 ≤ payload.length ∧ payload.length ≤ maxBodyBytes then
      (encodeLine (line ++ .char ' ' :: markText payload.length)).map (· ++ payload)
    else
      .error (.raised ("body must be 1.." ++ toString maxBodyBytes ++ " bytes (got " ++
        toString payload.length ++ ")"))

def encodeRequest (space : Char → Bool) (line : Text) (body : Option (List Byte))
    (token : Option Text) : Except EncodeError (List Byte) := do
  let line := Text.strip space line
  if .char '\n' ∈ line ∨ .char '\r' ∈ line then
    .error (.raised "request line must not contain a newline")
  else
    let line ← addAuth token line
    addBody body line

/-! ## Reading a request -/

inductive Arrival
  | data (bs : List Byte)
  | silence
  deriving DecidableEq

def recv : List Arrival → Option (List Byte) × List Arrival
  | [] => (some [], [])
  | .silence :: later => (none, later)
  | .data bs :: later =>
    if bs.length ≤ n then (some bs, later) else (some (bs.take n), .data (bs.drop n) :: later)

/-- The reply of a `RequestError` and its framing. -/
structure RequestError where
  error : String
  limit : Option ℕ
  message : Option String
  newline : Bool
  deriving DecidableEq

/-- A `Request`. -/
structure Request where
  verb : Text
  args : Text
  body : Option (List Byte)
  legacy : Bool
  line : Text
  deriving DecidableEq

def Request.inlineJson (r : Request) : Option Text :=
  match r.args.dropWhile fun g => g ≠ .char '\x7b' ∧ g ≠ .char '[' with
  | [] => none
  | json => some json

structure Assembled where
  line : List Byte
  rest : List Byte
  legacy : Bool
  pending : List Arrival
  deriving DecidableEq

def authRequired (newline : Bool) : RequestError := ⟨"auth_required", none, none, newline⟩

def useBody (newline : Bool) : RequestError :=
  ⟨"body_too_large_use_@n", some maxInlineBytes, none, newline⟩

def lineTooLong : RequestError := ⟨"line_too_long", some maxLineBytes, none, true⟩

def badRequest (message : String) (newline : Bool) : RequestError :=
  ⟨"bad_request", none, some message, newline⟩

def authRefused (presented : Option (List Byte)) : Bool :=
  match token with
  | none | some [] => false
  | some token => presented = none ∨ presented ≠ token.encode

@[local grind]
def chunkToken (chunk : List Byte) : Option (List Byte) :=
  match Words.all isByteSpace chunk with
  | first :: second :: _ => if upperBytes first = asciiBytes "AUTH" then some second else none
  | _ => none

@[local grind]
def afterAuth (words : List (List Byte)) : List (List Byte) :=
  match words with
  | [] => []
  | first :: _ => if upperBytes first = asciiBytes "AUTH" then words.drop 2 else words

@[local grind]
def newlineAt (bs : List Byte) : Option ℕ := bs.findIdx? (· = 10)

@[local grind]
def part (i : ℕ) (parts : List Text) : Text := parts[i]?.getD []

/-- The loop that reads until a line ends.  Each turn adds a byte at least, so that
`maxLineBytes` turns are enough. -/
@[local grind]
def fill : ℕ → List Byte → List Arrival → List Byte × Option ℕ × List Arrival
  | 0, buf, arrivals => (buf, none, arrivals)
  | fuel + 1, buf, arrivals =>
    if maxLineBytes ≤ buf.length then (buf, none, arrivals)
    else
      match recv 4096 arrivals with
      | (none, later) => (buf, none, later)
      | (some [], later) => (buf, none, later)
      | (some (b :: bs), later) =>
        match newlineAt (b :: bs) with
        | some i => (buf ++ b :: bs, some (buf.length + i), later)
        | none => fill fuel (buf ++ b :: bs) later

@[local grind]
def cutLine (legacy : Bool) (buf : List Byte) (nl : Option ℕ) (pending : List Arrival) :
    Except RequestError Assembled :=
  match nl with
  | none =>
    if !legacy ∧ maxLineBytes ≤ buf.length then .error lineTooLong
    else .ok ⟨buf, [], legacy, pending⟩
  | some i =>
    if maxLineBytes < i then .error lineTooLong
    else .ok ⟨buf.take i, buf.drop (i + 1), legacy, pending⟩

/-- The loop that reads a body of `n` bytes.  Each turn adds a byte at least, so that `n`
turns are enough. -/
@[local grind]
def collect (newline : Bool) (n : ℕ) : ℕ → List Byte → List Arrival →
    Except RequestError (List Byte)
  | 0, body, _ => .ok body
  | fuel + 1, body, arrivals =>
    if n ≤ body.length then .ok body
    else
      match recv (min 65536 (n - body.length)) arrivals with
      | (none, _) => .error ⟨"timeout", none, none, newline⟩
      | (some [], _) =>
        .error (badRequest ("body truncated: got " ++ toString body.length ++ " of " ++
          toString n ++ " bytes") newline)
      | (some (b :: bs), later) => collect newline n fuel (body ++ b :: bs) later

def bodyMark (token : Text) : Option (List Char) :=
  match token with
  | .char '@' :: ds =>
    match ds.mapM Glyph.char? with
    | some cs => if cs ≠ [] ∧ cs.all Char.isDigit then some cs else none
    | none => none
  | _ => none

def significantDigits (mark : List Char) : List Char :=
  match mark.dropWhile (· = '0') with
  | [] => ['0']
  | digits => digits

section Reading

variable (u : Unicode)

def upperGlyph : Glyph → Text
  | .char c => (u.upper c).map .char
  | .surrogate n => [.surrogate n]

def upperText (t : Text) : Text := t.flatMap (upperGlyph u)

def verbOfChunk (chunk : List Byte) : Text :=
  match afterAuth (Words.all isByteSpace chunk) with
  | [] => []
  | first :: _ => upperText u (Text.decodeReplace first)

variable (token : Option Text) (arrivals : List Arrival)

def readLine : Except RequestError (Option Assembled) :=
  match recv firstReadBytes arrivals with
  | (none, _) => .ok none
  | (some [], _) => .ok none
  | (some (b :: bs), later) =>
    match newlineAt (b :: bs) with
    | some i => (cutLine false (b :: bs) (some i) later).map some
    | none =>
      let verb := verbOfChunk u (b :: bs)
      if verb ∈ legacyVerbs then (cutLine true (b :: bs) none later).map some
      else if verb ∈ jsonVerbs ∧ firstReadBytes ≤ (b :: bs).length then
        if authRefused token (chunkToken (b :: bs)) then .error (authRequired true)
        else .error (useBody true)
      else
        let (buf, nl, later) := fill maxLineBytes (b :: bs) later
        (cutLine false buf nl later).map some

def splitAuth (line : Text) : Option Text × Text :=
  let parts := Text.splitFirst u.isSpace line
  if upperText u (part 0 parts) = Text.ofString "AUTH" then
    let tparts := Text.splitFirst u.isSpace (part 1 parts)
    (some (part 0 tparts), Text.strip u.isSpace (part 1 tparts))
  else (none, line)

def readBody (newline : Bool) (args : Text) (rest : List Byte) (pending : List Arrival) :
    Except RequestError (Text × Option (List Byte)) :=
  let toks := Text.rsplitLast u.isSpace args
  match toks.getLast?.bind bodyMark with
  | none => .ok (args, none)
  | some mark =>
    let digits := significantDigits mark
    let n := Nat.ofDigitChars 10 digits 0
    if (Nat.toDigits 10 maxBodyBytes).length < digits.length ∨ maxBodyBytes < n then
      .error ⟨"body_too_large", some maxBodyBytes, none, newline⟩
    else if n < 1 then
      .error (badRequest ("bad body length '@" ++ String.ofList mark ++ "' (expected @1..@" ++
        toString maxBodyBytes ++ ")") newline)
    else
      (collect newline n n rest pending).map fun body =>
        (if 1 < toks.length then Text.strip u.isSpace (part 0 toks) else [], some (body.take n))

def checkInline (newline : Bool) (req : Request) : Except RequestError (Option Request) :=
  match req.inlineJson.bind Text.encode with
  | some json =>
    if req.body = none ∧ req.verb ∈ jsonVerbs ∧ maxInlineBytes < json.length then
      .error (useBody newline)
    else .ok (some req)
  | none => .ok (some req)

def parseRequest (a : Assembled) : Except RequestError (Option Request) :=
  let text := Text.strip u.isSpace (Text.decodeReplace a.line)
  let (presented, line) := splitAuth u text
  let parts := Text.splitFirst u.isSpace line
  let verb := upperText u (part 0 parts)
  let newline : Bool := verb ∉ legacyVerbs
  if authRefused token (presented.bind Text.encode) then .error (authRequired newline)
  else if verb = [] then .ok none
  else do
    let (args, body) ← readBody u newline (Text.strip u.isSpace (part 1 parts)) a.rest a.pending
    checkInline newline ⟨verb, args, body, a.legacy, line⟩

def readRequest : Except RequestError (Option Request) := do
  match ← readLine u token arrivals with
  | none => .ok none
  | some a => parseRequest u token a

end Reading

/-! ## Chunks

A stream is a list of chunks, none of them empty.  Only its bytes matter to the loops. -/

/-- The chunks of a stream that delivers the bytes. -/
@[local grind]
structure Delivers (chunks : List (List Byte)) (bs : List Byte) : Prop where
  flatten : chunks.flatten = bs
  nonempty : ∀ c ∈ chunks, c ≠ []

variable {chunks : List (List Byte)}

lemma recv_data {n : ℕ} {bs : List Byte} (hn : 0 < n) (h : Delivers chunks bs) (hne : bs ≠ []) :
    ∃ b got later left, recv n (chunks.map .data) = (some (b :: got), later.map .data) ∧
      (∃ c ∈ chunks.head?, b :: got <+: c) ∧ bs = b :: got ++ left ∧ Delivers later left := by
  obtain ⟨rfl, hchunks⟩ := h
  cases chunks with
  | nil => exact absurd rfl hne
  | cons c chunks =>
    obtain ⟨hc, hrest⟩ := forall_mem_cons.mp hchunks
    obtain ⟨b, got, rfl⟩ := exists_cons_of_ne_nil hc
    rw [map_cons, recv]
    split
    next => exact ⟨b, got, chunks, _, rfl, ⟨_, rfl, prefix_rfl⟩, rfl, rfl, hrest⟩
    next hlong =>
      obtain ⟨k, rfl⟩ : ∃ k, n = k + 1 := ⟨n - 1, by omega⟩
      refine ⟨b, got.take k, got.drop k :: chunks, _, rfl, ⟨_, rfl, ?_⟩, ?_, rfl, ?_⟩
      · exact cons_prefix_cons.mpr ⟨rfl, take_prefix _ _⟩
      · simp [← append_assoc]
      · refine forall_mem_cons.mpr ⟨?_, hrest⟩
        intro hnil
        have := drop_eq_nil_iff.mp hnil
        simp only [length_cons] at hlong
        omega

lemma cut_cases {x y line payload : List Byte} (hline : (10 : Byte) ∉ line)
    (h : x ++ y = line ++ 10 :: payload) :
    (∃ more, line = x ++ more ∧ y = more ++ 10 :: payload ∧ (10 : Byte) ∉ x) ∨
      ∃ rest, x = line ++ 10 :: rest ∧ payload = rest ++ y := by
  rcases append_eq_append_iff.mp h with ⟨more, rfl, hy⟩ | ⟨more, rfl, hmore⟩
  · grind
  · cases more with
    | nil => grind
    | cons b rest => grind

lemma newlineAt_none {bs : List Byte} (h : (10 : Byte) ∉ bs) : newlineAt bs = none := by grind

lemma newlineAt_line {line rest : List Byte} (h : (10 : Byte) ∉ line) :
    newlineAt (line ++ 10 :: rest) = some line.length := by grind

lemma fill_line {fuel : ℕ} {buf more payload : List Byte}
    (hmore : (10 : Byte) ∉ more) (hshort : (buf ++ more).length < maxLineBytes)
    (hfuel : more.length < fuel) (h : Delivers chunks (more ++ 10 :: payload)) :
    ∃ rest later left, fill fuel buf (chunks.map .data) =
        (buf ++ more ++ 10 :: rest, some (buf ++ more).length, later.map .data) ∧
      payload = rest ++ left ∧ Delivers later left := by
  induction fuel generalizing buf more chunks with
  | zero => cases hfuel
  | succ fuel ih =>
    obtain ⟨b, got, later, left, hrecv, -, hgot, hlater⟩ :=
      recv_data (n := 4096) (by decide) h (by simp)
    have hlen : ¬ maxLineBytes ≤ buf.length := by grind
    rw [fill, if_neg hlen, hrecv]
    simp only
    rcases cut_cases hmore hgot.symm with ⟨more', rfl, rfl, hfree⟩ | ⟨rest, hbs, rfl⟩
    · grind
    all_goals grind

lemma collect_body {newline : Bool} {fuel : ℕ} {body payload : List Byte}
    (hfuel : payload.length ≤ fuel) (h : Delivers chunks payload) :
    collect newline (body ++ payload).length fuel body (chunks.map .data) = .ok (body ++ payload) := by
  induction fuel generalizing body payload chunks with
  | zero => grind
  | succ fuel ih =>
    rw [collect]
    rcases eq_or_ne payload [] with rfl | hne
    · rw [if_pos (by simp), append_nil]
    · have hpos : 0 < payload.length := length_pos_of_ne_nil hne
      have hmore : ¬ (body ++ payload).length ≤ body.length := by
        rw [length_append]
        omega
      have hroom : 0 < min 65536 ((body ++ payload).length - body.length) := by omega
      grind [recv_data]

/-- The line is read, unless a first chunk without its end begins with a legacy verb, or
with a JSON verb and is full. -/
lemma readLine_line {u : Unicode}
    {line payload : List Byte} (hline : (10 : Byte) ∉ line) (hshort : line.length < maxLineBytes)
    (hlegacy : ∀ k, k <+: line → verbOfChunk u k ∉ legacyVerbs)
    (hjson : ∀ k, k <+: line → verbOfChunk u k ∈ jsonVerbs →
      k.length < firstReadBytes ∨ ∀ c ∈ chunks.head?, c.length < firstReadBytes)
    (h : Delivers chunks (line ++ 10 :: payload)) : ∃ rest later left,
      readLine u token (chunks.map .data) = .ok (some ⟨line, rest, false, later.map .data⟩) ∧
      payload = rest ++ left ∧ Delivers later left := by
  have hcut : ∀ (rest : List Byte) (later : List (List Byte)),
      (cutLine false (line ++ 10 :: rest) (some line.length) (later.map .data)).map some =
        .ok (some ⟨line, rest, false, later.map .data⟩) := by
    intro rest later
    have hdrop : (line ++ 10 :: rest).drop (line.length + 1) = rest := by
      rw [← drop_drop, drop_left]
      rfl
    simp only [cutLine, if_neg hshort.not_gt, take_left, hdrop]
    rfl
  obtain ⟨b, got, later, left, hrecv, ⟨c, hc, hgot⟩, hbytes, hlater⟩ :=
    recv_data (n := firstReadBytes) (by decide) h (by simp)
  rw [readLine, hrecv]
  simp only
  rcases cut_cases hline hbytes.symm with ⟨more, rfl, rfl, hfree⟩ | ⟨rest, hbs, rfl⟩
  · have hbegin : b :: got <+: b :: got ++ more := prefix_append _ _
    have hfull : ¬ (verbOfChunk u (b :: got) ∈ jsonVerbs ∧ firstReadBytes ≤ (b :: got).length) := by
      grind
    rw [mem_append, not_or] at hline
    have hfuel : more.length < maxLineBytes := by
      rw [length_append] at hshort
      omega
    obtain ⟨rest, later', left', hfill, hpayload, hdel⟩ := fill_line hline.2 hshort hfuel hlater
    rw [newlineAt_none hfree]
    simp only [if_neg (hlegacy _ hbegin), if_neg hfull, hfill]
    exact ⟨rest, later', left', hcut rest later', hpayload, hdel⟩
  · rw [hbs, newlineAt_line hline]
    exact ⟨rest, later, left, hcut rest later, rfl, hlater⟩

/-! ## The verb of a first chunk -/

section Verbs

variable {u : Unicode}

@[local grind]
def Capital (t : Text) : Prop := ∀ g ∈ t, ∃ n : Fin 26, g = .char (Char.ofNat (65 + n))

instance (t : Text) : Decidable (Capital t) :=
  inferInstanceAs (Decidable (∀ g ∈ t, ∃ n : Fin 26, g = .char (Char.ofNat (65 + n))))

lemma capital_of_mem : ∀ v ∈ legacyVerbs ++ jsonVerbs, Capital v := by decide

lemma verb_ne_nil : [] ∉ legacyVerbs ++ jsonVerbs := by decide

variable {t : Text}

lemma Capital.not_space (h : Capital t) {g : Glyph} (hg : g ∈ t) : u.space g = false := by
  obtain ⟨n, rfl⟩ := h g hg
  have hspace := u.isSpace_ascii ⟨65 + n, by omega⟩
  rw [Unicode.space, Glyph.satisfies, hspace, decide_eq_false_iff_not]
  simp only
  omega

lemma Capital.upper_eq (h : Capital t) : upperText u t = t := by
  induction t with
  | nil => rfl
  | cons g t ih =>
    obtain ⟨⟨n, rfl⟩, ht⟩ := forall_mem_cons.mp h
    have hcase : ∀ n : Fin 26, (Char.ofNat (65 + n)).toUpper = Char.ofNat (65 + n) := by
      decide
    have hupper : u.upper (Char.ofNat (65 + n)) = _ := u.upper_ascii ⟨65 + n, by omega⟩
    grind [upperText, upperGlyph]

lemma mem_upper_of_space {g : Glyph} (hg : g ∈ t) (hs : u.space g) : g ∈ upperText u t := by
  cases g with
  | surrogate n => cases hs
  | char c =>
    refine mem_flatMap.mpr ⟨_, hg, ?_⟩
    rw [upperGlyph, u.upper_space c hs]
    exact mem_singleton_self _

lemma mem_upper_of_replacement (h : .char '�' ∈ t) : .char '�' ∈ upperText u t := by
  refine mem_flatMap.mpr ⟨_, h, ?_⟩
  rw [upperGlyph, u.upper_replacement]
  exact mem_singleton_self _

lemma word_of_verb {bs k : List Byte} (ht : Words.Trimmed u.space t)
    (hne : t ≠ []) (henc : t.encode = some bs) (hk : k <+: bs)
    (hverb : Capital (upperText u (Text.decodeReplace k))) : ∃ w, w <+: Words.first u.space t ∧
      upperText u w = upperText u (Text.decodeReplace k) := by
  rcases decodeReplace_of_prefix henc hk with hkept | hmem
  · rcases ht.prefix_cases hne hkept with hword | ⟨g, hg, hs⟩
    · exact ⟨_, hword, rfl⟩
    · have hnot : u.space g = false := hverb.not_space (mem_upper_of_space hg hs)
      rw [hs] at hnot
      cases hnot
  · obtain ⟨n, hn⟩ := hverb _ (mem_upper_of_replacement hmem)
    have hplain : ∀ n : Fin 26, Glyph.char '�' ≠ .char (Char.ofNat (65 + n)) := by
      decide
    exact absurd hn (hplain n)

lemma upperText_ofAscii {bs : List Byte} (h : ∀ b ∈ bs, b.toNat < 128) :
    upperText u (Text.ofAscii bs) = Text.ofAscii (upperBytes bs) := by
  have hcase : ∀ n : Fin 128,
      (Char.ofNat n).toUpper = Char.ofNat (upperByte (BitVec.ofNat 8 n)).toNat := by
    decide
  induction bs with
  | nil => rfl
  | cons b bs ih =>
    obtain ⟨hb, hbs⟩ := forall_mem_cons.mp h
    have htail : upperText u (ofAscii bs) = ofAscii (upperBytes bs) := ih hbs
    have hupper : u.upper (Char.ofNat b.toNat) = [Char.ofNat (upperByte b).toNat] := by
      have hchar := u.upper_ascii ⟨b.toNat, hb⟩
      have hbyte := hcase ⟨b.toNat, hb⟩
      grind
    rw [upperText, ofAscii] at htail ⊢
    rw [map_cons, flatMap_cons, htail, upperGlyph, hupper]
    rfl

lemma ascii_of_isByteSpace {b : Byte} (h : isByteSpace b) :
    ∃ n : Fin 128, b = BitVec.ofNat 8 n ∧ u.isSpace (Char.ofNat n) := by
  have hcode : b.toNat = 32 ∨ (9 ≤ b.toNat ∧ b.toNat ≤ 13) := by simpa [isByteSpace] using h
  refine ⟨⟨b.toNat, by omega⟩, by simp, ?_⟩
  rw [u.isSpace_ascii, decide_eq_true_eq]
  simp only
  omega

variable  {bs : List Byte} (ht : Words.Trimmed u.space t)
  (henc : t.encode = some bs)

include ht henc

variable {k : List Byte}

lemma head_not_space (hk : k <+: bs) : ∀ b ∈ k.head?, isByteSpace b = false := by
  intro b hb
  by_contra hspace
  obtain ⟨n, rfl, hn⟩ := ascii_of_isByteSpace (u := u) (Bool.eq_true_of_not_eq_false hspace)
  obtain ⟨rest, rfl⟩ : ∃ rest, k = BitVec.ofNat 8 n :: rest := by
    cases k with
    | nil => cases hb
    | cons a rest => exact ⟨rest, by rw [Option.some.inj hb]⟩
  obtain ⟨more, rfl⟩ := hk
  obtain ⟨tail, rfl⟩ := head_of_encode henc
  have hnot : u.space (.char (Char.ofNat n)) = false := ht.head _ rfl
  rw [Unicode.space, Glyph.satisfies, hn] at hnot
  cases hnot

omit ht in
lemma first_of_auth {w r : List Byte} {s : Byte} (hw : upperBytes w = asciiBytes "AUTH")
    (hs : isByteSpace s) (hk : w ++ s :: r <+: bs) :
    upperText u (Words.first u.space t) = Text.ofString "AUTH" := by
  have hascii : ∀ b ∈ w, b.toNat < 128 := by
    grind [mem_map_of_mem]
  have hupper : upperText u (ofAscii w) = ofString "AUTH" := by
    rw [upperText_ofAscii hascii, hw]
    decide
  have hcapital : Capital (ofString "AUTH") := by decide
  obtain ⟨more, rfl⟩ := hk
  rw [append_assoc] at henc
  obtain ⟨tail, rfl, htail⟩ := prefix_of_encode (encode_ofAscii hascii) henc
  obtain ⟨n, rfl, hn⟩ := ascii_of_isByteSpace (u := u) hs
  obtain ⟨rest, rfl⟩ := head_of_encode htail
  have hword : Words.IsWord u.space (ofAscii w) := by
    refine ⟨?_, fun g hg => ?_⟩
    · intro hnil
      rw [hnil] at hupper
      cases hupper
    · by_contra hspace
      have hmem := mem_upper_of_space hg (Bool.eq_true_of_not_eq_false hspace)
      grind [Capital.not_space]
  have hspace : u.space (.char (Char.ofNat n)) := hn
  rw [Words.first_append hword hspace, hupper]

lemma chunk_words (hk : k <+: bs) : Words.all isByteSpace k = [] ∨ ∃ w, w <+: bs ∧
      (Words.all isByteSpace k = [w] ∨ ∃ s r, isByteSpace s ∧ w ++ s :: r <+: bs ∧
        Words.all isByteSpace k = w :: Words.all isByteSpace r) := by
  rcases Words.word_cases (head_not_space ht henc hk) with rfl | hword | ⟨w, s, r, rfl, hw, hs⟩
  · exact .inl rfl
  all_goals grind [Words.IsWord.all_eq, prefix_append, Words.all_append]

lemma word_of_head (hne : t ≠ []) (hk : k <+: bs) {w : List Byte}
    {more : List (List Byte)} (hall : Words.all isByteSpace k = w :: more)
    (hverb : Capital (upperText u (Text.decodeReplace w))) :
    ∃ v, v <+: Words.first u.space t ∧
      upperText u v = upperText u (Text.decodeReplace w) := by grind [chunk_words, word_of_verb]

lemma verb_of_line (hne : t ≠ [])
    (hauth : upperText u (Words.first u.space t) ≠ Text.ofString "AUTH")
    (hk : k <+: bs) (hverb : verbOfChunk u k ∈ legacyVerbs ++ jsonVerbs) :
    ∃ v, v <+: Words.first u.space t ∧ upperText u v = verbOfChunk u k := by
  rcases chunk_words ht henc hk with hnil | ⟨w, hw, hsingle | ⟨s, r, hs, hwhole, hcons⟩⟩
  · rw [verbOfChunk, hnil] at hverb
    exact absurd hverb verb_ne_nil
  all_goals grind [verbOfChunk, verb_ne_nil, word_of_verb, capital_of_mem, first_of_auth]

section

omit ht henc

lemma isWord_auth : Words.IsWord isByteSpace (asciiBytes "AUTH") := ⟨by decide, by decide⟩

lemma capital_auth : Capital (Text.ofString "AUTH") := by decide

lemma isWord_authVerb : Words.IsWord u.space (Text.ofString "AUTH") :=
  ⟨by decide, fun _ hg => capital_auth.not_space hg⟩

lemma afterAuth_auth (words : List (List Byte)) :
    afterAuth (asciiBytes "AUTH" :: words) = words.drop 1 := by
  rw [afterAuth, if_pos (by decide)]
  rfl

lemma verb_of_auth (hk : k <+: asciiBytes "AUTH") : verbOfChunk u k ∉ legacyVerbs ++ jsonVerbs := by
  intro hverb
  rcases isWord_auth.of_prefix hk with rfl | hword
  · exact verb_ne_nil hverb
  rw [verbOfChunk, hword.all_eq, afterAuth] at hverb
  by_cases hwhole : upperBytes k = asciiBytes "AUTH"
  · grind [verb_ne_nil]
  · rw [if_neg hwhole] at hverb
    have hauth : Words.IsWord u.space (ofString "AUTH") := isWord_authVerb
    obtain ⟨v, hv, hupper⟩ := word_of_verb hauth.trimmed hauth.ne_nil
      (show (ofString "AUTH").encode = some (asciiBytes "AUTH") by decide) hk
      (capital_of_mem _ hverb)
    have hnone : ∀ v ∈ legacyVerbs ++ jsonVerbs, ¬ v <+: ofString "AUTH" := by decide
    rw [hauth.first_eq] at hv
    have hcapital : Capital v := fun g hg => capital_auth g (hv.mem hg)
    grind [Capital.upper_eq]

end

lemma verb_of_auth_line (hne : t ≠ []) {token : List Byte} (htoken : Words.IsWord isByteSpace token)
    (hk : k <+: asciiBytes "AUTH" ++ 32 :: (token ++ 32 :: bs))
    (hverb : verbOfChunk u k ∈ legacyVerbs ++ jsonVerbs) :
    ∃ v, v <+: Words.first u.space t ∧ upperText u v = verbOfChunk u k := by
  have hspace : isByteSpace 32 := by decide
  rcases Words.prefix_append_cases hk with hinside | ⟨_ | ⟨b, m⟩, rfl, hm⟩
  · exact absurd hverb (verb_of_auth hinside)
  · grind [verb_of_auth]
  obtain ⟨rfl, htail⟩ := cons_prefix_cons.mp hm
  rw [verbOfChunk, Words.all_append isWord_auth hspace, afterAuth_auth] at hverb ⊢
  rcases Words.prefix_append_cases htail with hinside | ⟨_ | ⟨b, q⟩, rfl, hq⟩
  · -- there is only a part of the token
    rcases htoken.of_prefix hinside with rfl | hword
    · exact absurd hverb verb_ne_nil
    · rw [hword.all_eq] at hverb
      exact absurd hverb verb_ne_nil
  · rw [append_nil, htoken.all_eq] at hverb
    exact absurd hverb verb_ne_nil
  grind [Words.all_append, verb_ne_nil, word_of_head, capital_of_mem]

end Verbs

end HeimdallDaq.Federation.Framing
