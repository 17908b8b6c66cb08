/-
  Federation/RequestRoundTrip.lean --- a request is read as it was written.

  The line that is read is taken apart as it was put together: the token in front, the
  first word and the rest, and the mark of the body at the end.
-/
import HeimdallDaq.Federation.RequestFraming

namespace HeimdallDaq.Federation.Framing

open Foundation List Text Words

/-! ## Taking a line apart -/

variable (space : Char → Bool)

lemma part_zero_splitFirst (t : Text) :
    part 0 (Text.splitFirst space t) = Words.first (Glyph.satisfies space) t := by
  rw [splitFirst, first]
  cases t.dropWhile (Glyph.satisfies space) with
  | nil => rfl
  | cons g t =>
    simp only
    split <;> rfl

lemma part_one_splitFirst (t : Text) :
    part 1 (Text.splitFirst space t) = Words.rest (Glyph.satisfies space) t := by
  rw [splitFirst, rest]
  cases t.dropWhile (Glyph.satisfies space) with
  | nil => rfl
  | cons g t =>
    simp only
    split
    next hrest =>
      rw [hrest]
      rfl
    next => rfl

lemma strip_eq {space : Char → Bool} {t : Text} (h : Words.Trimmed (Glyph.satisfies space) t) :
    Text.strip space t = t := by rw [strip, h.dropWhile_eq, h.rdropWhile_eq]

lemma bind_getLast?_rsplitLast (t : Text) : (Text.rsplitLast space t).getLast?.bind bodyMark =
      bodyMark (Words.last (Glyph.satisfies space) t) := by
  rw [rsplitLast]
  split
  next hnil =>
    rw [hnil]
    rfl
  next =>
    split <;> rfl

section Lines

variable {u : Unicode}

lemma isSpace_space : u.space (.char ' ') := by
  have h : u.isSpace ' ' = _ := u.isSpace_ascii ⟨32, by decide⟩
  rw [Unicode.space, Glyph.satisfies, h]
  rfl

lemma not_space_of_printable {c : Char} (h : 33 ≤ c.toNat ∧ c.toNat ≤ 126) :
    u.space (.char c) = false := by
  have hspace := u.isSpace_ascii ⟨c.toNat, by omega⟩
  rw [Char.ofNat_toNat] at hspace
  rw [Unicode.space, Glyph.satisfies, hspace, decide_eq_false_iff_not]
  simp only
  omega

lemma printable_of_valid {token : Text} (h : isValidAuthToken token) :
    token ≠ [] ∧ token.length ≤ authTokenMaxLen ∧
      ∀ g ∈ token, ∃ c, g = .char c ∧ 33 ≤ c.toNat ∧ c.toNat ≤ 126 := by
  simp only [isValidAuthToken, decide_eq_true_eq, all_eq_true] at h
  obtain ⟨hpos, hlen, hall⟩ := h
  refine ⟨ne_nil_of_length_pos hpos, hlen, fun g hg => ?_⟩
  have hg := hall g hg
  cases g with
  | char c => exact ⟨c, rfl, by simpa [Glyph.satisfies] using hg⟩
  | surrogate n => cases hg

lemma isWord_token {token : Text} (h : isValidAuthToken token) : Words.IsWord u.space token := by
  obtain ⟨hne, -, hall⟩ := printable_of_valid h
  refine ⟨hne, fun g hg => ?_⟩
  grind [not_space_of_printable]

lemma digit_of_mem_decimal {n : ℕ} {g : Glyph} (h : g ∈ decimal n) :
    ∃ c, g = .char c ∧ c.isDigit := by
  obtain ⟨c, hc, rfl⟩ := mem_map.mp h
  exact ⟨c, rfl, Nat.isDigit_of_mem_toDigits (by decide) le_rfl hc⟩

lemma isWord_markText (n : ℕ) : Words.IsWord u.space (markText n) := by
  refine ⟨cons_ne_nil _ _, forall_mem_cons.mpr ⟨not_space_of_printable (by decide), ?_⟩⟩
  intro g hg
  obtain ⟨c, rfl, hc⟩ := digit_of_mem_decimal hg
  have hcode : 48 ≤ c.toNat ∧ c.toNat ≤ 57 := Char.isDigit_iff_toNat.mp hc
  exact not_space_of_printable (by omega)

lemma mapM_char (cs : List Char) : (cs.map Glyph.char).mapM Glyph.char? = some cs := by
  induction cs with
  | nil => rfl
  | cons c cs ih => simp [Glyph.char?, ih]

lemma bodyMark_markText (n : ℕ) : bodyMark (markText n) = some (Nat.toDigits 10 n) := by
  have hdigits : (Nat.toDigits 10 n).all Char.isDigit :=
    all_eq_true.mpr fun c hc => Nat.isDigit_of_mem_toDigits (by decide) le_rfl hc
  grind [decimal, mapM_char, bodyMark, markText, Nat.toDigits_ne_nil]

lemma ofDigitChars_significantDigits (mark : List Char) :
    Nat.ofDigitChars 10 (significantDigits mark) 0 = Nat.ofDigitChars 10 mark 0 := by
  have hdrop : Nat.ofDigitChars 10 (mark.dropWhile (· = '0')) 0 = Nat.ofDigitChars 10 mark 0 := by
    induction mark with
    | nil => rfl
    | cons c mark ih =>
      rw [dropWhile_cons]
      split
      next hzero =>
        rw [ih, Nat.ofDigitChars_cons, of_decide_eq_true hzero]
        rfl
      next => rfl
  rw [← hdrop, significantDigits]
  split
  next hnil =>
    rw [hnil]
    rfl
  next => rfl

lemma length_significantDigits_le {mark : List Char} (h : mark ≠ []) :
    (significantDigits mark).length ≤ mark.length := by
  grind [significantDigits, dropWhile_suffix]

lemma length_toDigits_le {n : ℕ} (h : n ≤ maxBodyBytes) : (Nat.toDigits 10 n).length ≤ 7 :=
  (Nat.length_toDigits_le_iff (by decide) (by decide)).mpr (lt_of_le_of_lt h (by decide))

variable {newline : Bool}

lemma readBody_none {args : Text} {rest : List Byte} {pending : List Arrival}
    (h : bodyMark (Words.last u.space args) = none) :
    readBody u newline args rest pending = .ok (args, none) := by
  simp only [readBody, bind_getLast?_rsplitLast, h]

variable {later : List (List Byte)}

lemma readBody_mark {args : Text} {rest left payload : List Byte}
    (hargs : Words.Trimmed u.space args)
    (hpos : 1 ≤ payload.length) (hmax : payload.length ≤ maxBodyBytes)
    (hpayload : payload = rest ++ left) (hlater : Delivers later left) : readBody u newline
        (if args = [] then markText payload.length else args ++ .char ' ' :: markText payload.length)
        rest (later.map .data) = .ok (args, some payload) := by
  have hword : Words.IsWord u.space (markText payload.length) :=
    isWord_markText _
  have hvalue : Nat.ofDigitChars 10 (significantDigits (Nat.toDigits 10 payload.length)) 0 =
      payload.length := by
    rw [ofDigitChars_significantDigits, Nat.ofDigitChars_ten_toDigits]
  have hdigits : (significantDigits (Nat.toDigits 10 payload.length)).length ≤
      (Nat.toDigits 10 maxBodyBytes).length := by
    have hlen : (Nat.toDigits 10 maxBodyBytes).length = 7 := by decide
    exact (length_significantDigits_le Nat.toDigits_ne_nil).trans ((length_toDigits_le hmax).trans hlen.ge)
  have hcollect : collect newline payload.length payload.length rest (later.map .data) =
      .ok payload := by
    rw [hpayload]
    exact collect_body (by simp) hlater
  -- the last word is the mark, and the arguments are in front of it
  have htoks : ∃ toks, rsplitLast u.isSpace
      (if args = [] then markText payload.length
        else args ++ .char ' ' :: markText payload.length) = toks ∧
      toks.getLast? = some (markText payload.length) ∧
      (if 1 < toks.length then strip u.isSpace (part 0 toks) else []) = args := by
    by_cases hnil : args = []
    · refine ⟨[markText payload.length], ?_, rfl, hnil.symm⟩
      rw [if_pos hnil, rsplitLast, hword.last_eq, hword.front_eq, if_neg hword.ne_nil, if_pos rfl]
    · refine ⟨[args, markText payload.length], ?_, rfl, strip_eq hargs⟩
      rw [if_neg hnil, rsplitLast, last_append isSpace_space hword,
        front_append hargs isSpace_space hword, if_neg hword.ne_nil, if_neg hnil]
  obtain ⟨toks, hsplit, hlast, hfront⟩ := htoks
  simp only [readBody, hsplit, hlast, Option.bind_some, bodyMark_markText, hvalue]
  rw [if_neg (by omega), if_neg (by omega), hcollect, hfront]
  simp [Except.map]

lemma checkInline_ok {req : Request}
    (h : req.body = none → req.verb ∈ jsonVerbs → req.inlineJson = none) :
    checkInline newline req = .ok (some req) := by grind [checkInline]

lemma inlineJson_eq_none {req : Request}
    (h : ∀ g ∈ req.args, g ≠ .char '\x7b' ∧ g ≠ .char '[') : req.inlineJson = none := by
  have hnil : (req.args.dropWhile fun g => g ≠ .char '\x7b' ∧ g ≠ .char '[') = [] :=
    dropWhile_eq_nil_iff.mpr fun g hg => decide_eq_true (h g hg)
  rw [Request.inlineJson, hnil]

@[local grind]
def markedLine (line : Text) : Option (List Byte) → Text
  | none => line
  | some payload => line ++ .char ' ' :: markText payload.length

def authText : Option Text → Text
  | none => []
  | some token => authPart token

section Marked

variable {line : Text} (hline : Words.Trimmed u.space line) (hne : line ≠ [])

include hline hne

variable (body : Option (List Byte))

lemma first_markedLine : Words.first u.space (markedLine line body) = Words.first u.space line := by
  cases body with
  | none => rfl
  | some payload => exact hline.first_snoc hne isSpace_space

lemma trimmed_markedLine : Words.Trimmed u.space (markedLine line body) := by
  cases body with
  | none => exact hline
  | some payload =>
    have hend := hline.append (isWord_markText payload.length).trimmed hne (cons_ne_nil _ _)
      [.char ' ']
    grind

omit hline in
lemma markedLine_ne_nil : markedLine line body ≠ [] := by
  cases body with
  | none => exact hne
  | some payload => exact append_ne_nil_of_left_ne_nil hne _

lemma readBody_markedLine {newline : Bool} {body : Option (List Byte)} {rest left : List Byte}
    {later : List (List Byte)} (hmark : body = none → bodyMark (Words.last u.space line) = none)
    (hbody : ∀ payload ∈ body, 1 ≤ payload.length ∧ payload.length ≤ maxBodyBytes)
    (hpayload : body.getD [] = rest ++ left) (hlater : Delivers later left) : readBody u newline
        (Text.strip u.isSpace (Words.rest u.space (markedLine line body)))
        rest (later.map .data) = .ok (Words.rest u.space line, body) := by
  rw [strip_eq ((trimmed_markedLine hline hne body).rest (markedLine_ne_nil hne body))]
  cases body with
  | none =>
    refine readBody_none ?_
    by_cases hnil : Words.rest u.space line = []
    · rw [markedLine, hnil]
      rfl
    · rw [markedLine, hline.last_rest hne hnil]
      exact hmark rfl
  | some payload =>
    grind [Words.Trimmed.rest_snoc, isSpace_space, isWord_markText, readBody_mark, Words.Trimmed.rest]

end Marked

variable {token : Option Text} {text : Text}

lemma splitAuth_authText (htoken : ∀ t ∈ token, isValidAuthToken t)
    (htext : Words.Trimmed u.space text) (hauth : token = none →
      upperText u (Words.first u.space text) ≠ Text.ofString "AUTH") :
    splitAuth u (authText token ++ text) = (token, text) := by
  cases token with
  | none =>
    rw [authText, nil_append, splitAuth, part_zero_splitFirst, if_neg (hauth rfl)]
  | some token =>
    have hword : Words.IsWord u.space token := isWord_token (htoken token rfl)
    have hverb : Words.IsWord u.space (ofString "AUTH") := isWord_authVerb
    have hshape : authText (some token) ++ text =
        ofString "AUTH" ++ .char ' ' :: (token ++ .char ' ' :: text) := by
      simp [authText, authPart]
    have hrest : (token ++ .char ' ' :: text).dropWhile u.space = token ++ .char ' ' :: text := by
      obtain ⟨g, token', rfl⟩ := exists_cons_of_ne_nil hword.ne_nil
      rw [cons_append, dropWhile_cons, if_neg (by simp [hword.separates g mem_cons_self])]
    grind [splitAuth, part_zero_splitFirst, part_one_splitFirst, first_append, isSpace_space, Capital.upper_eq, capital_auth, rest_append, Words.Trimmed.dropWhile_eq, strip_eq]

lemma authRefused_self (h : ∀ t ∈ token, t.encode ≠ none) :
    authRefused token (token.bind Text.encode) = false := by
  cases token with
  | none => rfl
  | some token =>
    cases token with
    | nil => rfl
    | cons g token =>
      have hsome : ¬ (encode (g :: token) = none ∨ encode (g :: token) ≠ encode (g :: token)) := by
        simpa using h _ rfl
      exact decide_eq_false hsome

variable {bs : List Byte}

lemma isWord_encode {w : Text} (hw : Words.IsWord u.space w) (henc : w.encode = some bs) :
    Words.IsWord isByteSpace bs := by
  refine ⟨?_, fun b hb => ?_⟩
  · rintro rfl
    rcases encode_cases henc with ⟨hnil, -⟩ | ⟨c, rest, tail, -, -, heq⟩
    · exact hw.ne_nil hnil
    · exact utf8_ne_nil c (append_eq_nil_iff.mp heq.symm).1
  · by_contra hspace
    obtain ⟨n, rfl, hn⟩ := ascii_of_isByteSpace (u := u) (Bool.eq_true_of_not_eq_false hspace)
    have hnot := hw.separates _ (ascii_mem_of_encode henc hb)
    rw [Unicode.space, Glyph.satisfies, hn] at hnot
    cases hnot

lemma encode_authPart {token text : Text} (h : (authPart token ++ text).encode = some bs) :
    ∃ a b, token.encode = some a ∧ text.encode = some b ∧
      bs = asciiBytes "AUTH" ++ 32 :: (a ++ 32 :: b) := by
  have hshape : authPart token ++ text =
      (ofString "AUTH" ++ [.char ' ']) ++ (token ++ ([.char ' '] ++ text)) := by
    simp [authPart]
  rw [hshape] at h
  obtain ⟨v, w, hv, hw, rfl⟩ := encode_append_eq_some h
  obtain ⟨a, w', ha, hw', rfl⟩ := encode_append_eq_some hw
  obtain ⟨s, b, hs, hb, rfl⟩ := encode_append_eq_some hw'
  have hv' : (ofString "AUTH" ++ [Glyph.char ' ']).encode = some (asciiBytes "AUTH" ++ [32]) := by
    decide
  have hs' : encode [.char ' '] = some [32] := by decide
  grind

lemma verb_of_request {bs k : List Byte} (htoken : ∀ t ∈ token, isValidAuthToken t)
    (htext : Words.Trimmed u.space text) (hne : text ≠ []) (hauth : token = none →
      upperText u (Words.first u.space text) ≠ Text.ofString "AUTH")
    (henc : (authText token ++ text).encode = some bs) (hk : k <+: bs)
    (hverb : verbOfChunk u k ∈ legacyVerbs ++ jsonVerbs) :
    ∃ v, v <+: Words.first u.space text ∧ upperText u v = verbOfChunk u k := by
  cases token with
  | none => exact verb_of_line htext henc hne (hauth rfl) hk hverb
  | some token =>
    obtain ⟨a, b, ha, hb, rfl⟩ := encode_authPart henc
    have hword : Words.IsWord u.space token := isWord_token (htoken token rfl)
    exact verb_of_auth_line htext hb hne (isWord_encode hword ha) hk hverb

lemma upperText_ne_nil {t : Text} (h : t ≠ []) : upperText u t ≠ [] := by
  cases t with
  | nil => exact absurd rfl h
  | cons g t =>
    rw [upperText, flatMap_cons]
    refine append_ne_nil_of_left_ne_nil ?_ _
    cases g with
    | char c => simpa [upperGlyph] using u.upper_ne_nil c
    | surrogate n => exact cons_ne_nil _ _

lemma addAuth_eq (htoken : ∀ t ∈ token, isValidAuthToken t)
    (line : Text) : addAuth token line = .ok (authText token ++ line) := by
  cases token with
  | none => rfl
  | some token =>
    have hvalid := htoken token rfl
    cases token with
    | nil => cases hvalid
    | cons g token => simp only [addAuth, if_pos hvalid, authText]

variable {bytes : List Byte}

lemma encodeLine_ok (h : encodeLine text = .ok bytes) :
    ∃ bs, text.encode = some bs ∧ bytes = bs ++ [10] := by grind [encodeLine]

variable {body : Option (List Byte)}

lemma addBody_ok (h : addBody body text = .ok bytes) :
    (∀ payload ∈ body, 1 ≤ payload.length ∧ payload.length ≤ maxBodyBytes) ∧
      ∃ bs, (markedLine text body).encode = some bs ∧ bytes = bs ++ 10 :: body.getD [] := by
  cases body with
  | none => exact ⟨nofun, encodeLine_ok h⟩
  | some payload =>
    rw [addBody] at h
    split at h
    next hlen =>
      cases hsent : encodeLine (text ++ .char ' ' :: markText payload.length) with
      | error e =>
        rw [hsent] at h
        cases h
      | ok sent =>
        obtain ⟨bs, hbs, rfl⟩ := encodeLine_ok hsent
        rw [hsent] at h
        cases h
        grind
    · cases h

variable {line : Text}

lemma encodeRequest_ok {space : Char → Bool} (htoken : ∀ t ∈ token, isValidAuthToken t)
    (h : encodeRequest space line body token = .ok bytes) : .char '\n' ∉ Text.strip space line ∧
      (∀ payload ∈ body, 1 ≤ payload.length ∧ payload.length ≤ maxBodyBytes) ∧
      ∃ bs, (authText token ++ markedLine (Text.strip space line) body).encode = some bs ∧
        bytes = bs ++ 10 :: body.getD [] := by
  unfold encodeRequest at h
  simp only at h
  split at h
  · cases h
  next hclean =>
    rw [addAuth_eq htoken] at h
    obtain ⟨hbody, bs, hbs, hbytes⟩ := addBody_ok h
    have hassoc : markedLine (authText token ++ strip space line) body =
        authText token ++ markedLine (strip space line) body := by
      cases body with
      | none => rfl
      | some payload => exact append_assoc _ _ _
    rw [hassoc] at hbs
    exact ⟨fun hmem => hclean (.inl hmem), hbody, bs, hbs, hbytes⟩

lemma newline_not_mem_authText
    (htoken : ∀ t ∈ token, isValidAuthToken t) : .char '\n' ∉ authText token := by
  cases token with
  | none => exact not_mem_nil
  | some token =>
    obtain ⟨-, -, hall⟩ := printable_of_valid (htoken token rfl)
    have htoken' : .char '\n' ∉ token := by
      intro hmem
      obtain ⟨c, hc, hcode, -⟩ := hall _ hmem
      cases hc
      exact absurd hcode (by decide)
    have hverb : .char '\n' ∉ ofString "AUTH" := by decide
    simp [authText, authPart, htoken', hverb]

lemma newline_not_mem_markedLine (h : .char '\n' ∉ line)
    (body : Option (List Byte)) : .char '\n' ∉ markedLine line body := by
  cases body with
  | none => exact h
  | some payload =>
    have hdigits : .char '\n' ∉ decimal payload.length := by
      intro hmem
      obtain ⟨c, hc, hdigit⟩ := digit_of_mem_decimal hmem
      cases hc
      cases hdigit
    simp [markedLine, markText, h, hdigits]

lemma length_request_lt (htoken : ∀ t ∈ token, isValidAuthToken t)
    (hbody : ∀ payload ∈ body, 1 ≤ payload.length ∧ payload.length ≤ maxBodyBytes)
    (hlen : ∀ b ∈ line.encode, b.length < firstReadBytes)
    (henc : (authText token ++ markedLine line body).encode = some bs) :
    bs.length < maxLineBytes := by
  obtain ⟨a, m, ha, hm, rfl⟩ := encode_append_eq_some henc
  have hauth : a.length ≤ 536 := by
    refine (length_encode_le ha).trans ?_
    cases token with
    | none => simp [authText]
    | some token =>
      obtain ⟨-, hmax, -⟩ := printable_of_valid (htoken token rfl)
      have hverb : (ofString "AUTH").length = 4 := by decide
      grind [authText, authPart, length_append, authTokenMaxLen]
  have hmarked : m.length < firstReadBytes + 36 := by
    cases body with
    | none =>
      have := hlen m hm
      omega
    | some payload =>
      obtain ⟨l, d, hl, hd, rfl⟩ := encode_append_eq_some hm
      have hline := hlen l hl
      have hdigits := length_toDigits_le (hbody payload rfl).2
      have hmark := length_encode_le hd
      grind [markText, decimal]
  grind [firstReadBytes, maxLineBytes]

lemma parseRequest_request
    {bs rest left : List Byte}
    (htoken : ∀ t ∈ token, isValidAuthToken t)
    (hline : Words.Trimmed u.space line) (hne : line ≠ [])
    (hauth : token = none → upperText u (Words.first u.space line) ≠ Text.ofString "AUTH")
    (hmark : body = none → bodyMark (Words.last u.space line) = none)
    (hinline : body = none → upperText u (Words.first u.space line) ∈ jsonVerbs →
      ∀ g ∈ Words.rest u.space line, g ≠ .char '\x7b' ∧ g ≠ .char '[')
    (hbody : ∀ payload ∈ body, 1 ≤ payload.length ∧ payload.length ≤ maxBodyBytes)
    (henc : (authText token ++ markedLine line body).encode = some bs)
    (hpayload : body.getD [] = rest ++ left) (hlater : Delivers later left) :
    parseRequest u token ⟨bs, rest, false, later.map .data⟩ =
      .ok (some ⟨upperText u (Words.first u.space line),
        Words.rest u.space line, body, false, markedLine line body⟩) := by
  have htext := trimmed_markedLine hline hne body
  have hwhole : Words.Trimmed u.space (authText token ++ markedLine line body) := by
    cases token with
    | none => exact htext
    | some token =>
      have hverb : Words.IsWord u.space _ := isWord_authVerb
      exact hverb.trimmed.append htext hverb.ne_nil (markedLine_ne_nil hne body) _
  have hdecode : decodeReplace bs = authText token ++ markedLine line body :=
    decodeWithFrom_of_encode henc le_rfl
  have htoken' : ∀ t ∈ token, t.encode ≠ none := by
    rintro t rfl
    obtain ⟨a, b, ha, -, -⟩ := encode_authPart henc
    rw [ha]
    exact Option.some_ne_none a
  have hfirst := first_markedLine hline hne body
  have hauth' : token = none → upperText u
      (first u.space (markedLine line body)) ≠ ofString "AUTH" := by
    rwa [hfirst]
  have hverb : upperText u (first u.space line) ≠ [] :=
    upperText_ne_nil (hline.isWord_first hne).ne_nil
  simp only [parseRequest, hdecode, strip_eq hwhole, splitAuth_authText htoken htext hauth',
    part_zero_splitFirst, part_one_splitFirst, hfirst, authRefused_self htoken', if_neg hverb,
    readBody_markedLine hline hne hmark hbody hpayload hlater]
  exact checkInline_ok fun hnone hjson => inlineJson_eq_none (hinline hnone hjson)

end Lines

variable (u : Unicode)

def firstToken (line : Text) : Text := Words.first u.space (Text.strip u.isSpace line)

def remainder (line : Text) : Text := Words.rest u.space (Text.strip u.isSpace line)

def lastToken (line : Text) : Text := Words.last u.space (Text.strip u.isSpace line)

/-- A request is read as it was written, however its bytes are cut into chunks.  The line
must have a first token, which without a token for `AUTH` must not be that word; and if a
part of it is a JSON verb, the line must end in the first 4096 bytes of the request or
the first chunk be shorter. -/
theorem read_encoded_request (u : Unicode) (line : Text) (body : Option (List Byte))
    (token : Option Text) (bytes : List Byte) (chunks : List (List Byte))
    (htoken : ∀ t ∈ token, isValidAuthToken t)
    (hbytes : encodeRequest u.isSpace line body token = .ok bytes)
    (hchunks : Delivers chunks bytes)
    (hline : Text.strip u.isSpace line ≠ [])
    (hlen : ∀ bs ∈ (Text.strip u.isSpace line).encode, bs.length < 4096)
    (hlegacy : ∀ v, v <+: firstToken u line → upperText u v ∉ legacyVerbs)
    (hmark : body = none → bodyMark (lastToken u line) = none)
    (hinline : body = none → upperText u (firstToken u line) ∈ jsonVerbs →
      ∀ g ∈ remainder u line, g ≠ .char '\x7b' ∧ g ≠ .char '[')
    (hauth : token = none → upperText u (firstToken u line) ≠ Text.ofString "AUTH")
    (hjson : ∀ v, v <+: firstToken u line → upperText u v ∈ jsonVerbs →
      bytes.length ≤ 4096 + (body.getD []).length ∨ ∀ c ∈ chunks.head?, c.length < 4096) :
    ∃ req, readRequest u token (chunks.map .data) = .ok (some req) ∧
      req.verb = upperText u (firstToken u line) ∧ req.args = remainder u line ∧
      req.body = body := by
  have htrim : Words.Trimmed u.space (strip u.isSpace line) :=
    trimmed_strip line
  obtain ⟨hclean, hbody, bs, henc, rfl⟩ := encodeRequest_ok htoken hbytes
  have hnewline : (10 : Byte) ∉ bs := by
    intro hmem
    have hchar : Glyph.char '\n' ∈ _ := ascii_mem_of_encode (n := 10) henc hmem
    rcases mem_append.mp hchar with hmem | hmem
    · exact newline_not_mem_authText htoken hmem
    · exact newline_not_mem_markedLine hclean body hmem
  have hfirst := first_markedLine htrim hline body
  -- a verb that the first chunk begins with is a part of the first word
  have hword : ∀ k, k <+: bs → verbOfChunk u k ∈ legacyVerbs ++ jsonVerbs →
      ∃ v, v <+: firstToken u line ∧ upperText u v = verbOfChunk u k := by
    intro k hk hverb
    rw [firstToken, ← hfirst]
    exact verb_of_request htoken (trimmed_markedLine htrim hline body) (markedLine_ne_nil hline body)
      (by rwa [hfirst]) henc hk hverb
  have hlegacy' : ∀ k, k <+: bs → verbOfChunk u k ∉ legacyVerbs := by
    intro k hk hverb
    obtain ⟨v, hv, hupper⟩ := hword k hk (mem_append_left _ hverb)
    exact hlegacy v hv (hupper ▸ hverb)
  have hjson' : ∀ k, k <+: bs → verbOfChunk u k ∈ jsonVerbs →
      k.length < firstReadBytes ∨ ∀ c ∈ chunks.head?, c.length < firstReadBytes := by
    intro k hk hverb
    obtain ⟨v, hv, hupper⟩ := hword k hk (mem_append_right _ hverb)
    rcases hjson v hv (hupper ▸ hverb) with hshort | hshort
    · left
      have := hk.length_le
      simp only [length_append, length_cons] at hshort
      rw [firstReadBytes]
      omega
    · exact .inr hshort
  obtain ⟨rest, later, left, hread, hpayload, hlater⟩ := readLine_line token hnewline
    (length_request_lt htoken hbody hlen henc) hlegacy' hjson' hchunks
  have hparse := parseRequest_request htoken htrim hline hauth hmark hinline hbody henc hpayload hlater
  refine ⟨⟨upperText u (firstToken u line), remainder u line, body, false,
    markedLine (strip u.isSpace line) body⟩, ?_, rfl, rfl, rfl⟩
  rw [readRequest, hread]
  exact hparse

namespace Schedules

def ascii : Unicode where
  isSpace c := c.toNat = 32 ∨ (9 ≤ c.toNat ∧ c.toNat ≤ 13) ∨ (28 ≤ c.toNat ∧ c.toNat ≤ 31)
  upper c := [c.toUpper]
  isSpace_ascii := by decide
  upper_ascii _ := rfl
  upper_ne_nil _ := List.cons_ne_nil _ _
  upper_space c hc := by
    have hsmall : c.toNat < 128 := by
      rw [decide_eq_true_eq] at hc
      omega
    have hfixed : ∀ n : Fin 33, (Char.ofNat n).toUpper = Char.ofNat n := by decide
    rw [decide_eq_true_eq] at hc
    have hchar := hfixed ⟨c.toNat, by omega⟩
    rw [Char.ofNat_toNat] at hchar
    rw [hchar]
  upper_replacement := by decide

def line : Text := Text.ofString "schedule put x"

def token : Text := Text.ofString "secret"

def bytes : List Byte := asciiBytes "AUTH secret schedule put x @2\n[]"

theorem read_encoded_request_bytewise :
    ∃ req, readRequest ascii (some token) ((bytes.map fun b => [b]).map .data) = .ok (some req) ∧
      req.verb = upperText ascii (firstToken ascii line) ∧ req.args = remainder ascii line ∧
      req.body = some (asciiBytes "[]") := by
  refine read_encoded_request ascii line (some (asciiBytes "[]")) (some token) bytes
    (bytes.map fun b => [b]) ?_ ?_ ⟨?_, ?_⟩ ?_ ?_ ?_ nofun nofun nofun ?_
  · decide
  · decide
  · decide
  · decide
  · decide
  · decide
  · intro v hv
    have hparts : ∀ v ∈ (firstToken ascii line).inits, upperText ascii v ∉ legacyVerbs := by
      decide
    exact hparts v ((mem_inits v _).mpr hv)
  · intro _ _ _
    right
    decide

variable (n : ℕ)

def long : Text := Text.ofString "SCHEDULE " ++ List.replicate n (.char 'x')

def longLine : List Byte := asciiBytes "SCHEDULE " ++ List.replicate n 0x78

def longBytes : List Byte := longLine n ++ asciiBytes " @1" ++ 10 :: [0]

lemma encode_long : (long n).encode = some (longLine n) := by
  have hverb : (ofString "SCHEDULE ").encode = some (asciiBytes "SCHEDULE ") := by
    decide
  have hx : utf8 'x' = [0x78] := by decide
  rw [long, encode_append, hverb, encode_replicate hx, Option.bind_some, Option.map_some, longLine]

lemma strip_long {n : ℕ} (hn : n ≠ 0) : Text.strip ascii.isSpace (long n) = long n := by
  refine strip_eq ⟨?_, ?_⟩
  · rw [long, head?_append_of_ne_nil _ (by decide)]
    decide
  · rw [long, getLast?_append_of_ne_nil _ (by simp [hn]), getLast?_replicate, if_neg hn]
    decide

lemma encodeRequest_long {n : ℕ} (hn : n ≠ 0) :
    encodeRequest ascii.isSpace (long n) (some [0]) none = .ok (longBytes n) := by
  have hclean : ¬ (.char '\n' ∈ long n ∨ .char '\r' ∈ long n) := by
    have hverb : .char '\n' ∉ ofString "SCHEDULE " ∧ .char '\r' ∉ ofString "SCHEDULE " := by
      decide
    simp [long, hverb]
  have hmark : encode (.char ' ' :: markText 1) = some (asciiBytes " @1") := by
    decide
  have hmarked : (long n ++ .char ' ' :: markText 1).encode =
      some (longLine n ++ asciiBytes " @1") := by
    rw [encode_append, encode_long, hmark, Option.bind_some, Option.map_some]
  have hsent : addBody (some [0]) (long n) = .ok (longBytes n) := by
    rw [addBody, if_pos (by decide), length_singleton, encodeLine, hmarked]
    simp only [Except.map, longBytes, append_assoc, singleton_append]
  rw [encodeRequest, strip_long hn]
  simp only [if_neg hclean]
  exact hsent

/-- With the mark of its body a line of 4093 bytes does not end in a first chunk of 4096
bytes, and the request is refused. -/
theorem long_line_refused :
    encodeRequest ascii.isSpace (long 4084) (some [0]) none = .ok (longBytes 4084) ∧
      Delivers [longBytes 4084] (longBytes 4084) ∧
      (long 4084).encode = some (longLine 4084) ∧ (longLine 4084).length = 4093 ∧
      (∀ v, v <+: firstToken ascii (long 4084) → upperText ascii v ∉ legacyVerbs) ∧
      bodyMark (lastToken ascii (long 4084)) = none ∧
      readRequest ascii none [.data (longBytes 4084)] = .error (useBody true) := by
  have hlength (n : ℕ) : (longLine n).length = 9 + n := by
    rw [longLine, length_append, length_replicate]
    rfl
  have hnonempty (n : ℕ) : ∀ c ∈ [longBytes n], c ≠ [] := by simp [longBytes]
  refine ⟨encodeRequest_long (by decide), ⟨flatten_singleton, hnonempty _⟩, encode_long _,
    hlength _, ?_, by decide +kernel, by decide +kernel⟩
  intro v hv
  have hparts : ∀ v ∈ (firstToken ascii (long 4084)).inits, upperText ascii v ∉ legacyVerbs := by
    decide +kernel
  exact hparts v ((mem_inits v _).mpr hv)

end Schedules

end HeimdallDaq.Federation.Framing
