/-
  Federation/MemberIdentity.lean --- node keys as identities.

  `parse_member` takes `host:instance_id[@node_id]`; an IPv6 host stands in brackets,
  the number may have leading zeros, the host any case.
-/
import HeimdallDaq.Federation.Membership
import Mathlib

namespace HeimdallDaq.Federation

open Foundation List String

/-! ## The parser with its base port -/

def computePortsAt (statusBasePort instanceId stride : ℤ) : Ports :=
  { computePorts instanceId stride with status := statusBasePort + instanceId * stride }

/-- What `parse_member` is called with, and the interpreter's `ip_address`: whether a text is
the address of a loopback interface, mapped IPv4 addresses included. -/
structure EntryRules where
  defaultStride : ℤ := 100
  statusBasePort : ℤ := 5002
  allowLoopback : Bool := false
  isLoopbackAddress : String → Bool

namespace Membership

def loopbackNames : List String :=
  ["localhost", "localhost.localdomain", "ip6-localhost", "ip6-loopback"]

def unbracket (host : List Char) : List Char :=
  match host with
  | '[' :: rest => if rest.getLast? = some ']' then rest.dropLast else host
  | _ => host

variable (py : Python)

@[local grind]
def isLoopback (isLoopbackAddress : String → Bool) (host : String) : Bool :=
  decide (host ≠ "") &&
    let h := unbracket (py.lower (py.strip host)).toList
    loopbackNames.contains (String.ofList h) || ".localhost".toList.isSuffixOf h ||
      isLoopbackAddress (String.ofList (splitFirst '%' h).1)

def parseEntryText (rules : EntryRules) (text : String) : Except PyError Member := do
  let (body, nid) := splitFirst '@' text.toList
  let nodeId ← parseNodeId nid
  match splitHostNumber py body with
  | none => .error (badEntry text)
  | some (hostText, num) =>
    let host := String.ofList hostText
    let ports := computePortsAt rules.statusBasePort (digits num) rules.defaultStride
    if !ports.valid then .error (badEntry text)
    else if !rules.allowLoopback && isLoopback py rules.isLoopbackAddress host then
      .error (.valueError ("member '" ++ text ++ "' uses a loopback host; use the host's " ++
        "advertised name"))
    else
      .ok { entry := text
            host := host
            instanceId := digits num
            nodeKey := nodeKey py host (digits num)
            nodeId := nodeId
            portStride := rules.defaultStride
            ports := ports }

def parseEntry (rules : EntryRules) (entry : String) : Except PyError Member :=
  parseEntryText py rules (py.strip entry)

lemma parseEntry_eq_parseMember (rules : EntryRules) (hbase : rules.statusBasePort = 5002)
    (entry : String) : parseEntry py rules entry =
      parseMember py ⟨rules.defaultStride, rules.allowLoopback,
        isLoopback py rules.isLoopbackAddress⟩ (.str entry) := by
  grind [computePortsAt, computePorts, parseEntry, parseEntryText, parseMember, parseText, Python.str_str]

/-! ## Writing hosts and numbers -/

@[local grind]
def formatHost (host : List Char) : List Char := if ':' ∈ host then '[' :: (host ++ [']']) else host

/-- A host that `_split_host_number` lets pass. -/
@[local grind]
structure HostOk (host : List Char) : Prop where
  ne_nil : host ≠ []
  allowed : ∀ c ∈ host, py.isSpace c = false ∧ c ∉ ['/', '@', '[', ']']

/-- A number that `_split_host_number` lets pass. -/
@[local grind]
structure NumberOk (num : List Char) : Prop where
  ne_nil : num ≠ []
  allDigits : ∀ c ∈ num, c.isDigit = true
  short : num.length ≤ 10

variable {sep : Char}

lemma splitFirst_append {before : List Char} (h : sep ∉ before)
    (after : List Char) : splitFirst sep (before ++ sep :: after) = (before, some after) := by
  have hspan : (before ++ sep :: after).span (· ≠ sep) = (before, sep :: after) := by
    rw [span_eq_takeWhile_dropWhile]
    have hall : ∀ c ∈ before, decide (c ≠ sep) := by grind
    rw [takeWhile_append_of_pos hall, dropWhile_append_of_pos hall]
    simp
  simp only [splitFirst, hspan]

lemma splitFirst_of_not_mem {text : List Char} (h : sep ∉ text) :
    splitFirst sep text = (text, none) := by
  grind [span_eq_takeWhile_dropWhile, takeWhile_eq_self_iff.mpr, dropWhile_eq_nil_iff.mpr, splitFirst]

variable {text before after : List Char}

lemma eq_of_splitFirst_some (h : splitFirst sep text = (before, some after)) :
    text = before ++ sep :: after ∧ sep ∉ before := by
  by_cases hmem : sep ∈ text
  · obtain ⟨b, a, rfl, hb⟩ := eq_append_cons_of_mem hmem
    grind [splitFirst_append]
  · rw [splitFirst_of_not_mem hmem] at h
    cases h

lemma splitLast_append {after : List Char} (h : sep ∉ after)
    (before : List Char) : splitLast sep (before ++ sep :: after) = some (before, after) := by
  grind [splitLast, splitFirst_append]

lemma eq_of_splitLast (h : splitLast sep text = some (before, after)) :
    text = before ++ sep :: after ∧ sep ∉ after := by
  grind [splitLast, eq_of_splitFirst_some]

variable {num : List Char}

lemma NumberOk.not_mem (h : NumberOk num) {c : Char} (hc : c.isDigit = false) :
    c ∉ num := fun hmem => by
  rw [h.allDigits c hmem] at hc
  cases hc

variable {py}

lemma HostOk.not_mem {host : List Char} (h : HostOk py host) {c : Char}
    (hc : c ∈ ['/', '@', '[', ']']) : c ∉ host := fun hmem => (h.allowed c hmem).2 hc

variable {host : List Char}

lemma eq_of_cutHostNumber
    (h : cutHostNumber text = some (host, num)) : text = formatHost host ++ ':' :: num := by
  unfold cutHostNumber at h
  grind [eq_of_splitFirst_some, eq_of_splitLast]

lemma cutHostNumber_format (hhost : HostOk py host)
    (hnum : NumberOk num) : cutHostNumber (formatHost host ++ ':' :: num) = some (host, num) := by
  by_cases hcolon : ':' ∈ host
  · have hbracket : ']' ∉ host := hhost.not_mem (by decide)
    have hne := hhost.ne_nil
    simp [formatHost, hcolon, cutHostNumber, splitFirst_append hbracket, hne]
  · have hopen : '[' ∉ host := hhost.not_mem (by decide)
    have hsplit := splitLast_append (hnum.not_mem (c := ':') rfl) host
    cases host with
    | nil => exact absurd rfl hhost.ne_nil
    | cons c rest =>
      have hc : c ≠ '[' := fun e => hopen (by simp [e])
      rw [formatHost, if_neg hcolon]
      unfold cutHostNumber
      grind

lemma splitHostNumber_eq_some_iff : splitHostNumber py text = some (host, num) ↔
      text = formatHost host ++ ':' :: num ∧ HostOk py host ∧ NumberOk num := by
  have hhost : ∀ host : List Char,
      ¬ (host = [] ∨ host.any (fun c => py.isSpace c || ['/', '@', '[', ']'].contains c)) ↔
        HostOk py host := by
    intro host
    refine ⟨fun h => ⟨fun e => h (Or.inl e), fun c hc => ?_⟩, fun h => ?_⟩
    · have hall := mt Or.inr h
      simp only [any_eq_true, not_exists, not_and] at hall
      have hthis := hall c hc
      simpa using hthis
    · rintro (e | hany)
      · exact h.ne_nil e
      · obtain ⟨c, hc, hbad⟩ := any_eq_true.mp hany
        obtain ⟨hspace, hsep⟩ := h.allowed c hc
        simp [hspace] at hbad
        simp at hsep
        tauto
  constructor
  · intro h
    obtain ⟨⟨host', num'⟩, hcut, h⟩ := Option.bind_eq_some_iff.mp h
    grind [eq_of_cutHostNumber]
  · rintro ⟨rfl, hok, hnum⟩
    refine Option.bind_eq_some_iff.mpr ⟨(host, num), cutHostNumber_format hok hnum, ?_⟩
    grind

/-! ## Entries -/

def idPart : Option (List Char) → List Char
  | none => []
  | some nid => '@' :: nid

lemma splitFirst_at_iff {text body : List Char} {nid : Option (List Char)} :
    splitFirst '@' text = (body, nid) ↔ text = body ++ idPart nid ∧ '@' ∉ body := by
  constructor
  · intro h
    cases nid with
    | some nid => exact eq_of_splitFirst_some h
    | none =>
      by_cases hmem : '@' ∈ text
      · obtain ⟨b, a, rfl, hb⟩ := eq_append_cons_of_mem hmem
        rw [splitFirst_append hb] at h
        cases h
      all_goals grind [splitFirst_of_not_mem, idPart]
  · rintro ⟨rfl, hnot⟩
    cases nid with
    | some nid => exact splitFirst_append hnot nid
    | none => simpa [idPart] using splitFirst_of_not_mem hnot

variable (py) in
/-- The parts of an entry that is accepted. -/
@[local grind]
structure Accepts (rules : EntryRules) (host num : List Char) (nid : Option (List Char)) : Prop where
  hostOk : HostOk py host
  numberOk : NumberOk num
  nodeIdOk : ∀ n ∈ nid, isValidNodeId n = true
  portsOk : (computePortsAt rules.statusBasePort (digits num) rules.defaultStride).valid = true
  loopbackOk : rules.allowLoopback = false →
    isLoopback py rules.isLoopbackAddress (String.ofList host) = false

variable (py) in
@[local grind]
def record (rules : EntryRules) (text : String) (host num : List Char) (nid : Option (List Char)) :
    Member where
  entry := text
  host := String.ofList host
  instanceId := digits num
  nodeKey := nodeKey py (String.ofList host) (digits num)
  nodeId := nid.map String.ofList
  portStride := rules.defaultStride
  ports := computePortsAt rules.statusBasePort (digits num) rules.defaultStride

lemma not_mem_format (hhost : HostOk py host) (hnum : NumberOk num) :
    '@' ∉ formatHost host ++ ':' :: num := by grind

variable {rules : EntryRules}

lemma parseEntryText_eq_ok_iff {text : String} {m : Member} :
    parseEntryText py rules text = .ok m ↔ ∃ host num nid,
      text.toList = formatHost host ++ ':' :: num ++ idPart nid ∧
        Accepts py rules host num nid ∧ m = record py rules text host num nid := by
  constructor
  · grind [splitFirst, splitFirst_at_iff, parseEntryText, bind_eq_ok, parseNodeId, splitHostNumber_eq_some_iff]
  · rintro ⟨host, num, nid, htext, hok, rfl⟩
    have hsplit : splitFirst '@' text.toList = (formatHost host ++ ':' :: num, nid) :=
      splitFirst_at_iff.mpr ⟨htext, not_mem_format hok.hostOk hok.numberOk⟩
    have hcut : splitHostNumber py (formatHost host ++ ':' :: num) = some (host, num) :=
      splitHostNumber_eq_some_iff.mpr ⟨rfl, hok.hostOk, hok.numberOk⟩
    have hid : parseNodeId nid = .ok (nid.map ofList) := by
      cases nid with
      | none => rfl
      | some n => simp [parseNodeId, hok.nodeIdOk n rfl]
    grind [parseEntryText, bind_eq_ok]

/-! ## Node keys -/

/-- What the results need of the interpreter's case mapping and white space. -/
@[local grind]
structure CaseLaws (py : Python) : Prop where
  lower_lower : ∀ s, py.lower (py.lower s) = py.lower s
  lower_ne_empty : ∀ s, s ≠ "" → py.lower s ≠ ""
  mem_lower : ∀ s c, (py.isSpace c ∨ c ∈ [':', '/', '@', '[', ']']) →
    (c ∈ (py.lower s).toList ↔ c ∈ s.toList)
  isSpace_graphic : ∀ c : Char, 33 ≤ c.toNat → c.toNat ≤ 126 → py.isSpace c = false

lemma toList_nodeKey (host : String) (n : ℕ) :
    (nodeKey py host n).toList = formatHost (py.lower host).toList ++ ':' :: Nat.toDigits 10 n := by
  unfold nodeKey formatHost
  dsimp only
  split <;> simp [toList_append]

lemma foldl_digits_lt : ∀ (num : List Char) (init : ℕ), (∀ c ∈ num, c.isDigit) →
    Nat.ofDigitChars 10 num init < (init + 1) * 10 ^ num.length := by
  intro num
  induction num with
  | nil => intro init _; simp [Nat.ofDigitChars]
  | cons c rest ih =>
    intro init h
    have hc : c.toNat - '0'.toNat ≤ 9 := by
      have hdigit := Char.isDigit_iff_toNat.mp (h c mem_cons_self)
      grind
    rw [Nat.ofDigitChars_cons]
    calc Nat.ofDigitChars 10 rest (10 * init + (c.toNat - '0'.toNat))
        < (10 * init + (c.toNat - '0'.toNat) + 1) * 10 ^ rest.length :=
          ih _ fun d hd => h d (mem_cons_of_mem _ hd)
      _ ≤ (10 * (init + 1)) * 10 ^ rest.length := Nat.mul_le_mul_right _ (by omega)
      _ = (init + 1) * 10 ^ (c :: rest).length := by rw [length_cons, Nat.pow_succ]; ring

lemma digits_toDigits (n : ℕ) : digits (Nat.toDigits 10 n) = n := Nat.ofDigitChars_ten_toDigits

lemma NumberOk.toDigits (h : NumberOk num) : NumberOk (Nat.toDigits 10 (digits num)) where
  ne_nil := Nat.toDigits_ne_nil
  allDigits _ hc := Nat.isDigit_of_mem_toDigits (by decide) le_rfl hc
  short := by
    refine (Nat.length_toDigits_le_iff (by decide) (by decide)).mpr ?_
    have hlt : digits num < (0 + 1) * 10 ^ num.length := foldl_digits_lt num 0 h.allDigits
    rw [Nat.zero_add, Nat.one_mul] at hlt
    exact hlt.trans_le (Nat.pow_le_pow_right (by decide) h.short)

lemma strip_eq_self {text : String} (h : ∀ c ∈ text.toList, py.isSpace c = false) :
    py.strip text = text := by
  grind [dropWhile_eq_self_iff, rdropWhile_eq_self_iff, Python.strip, ofList_toList]

namespace CaseLaws

variable (laws : CaseLaws py)

include laws

lemma hostOk_lower (h : HostOk py host) : HostOk py (py.lower (String.ofList host)).toList := by
  constructor
  · intro e
    refine laws.lower_ne_empty (ofList host) ?_ (toList_eq_nil_iff.mp e)
    exact fun he => h.ne_nil (by simpa using he)
  · intro c hc
    constructor
    · refine Bool.eq_false_iff.mpr fun hsp => ?_
      grind [toList_ofList]
    all_goals grind [toList_ofList]

lemma isLoopback_lower (addr : String → Bool) (h : HostOk py host) :
    isLoopback py addr (py.lower (String.ofList host)) = isLoopback py addr (String.ofList host) := by
  have hhost : py.strip (ofList host) = ofList host :=
    strip_eq_self fun c hc => (h.allowed c (by simpa using hc)).1
  have hlower : py.strip (py.lower (ofList host)) = py.lower (ofList host) :=
    strip_eq_self fun c hc => ((laws.hostOk_lower h).allowed c hc).1
  have hne : ofList host ≠ "" := fun e => h.ne_nil (by simpa using e)
  grind

lemma isSpace_of_isDigit {c : Char} (h : c.isDigit) : py.isSpace c = false := by
  have hdigit := Char.isDigit_iff_toNat.mp h
  grind

lemma isSpace_of_isAlphanum {c : Char} (h : c.isAlphanum) : py.isSpace c = false := by
  rw [Char.isAlphanum, Bool.or_eq_true] at h
  rcases h with h | h
  · rw [Char.isAlpha, Bool.or_eq_true] at h
    simp only [Char.isUpper, Char.isLower, Bool.and_eq_true, decide_eq_true_eq, ge_iff_le,
      UInt32.le_iff_toNat_le] at h
    change (65 ≤ c.toNat ∧ c.toNat ≤ 90) ∨ (97 ≤ c.toNat ∧ c.toNat ≤ 122) at h
    grind
  · exact laws.isSpace_of_isDigit h

lemma isSpace_nodeId {nid : List Char} (h : isValidNodeId nid) :
    ∀ c ∈ nid, py.isSpace c = false := by
  cases nid with
  | nil => exact fun c hc => absurd hc not_mem_nil
  | cons first rest =>
    simp only [isValidNodeId, Bool.and_eq_true, all_eq_true, Bool.or_eq_true] at h
    intro c hc
    rcases mem_cons.mp hc with rfl | hc
    · exact laws.isSpace_of_isAlphanum h.1.1
    · rcases h.2 c hc with halnum | hmark
      · exact laws.isSpace_of_isAlphanum halnum
      · have hmem : c ∈ ['_', '.', ':', '-'] := by simpa using hmark
        fin_cases hmem <;> exact laws.isSpace_graphic _ (by decide) (by decide)

variable {nid : Option (List Char)}

lemma isSpace_entry (h : Accepts py rules host num nid) :
    ∀ c ∈ formatHost host ++ ':' :: num ++ idPart nid, py.isSpace c = false := by
  have hmark : ∀ c ∈ [':', '[', ']', '@'], py.isSpace c = false := by
    intro c hc
    fin_cases hc <;> exact laws.isSpace_graphic _ (by decide) (by decide)
  have hhost : ∀ c ∈ formatHost host, py.isSpace c = false := by grind
  intro c hc
  rcases mem_append.mp hc with hc | hc
  · rcases mem_append.mp hc with hc | hc
    all_goals grind [isSpace_of_isDigit]
  · cases nid with
    | none => exact absurd hc not_mem_nil
    | some n =>
      rcases mem_cons.mp hc with rfl | hc
      · exact hmark _ (by decide)
      · exact laws.isSpace_nodeId (h.nodeIdOk n rfl) c hc

lemma accepts_canonical
    (h : Accepts py rules host num nid) :
    Accepts py rules (py.lower (String.ofList host)).toList (Nat.toDigits 10 (digits num)) nid where
  hostOk := laws.hostOk_lower h.hostOk
  numberOk := h.numberOk.toDigits
  nodeIdOk := h.nodeIdOk
  portsOk := by
    rw [digits_toDigits]
    exact h.portsOk
  loopbackOk hoff := by
    rw [ofList_toList, laws.isLoopback_lower _ h.hostOk]
    exact h.loopbackOk hoff

end CaseLaws

def canonical (m : Member) : String := m.nodeKey ++ (m.nodeId.map ("@" ++ ·)).getD ""

lemma toList_canonical (rules : EntryRules) (text : String) (host num : List Char)
    (nid : Option (List Char)) : (canonical (record py rules text host num nid)).toList =
      formatHost (py.lower (String.ofList host)).toList ++ ':' :: Nat.toDigits 10 (digits num) ++
        idPart nid := by
  rw [canonical, toList_append]
  congr 1
  · exact toList_nodeKey _ _
  · cases nid <;> simp [record, idPart]

lemma parseEntry_canonical (laws : CaseLaws py) {entry : String} {m : Member}
    (h : parseEntry py rules entry = .ok m) :
    ∃ m', parseEntry py rules (canonical m) = .ok m' ∧ m'.nodeKey = m.nodeKey ∧
      m'.instanceId = m.instanceId ∧ m'.nodeId = m.nodeId ∧ m'.ports = m.ports := by
  obtain ⟨host, num, nid, -, hok, rfl⟩ := parseEntryText_eq_ok_iff.mp h
  have hagain := laws.accepts_canonical hok
  have htext : (canonical (record py rules (py.strip entry) host num nid)).toList = _ :=
    toList_canonical rules (py.strip entry) host num nid
  have hstrip : py.strip (canonical (record py rules (py.strip entry) host num nid)) =
      canonical (record py rules (py.strip entry) host num nid) :=
    strip_eq_self fun c hc => laws.isSpace_entry hagain c (htext ▸ hc)
  have hparse : parseEntry py rules (canonical (record py rules (py.strip entry) host num nid)) =
      .ok (record py rules (canonical (record py rules (py.strip entry) host num nid))
        (py.lower (ofList host)).toList (Nat.toDigits 10 (digits num)) nid) := by
    rw [parseEntry, hstrip]
    exact parseEntryText_eq_ok_iff.mpr ⟨_, _, nid, htext, hagain, rfl⟩
  refine ⟨_, hparse, ?_⟩
  simp [record, digits_toDigits, nodeKey, laws.lower_lower]

lemma nodeKey_eq_iff (laws : CaseLaws py) {rules rules' : EntryRules} {entry entry' : String}
    {m m' : Member} (h : parseEntry py rules entry = .ok m)
    (h' : parseEntry py rules' entry' = .ok m') : m.nodeKey = m'.nodeKey ↔
      py.lower m.host = py.lower m'.host ∧ m.instanceId = m'.instanceId := by
  obtain ⟨host, num, nid, -, hok, rfl⟩ := parseEntryText_eq_ok_iff.mp h
  obtain ⟨host', num', nid', -, hok', rfl⟩ := parseEntryText_eq_ok_iff.mp h'
  have hsplit : ∀ {rules : EntryRules} {host num : List Char} {nid : Option (List Char)},
      Accepts py rules host num nid →
      splitHostNumber py (nodeKey py (ofList host) (digits num)).toList =
        some ((py.lower (ofList host)).toList, Nat.toDigits 10 (digits num)) := by
    intro rules host num nid hok
    have hagain := laws.accepts_canonical hok
    rw [toList_nodeKey]
    exact splitHostNumber_eq_some_iff.mpr ⟨rfl, hagain.hostOk, hagain.numberOk⟩
  grind [toList_inj.mp, digits_toDigits, nodeKey]

/-! ## Lists of entries -/

section

variable (py) (rules : EntryRules)

def splitList : Json → List String
  | .null => []
  | .arr items => (items.map fun v => py.strip (py.str v)).filter (· ≠ "")
  | v => (((py.str v).toList.splitOn ',').map fun item => py.strip (String.ofList item)).filter
      (· ≠ "")

def parseEntries (allowDuplicates : Bool) : List String → List String → Except PyError (List Member)
  | _, [] => .ok []
  | seen, item :: rest => do
      let m ← parseEntry py rules item
      if m.nodeKey ∈ seen ∧ allowDuplicates = false then
        .error (.valueError ("duplicate member '" ++ m.nodeKey ++ "'"))
      else
        let out ← parseEntries allowDuplicates (m.nodeKey :: seen) rest
        return m :: out

def parseMemberList (allowDuplicates : Bool) (s : Json) : Except PyError (List Member) :=
  parseEntries py rules allowDuplicates [] (splitList py s)

end

lemma parseEntries_eq_ok_iff {items seen : List String} {ms : List Member} :
    parseEntries py rules false seen items = .ok ms ↔
      List.Forall₂ (fun item m => parseEntry py rules item = .ok m) items ms ∧
        (ms.map Member.nodeKey).Nodup ∧ ∀ m ∈ ms, m.nodeKey ∉ seen := by
  induction items generalizing seen ms with
  | nil => grind [parseEntries, forall₂_nil_left_iff]
  | cons item rest ih =>
    rw [parseEntries, bind_eq_ok, forall₂_cons_left_iff]
    constructor
    · rintro ⟨m, hm, h⟩
      split at h
      case isTrue => cases h
      case isFalse hnew =>
        obtain ⟨out, hout, h⟩ := bind_eq_ok.mp h
        cases h
        grind
    · rintro ⟨⟨m, out, hm, hall, rfl⟩, hnodup, hunseen⟩
      rw [map_cons, nodup_cons] at hnodup
      refine ⟨m, hm, ?_⟩
      rw [if_neg fun hin => hunseen m mem_cons_self hin.1]
      refine bind_eq_ok.mpr ⟨out, ih.mpr ⟨hall, hnodup.2, fun m₂ hm₂ hin => ?_⟩, rfl⟩
      grind

/-- The key of an accepted entry is parsed to itself, with the same id, node id and ports;
two entries have one key exactly when their hosts are equal but for case and their ids are
equal; and a list is accepted exactly when its entries are and their keys are pairwise
distinct. -/
theorem member_identity (laws : CaseLaws py) (rules : EntryRules) :
    (∀ entry m, parseEntry py rules entry = .ok m →
      ∃ m', parseEntry py rules (canonical m) = .ok m' ∧ m'.nodeKey = m.nodeKey ∧
        m'.instanceId = m.instanceId ∧ m'.nodeId = m.nodeId ∧ m'.ports = m.ports) ∧
    (∀ entry entry' m m', parseEntry py rules entry = .ok m → parseEntry py rules entry' = .ok m' →
      (m.nodeKey = m'.nodeKey ↔
        py.lower m.host = py.lower m'.host ∧ m.instanceId = m'.instanceId)) ∧
    ∀ s ms, parseMemberList py rules false s = .ok ms ↔
      List.Forall₂ (fun item m => parseEntry py rules item = .ok m) (splitList py s) ms ∧
        (ms.map Member.nodeKey).Nodup := by
  refine ⟨fun entry m h => parseEntry_canonical laws h,
    fun entry entry' m m' h h' => nodeKey_eq_iff laws h h', fun s ms => ?_⟩
  rw [parseMemberList, parseEntries_eq_ok_iff]
  simp

variable {d : Char}

lemma isUpper_iff : d.val ≥ 'A'.val ∧ d.val ≤ 'Z'.val ↔ 65 ≤ d.toNat ∧ d.toNat ≤ 90 := by
  simp only [ge_iff_le, UInt32.le_iff_toNat_le]
  exact Iff.rfl

lemma toNat_toLower (h : 65 ≤ d.toNat ∧ d.toNat ≤ 90) : d.toLower.toNat = d.toNat + 32 := by
  have hle : d.val.toNat ≤ 90 := h.2
  have h32 : ('a'.val - 'A'.val).toNat = 32 := rfl
  rw [Char.toLower, dif_pos (isUpper_iff.mpr h)]
  simp only [Char.toNat, UInt32.toNat_add, h32]
  omega

lemma toLower_of_not_upper (h : ¬ (65 ≤ d.toNat ∧ d.toNat ≤ 90)) : d.toLower = d := by
  rw [Char.toLower, dif_neg (mt isUpper_iff.mp h)]

lemma toLower_eq_iff {c d : Char} (hc : ¬ (97 ≤ c.toNat ∧ c.toNat ≤ 122))
    (hc' : ¬ (65 ≤ c.toNat ∧ c.toNat ≤ 90)) : d.toLower = c ↔ d = c := by
  grind [toNat_toLower, toLower_of_not_upper]

lemma caseLaws_ascii : CaseLaws Python.ascii where
  lower_lower s := by
    simp [Python.ascii, Function.comp_def]
  lower_ne_empty s hs := by
    simpa [Python.ascii] using hs
  mem_lower s c hc := by
    have hmark : c ∈ [' ', ':', '/', '@', '[', ']'] := by
      rcases hc with hc | hc
      · simp only [Python.ascii, beq_iff_eq] at hc
        simp [hc]
      · exact mem_cons_of_mem _ hc
    have hlower : ∀ d : Char, d.toLower = c ↔ d = c := by
      intro d
      fin_cases hmark <;> exact toLower_eq_iff (by decide) (by decide)
    simp [Python.ascii, hlower]
  isSpace_graphic c hlow _ := by
    refine Bool.eq_false_iff.mpr fun hsp => ?_
    simp only [Python.ascii, beq_iff_eq] at hsp
    subst hsp
    exact absurd hlow (by decide)

/-- The laws hold of an interpreter, and an entry in capitals with leading zeros has the
spelling one expects. -/
theorem member_identity_ascii :
    let rules : EntryRules := { isLoopbackAddress := fun _ => false }
    CaseLaws Python.ascii ∧
      (parseEntry Python.ascii rules "[FE80::1]:007@n1").toOption.map canonical =
        some "[fe80::1]:7@n1" ∧
      ∀ s ms, parseMemberList Python.ascii rules false s = .ok ms ↔
        List.Forall₂ (fun item m => parseEntry Python.ascii rules item = .ok m)
          (splitList Python.ascii s) ms ∧ (ms.map Member.nodeKey).Nodup :=
  ⟨caseLaws_ascii, by decide, (member_identity caseLaws_ascii _).2.2⟩

end Membership

end HeimdallDaq.Federation
