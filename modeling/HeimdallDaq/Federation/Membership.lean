/-
  Federation/Membership.lean --- membership entries.

  `parse_member` of `federation_common.py` in its canonical form
  `host:instance_id[@node_id]` (the coordinators never use the `peer_list` form).
-/
import HeimdallDaq.Foundation.Python

namespace HeimdallDaq.Federation

open Foundation

structure Ports where
  iq : ℤ
  ctl : ℤ
  status : ℤ
  events : ℤ
  zmq : ℤ
  deriving DecidableEq

def computePorts (instanceId stride : ℤ) : Ports :=
  let off := instanceId * stride
  { iq := 5000 + off, ctl := 5001 + off, status := 5002 + off, events := 5003 + off
    zmq := 1130 + off }

def Ports.valid (p : Ports) : Bool :=
  [p.iq, p.ctl, p.status, p.events, p.zmq].all fun n => 1 ≤ n && n ≤ 65535

/-- What `parse_member` returns. -/
structure Member where
  entry : String
  host : String
  instanceId : ℕ
  nodeKey : String
  nodeId : Option String
  portStride : ℤ
  ports : Ports
  deriving DecidableEq

/-- The settings `parse_member` is called with, and the address test of the host. -/
structure MemberRules where
  portStride : ℤ
  allowLoopback : Bool
  isLoopback : String → Bool

namespace Membership

variable (py : Python)

def splitFirst (sep : Char) (text : List Char) : List Char × Option (List Char) :=
  match text.span (· ≠ sep) with
  | (before, _ :: after) => (before, some after)
  | (before, []) => (before, none)

def splitLast (sep : Char) (text : List Char) : Option (List Char × List Char) :=
  match splitFirst sep text.reverse with
  | (after, some before) => some (before.reverse, after.reverse)
  | (_, none) => none

def isValidNodeId : List Char → Bool
  | [] => false
  | c :: rest =>
    c.isAlphanum && decide (rest.length ≤ 47) &&
      rest.all fun d => d.isAlphanum || ['_', '.', ':', '-'].contains d

def cutHostNumber (text : List Char) : Option (List Char × List Char) :=
  match text with
  | '[' :: rest =>
    match splitFirst ']' rest with
    | (host, some (':' :: num)) =>
      if host ≠ [] ∧ ':' ∈ host then some (host, num) else none
    | _ => none
  | _ =>
    match splitLast ':' text with
    | some (host, num) => if ':' ∈ host then none else some (host, num)
    | none => none

def splitHostNumber (text : List Char) : Option (List Char × List Char) := do
  let (host, num) ← cutHostNumber text
  if host = [] ∨ host.any (fun c => py.isSpace c || ['/', '@', '[', ']'].contains c) then none
  else if num = [] ∨ !num.all Char.isDigit then none
  else if 10 < num.length then none
  else some (host, num)

def digits (num : List Char) : ℕ := num.foldl (fun n c => 10 * n + (c.toNat - '0'.toNat)) 0

def nodeKey (host : String) (instanceId : ℕ) : String :=
  let h := py.lower host
  (if ':' ∈ h.toList then "[" ++ h ++ "]" else h) ++ ":" ++ toString instanceId

def parseNodeId : Option (List Char) → Except PyError (Option String)
  | none => .ok none
  | some nid =>
    if isValidNodeId nid then .ok (some (String.ofList nid))
    else .error (.valueError ("bad node_id '" ++ String.ofList nid ++ "'"))

def badEntry (text : String) : PyError :=
  .valueError ("bad member entry '" ++ text ++ "' (expected host:instance_id[@node_id])")

def parseText (rules : MemberRules) (text : String) : Except PyError Member := do
  let (body, nid) := splitFirst '@' text.toList
  let nodeId ← parseNodeId nid
  match splitHostNumber py body with
  | none => .error (badEntry text)
  | some (hostText, num) =>
    let host := String.ofList hostText
    let ports := computePorts (digits num) rules.portStride
    if !ports.valid then .error (badEntry text)
    else if !rules.allowLoopback && rules.isLoopback host then
      .error (.valueError ("member '" ++ text ++ "' uses a loopback host; use the host's " ++
        "advertised name"))
    else
      .ok { entry := text
            host := host
            instanceId := digits num
            nodeKey := nodeKey py host (digits num)
            nodeId := nodeId
            portStride := rules.portStride
            ports := ports }

lemma entry_of_parseText {py : Python} {rules : MemberRules} {text : String} {m : Member}
    (h : parseText py rules text = .ok m) : m.entry = text := by
  unfold parseText at h
  cases hid : parseNodeId (splitFirst '@' text.toList).2 with
  | error e => simp [hid, bind, Except.bind] at h
  | ok nodeId =>
    simp only [hid, bind, Except.bind] at h
    grind

end Membership

def parseMember (py : Python) (rules : MemberRules) (entry : Json) : Except PyError Member :=
  Membership.parseText py rules (py.strip (py.str entry))

lemma parseMember_entry {py : Python} {rules : MemberRules} {entry : Json} {m : Member}
    (h : parseMember py rules entry = .ok m) : parseMember py rules (.str m.entry) = .ok m := by
  have hentry : m.entry = py.strip (py.str entry) := Membership.entry_of_parseText h
  rw [parseMember, Python.str_str, hentry, Python.strip_strip]
  exact h

/-! ## Runtime changes -/

inductive MemberError
  | duplicateMember (key : String)
  | unknownMember (key : String)
  deriving DecidableEq

/-- `_runtime_added` and `_runtime_removed`. -/
structure Runtime where
  added : List Member := []
  removed : Finset String := ∅
  deriving DecidableEq

namespace Runtime

variable (static : List Member) (r : Runtime)

@[local grind]
def memberAdd (m : Member) : Except MemberError (Runtime × Bool) :=
  match r.added.find? (·.nodeKey = m.nodeKey), static.find? (·.nodeKey = m.nodeKey) with
  | some old, _ =>
    if old.host = m.host ∧ old.nodeId = m.nodeId then .ok (r, false)
    else .error (.duplicateMember m.nodeKey)
  | none, some old =>
    if m.nodeKey ∉ r.removed then
      if old.host = m.host ∧ (m.nodeId = none ∨ m.nodeId = old.nodeId) then .ok (r, false)
      else .error (.duplicateMember m.nodeKey)
    else .ok ({ r with removed := r.removed.erase m.nodeKey }, true)
  | none, none => .ok ({ r with added := r.added ++ [m] }, true)

/-- `MEMBER REMOVE`; `registered` says whether the key is a registered member, which
is not replicated. -/
@[local grind]
def memberRemove (registered : Bool) (key : String) : Except MemberError (Runtime × Bool) :=
  if r.added.any (·.nodeKey = key) then
    .ok ({ r with added := r.added.filter (·.nodeKey ≠ key) }, true)
  else if static.any (·.nodeKey = key) ∧ key ∉ r.removed then
    .ok ({ r with removed := insert key r.removed }, true)
  else if registered then .ok (r, true)
  else .error (.unknownMember key)

lemma mem_added_of_memberAdd {static : List Member} {r r' : Runtime} {m : Member} {changed : Bool}
    (h : r.memberAdd static m = .ok (r', changed)) : ∀ x ∈ r'.added, x ∈ r.added ∨ x = m := by grind

lemma mem_added_of_memberRemove {static : List Member} {r r' : Runtime} {registered changed : Bool}
    {key : String} (h : r.memberRemove static registered key = .ok (r', changed)) :
    ∀ x ∈ r'.added, x ∈ r.added := by grind

end Runtime

end HeimdallDaq.Federation
