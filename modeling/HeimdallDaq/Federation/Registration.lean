/-
  Federation/Registration.lean --- members that announce themselves.

  REGISTER adds a member to the coordinator's table under the node key it names, or
  refreshes the entry it already has.
-/
import HeimdallDaq.Federation.Membership
import HeimdallDaq.Foundation.RateLimit
import HeimdallDaq.Foundation.Runs

namespace HeimdallDaq.Federation

open Foundation List

def Ports.toDict (p : Ports) : Dict ℤ :=
  [("iq", p.iq), ("ctl", p.ctl), ("status", p.status), ("events", p.events), ("zmq", p.zmq)]

namespace Registration

/-! ## State -/

def registerMaxMembers : ℕ := 256

def registerRate : RateLimit ℚ := ⟨60, 16, 4096⟩

structure Settings where
  portStride : ℤ := 100
  clusterId : String := "default"
  registerExpiryFactor : ℚ := 3

/-- `Member`, configured or registered. -/
structure Node where
  nodeKey : String
  instanceId : ℤ
  host : String
  connectHost : String
  nodeId : Json := .null
  ports : Dict ℤ := []
  advertisedHost : Option String := none
  addr : Option String := none
  nonce : Option String := none
  lastRxMono : Option ℚ := none
  registerInterval : ℚ := 5

structure Registry where
  static : List Node
  runtimeAdded : List Node := []
  runtimeRemoved : List String := []
  registered : Dict Node := []
  rate : Dict (ℚ × ℕ) := []

structure Net where
  /-- `_Resolver._literal`: the host is an IP literal -/
  literal : String → Bool
  /-- `_Resolver.addresses` -/
  addresses : String → List String
  isLoopback : String → Bool
  isLocalHost : String → Bool

def Node.expired (cfg : Settings) (now : ℚ) (m : Node) : Bool :=
  match m.lastRxMono with
  | none => false
  | some t => decide (cfg.registerExpiryFactor * m.registerInterval < now - t)

namespace Registry

def configured (s : Registry) : List Node :=
  (s.static.filter fun m => !s.runtimeRemoved.contains m.nodeKey) ++ s.runtimeAdded

def members (s : Registry) : List Node :=
  s.configured ++
    ((s.registered.filter fun e => !(s.configured.map Node.nodeKey).contains e.1).map Prod.snd)

end Registry

/-! ## The request -/

structure Body where
  nodeKey : String
  instanceId : ℤ
  nonce : String
  clusterId : String
  portStride : ℤ
  interval : ℚ
  ports : Dict ℤ
  nodeId : Json
  advertiseHost : String

inductive Reply
  /-- the error of `body_json` -/
  | unreadable
  | badRequest (message : String)
  | raised (e : PyError)
  | clusterMismatch (expected : String)
  | busy (retryInSec : ℤ)
  | duplicateNodeKey (addr : Option String) (nodeId : Json) (nonce : Option String)
  | ok (nextRegisterSec : ℚ) (nodeKey host : String)

section

variable (py : Python) (cfg : Settings) (body : Dict Json)

def field (key : String) : Except PyError Json :=
  match body.find key with
  | some v => .ok v
  | none => .error (.builtin .key (.str key))

def isValidNodeId (text : List Char) : Bool :=
  Membership.isValidNodeId text ||
    (decide (text.getLast? = some '\n') && Membership.isValidNodeId text.dropLast)

def intervalOf : PyFloat → Except PyError ℚ
  | .fin q =>
    if 1 / 10 ≤ q ∧ q ≤ 3600 then .ok q
    else .error (.valueError "register_interval_sec out of range")
  | _ => .error (.valueError "register_interval_sec out of range")

def readPorts (items : Dict Json) : Except PyError (Dict ℤ) := do
  let named := ["iq", "ctl", "status", "events", "zmq"].filterMap fun k =>
    (items.find k).map fun v => (k, v)
  let ports ← named.mapM fun (k, v) => do return (k, ← py.int v)
  if ports.any fun p => !(decide (1 ≤ p.2) && decide (p.2 ≤ 65535)) then
    .error (.valueError "port out of range")
  else .ok ports

def readBody : Except PyError Body := do
  let nodeKey := py.lower (py.strip (py.str (← field body "node_key")))
  let instanceId ← py.int (← field body "instance_id")
  let nonce := py.str ((body.find "nonce").getD (.str ""))
  let clusterId := py.str ((body.find "cluster_id").getD (.str "default"))
  let portStride ← py.int ((body.find "port_stride").getD (.int cfg.portStride))
  let interval ← intervalOf (← py.float ((body.find "register_interval_sec").getD (.float (.fin 5))))
  let parsed ← parseMember py ⟨portStride, true, fun _ => false⟩ (.str nodeKey)
  if (parsed.instanceId : ℤ) ≠ instanceId then
    .error (.valueError ("node_key '" ++ nodeKey ++ "' does not end in instance_id " ++
      toString instanceId))
  else
    let ports ←
      match Json.given (body.find "ports") with
      | none => .ok (computePorts instanceId portStride).toDict
      | some (.obj items) => readPorts py items
      | some _ => .error (.valueError "ports must be an object")
    let nodeId := (body.find "node_id").getD .null
    let named := Json.given (body.find "node_id")
    if (named.map fun v => !isValidNodeId (py.str v).toList).getD false then
      .error (.valueError ("bad node_id '" ++ py.str nodeId ++ "'"))
    else
      let advertised :=
        match body.find "advertise_host" with
        | some v => if v.truthy then py.str v else parsed.host
        | none => parsed.host
      .ok { nodeKey, instanceId, nonce, clusterId, portStride, interval, ports, nodeId
            advertiseHost := py.lower (py.strip advertised) }

end

/-! ## Admission -/

def evict (cfg : Settings) (now : ℚ) : Dict Node → Option (Dict Node)
  | [] => none
  | e :: rest => if e.2.expired cfg now then some rest else (evict cfg now rest).map (e :: ·)

/-- A place for the key: it has one already, the table has room, or an entry is
evicted. -/
@[local grind]
def makeRoom (cfg : Settings) (now : ℚ) (nodeKey : String) (d : Dict Node) : Option (Dict Node) :=
  if nodeKey ∉ d.keys ∧ registerMaxMembers ≤ d.length then evict cfg now d else some d

def Registry.registerAdmit (cfg : Settings) (s : Registry) (nodeKey src : String) (now : ℚ) :
    Registry × Bool :=
  let rate := registerRate.purge now s.rate
  if registerRate.spent src rate then ({ s with rate := rate }, false)
  else
    match makeRoom cfg now nodeKey s.registered with
    | none => ({ s with rate := rate }, false)
    | some d => ({ s with registered := d, rate := RateLimit.charge now src rate }, true)

/-! ## The verb -/

structure Request where
  src : String
  now : ℚ
  net : Net
  /-- `none` when `body_json` raises -/
  body : Option Json

structure Outcome where
  registry : Registry
  reply : Reply
  newMember : Option Node := none

@[local grind]
def touchFirst (key : String) (f : Node → Node) : List Node → List Node
  | [] => []
  | m :: rest => if m.nodeKey = key then f m :: rest else m :: touchFirst key f rest

section

variable (cfg : Settings) (s : Registry) (r : Request) (b : Body)

def registerStatic (static : Node) : Outcome :=
  let addrs := r.net.addresses static.host ++ r.net.addresses static.connectHost
  if r.src ∈ addrs ∨ (r.net.isLoopback r.src ∧ r.net.isLocalHost static.connectHost) then
    let touch (m : Node) : Node :=
      { m with nonce := some b.nonce, addr := some r.src, lastRxMono := some r.now }
    { registry := { s with static := touchFirst b.nodeKey touch s.static }
      reply := .ok b.interval b.nodeKey static.host }
  else
    { registry := s
      reply := .duplicateNodeKey (some static.host) static.nodeId none }

def hostOf : String := if r.net.literal b.advertiseHost then b.advertiseHost else r.src

def refresh (holder : Node) : Outcome :=
  let holder := { holder with
    addr := some r.src
    lastRxMono := some r.now
    registerInterval := b.interval }
  let holder :=
    if holder.connectHost = hostOf r b ∧ holder.ports = b.ports then holder
    else { holder with host := hostOf r b, connectHost := hostOf r b, ports := b.ports }
  { registry := { s with registered := s.registered.put b.nodeKey holder }
    reply := .ok b.interval b.nodeKey holder.host }

def newNode : Node where
  nodeKey := b.nodeKey
  instanceId := b.instanceId
  host := hostOf r b
  connectHost := hostOf r b
  nodeId := b.nodeId
  -- an empty object of ports counts as none
  ports := if b.ports = [] then (computePorts b.instanceId b.portStride).toDict else b.ports
  advertisedHost := some b.advertiseHost
  addr := some r.src
  nonce := some b.nonce
  lastRxMono := some r.now
  registerInterval := b.interval

def join : Outcome :=
  match s.registerAdmit cfg b.nodeKey r.src r.now with
  | (s, false) => { registry := s, reply := .busy 60 }
  | (s, true) =>
    { registry := { s with registered := s.registered.put b.nodeKey (newNode r b) }
      reply := .ok b.interval b.nodeKey (newNode r b).host
      newMember := some (newNode r b) }

def register : Outcome :=
  if b.clusterId ≠ cfg.clusterId then
    { registry := s, reply := .clusterMismatch cfg.clusterId }
  else
    let static := s.static.find? fun m =>
      decide (m.nodeKey = b.nodeKey) && !s.runtimeRemoved.contains b.nodeKey
    match static, s.registered.find b.nodeKey with
    | some static, _ => registerStatic s r b static
    | none, some holder =>
      if holder.nonce = some b.nonce then refresh s r b holder
      else if holder.addr = some r.src ∨ holder.expired cfg r.now then join cfg s r b
      else
        { registry := s
          reply := .duplicateNodeKey holder.addr holder.nodeId holder.nonce }
    | none, none => join cfg s r b

def verbRegister (py : Python) : Outcome :=
  match r.body with
  | none => { registry := s, reply := .unreadable }
  | some (.obj body) =>
    match readBody py cfg body with
    | .ok b => register cfg s r b
    | .error e =>
      { registry := s
        reply := if e.isA [.key, .type, .value] then .badRequest (e.text py) else .raised e }
  | some _ => { registry := s, reply := .badRequest "REGISTER needs a JSON body" }

end

/-! ## What a request does -/

variable {cfg : Settings} {d d' : Dict Node}

lemma evict_spec {now : ℚ} (h : evict cfg now d = some d') :
    ∃ pre e post, d = pre ++ e :: post ∧ d' = pre ++ post ∧ e.2.expired cfg now := by
  induction d generalizing d' with
  | nil => cases h
  | cons e rest ih =>
    rw [evict] at h
    split at h
    case isTrue hexp =>
      cases h
      exact ⟨[], e, rest, rfl, rfl, hexp⟩
    grind [Option.map_eq_some_iff.mp]

lemma makeRoom_cases {now : ℚ} {nodeKey : String} (h : makeRoom cfg now nodeKey d = some d') :
    (d' = d ∧ (nodeKey ∈ d.keys ∨ d.length < registerMaxMembers)) ∨ (nodeKey ∉ d.keys ∧
        ∃ pre e post, d = pre ++ e :: post ∧ d' = pre ++ post ∧ e.2.expired cfg now) := by
  grind [evict_spec]

/-- Everything a request can do to the membership. -/
@[local grind]
inductive Effect (cfg : Settings) (s : Registry) (r : Request) : Outcome → Prop
  | unchanged (reply : Reply) : Effect cfg s r ⟨s, reply, none⟩
  | touched (reply : Reply) (key : String) (f : Node → Node)
      (hf : ∀ m, (f m).nodeKey = m.nodeKey) :
      Effect cfg s r ⟨{ s with static := touchFirst key f s.static }, reply, none⟩
  | refreshed (reply : Reply) {key : String} {holder : Node} (holder' : Node)
      (hfind : s.registered.find key = some holder) (hkey : holder'.nodeKey = holder.nodeKey) :
      Effect cfg s r ⟨{ s with registered := s.registered.put key holder' }, reply, none⟩
  | refused (reply : Reply) :
      Effect cfg s r ⟨{ s with rate := registerRate.purge r.now s.rate }, reply, none⟩
  | joined (reply : Reply) (m : Node) {d : Dict Node}
      (hroom : makeRoom cfg r.now m.nodeKey s.registered = some d)
      (hleft : registerRate.spent r.src (registerRate.purge r.now s.rate) = false) :
      Effect cfg s r
        ⟨{ s with
            registered := d.put m.nodeKey m
            rate := RateLimit.charge r.now r.src (registerRate.purge r.now s.rate) },
          reply, some m⟩

section

variable (cfg : Settings) (s : Registry) (r : Request) (b : Body)

lemma effect_join : Effect cfg s r (join cfg s r b) := by
  unfold join Registry.registerAdmit
  dsimp only
  by_cases hspent : registerRate.spent r.src (registerRate.purge r.now s.rate) = true
  · rw [if_pos hspent]
    exact .refused _
  · rw [if_neg hspent]
    cases hroom : makeRoom cfg r.now b.nodeKey s.registered with
    | none => exact .refused _
    | some d => exact .joined _ (newNode r b) hroom (Bool.eq_false_iff.mpr hspent)

lemma effect_registerStatic (static : Node) : Effect cfg s r (registerStatic s r b static) := by
  grind [registerStatic]

lemma effect_refresh {holder : Node} (hfind : s.registered.find b.nodeKey = some holder) :
    Effect cfg s r (refresh s r b holder) := by
  refine .refreshed _ _ hfind ?_
  split <;> rfl

lemma effect_register : Effect cfg s r (register cfg s r b) := by
  grind [register, effect_registerStatic, effect_refresh, effect_join]

lemma effect_verbRegister (py : Python) : Effect cfg s r (verbRegister cfg s r py) := by
  grind [verbRegister, effect_register]

end

/-! ## The table -/

namespace Registry

/-- The table is a bounded dictionary of members under their own keys. -/
structure Sound (s : Registry) : Prop where
  nodup : s.registered.keys.Nodup
  named : ∀ e ∈ s.registered, e.2.nodeKey = e.1
  bounded : s.registered.length ≤ registerMaxMembers

end Registry

variable {key : String} {m : Node}

lemma length_put_of_mem (h : key ∈ d.keys) : (d.put key m).length = d.length := by
  have hkeys : (d.put key m).keys.length = d.keys.length := by rw [Dict.keys_put_of_mem h]
  simpa [Dict.keys] using hkeys

lemma length_put_of_not_mem (h : key ∉ d.keys) : (d.put key m).length = d.length + 1 := by
  rw [Dict.put_of_not_mem h, length_append, length_singleton]

lemma keys_of_find (h : d.find key = some m) :
    key ∈ d.keys := mem_map.mpr ⟨_, Dict.mem_of_find h, rfl⟩

namespace Registry.Sound

variable {s : Registry} {r : Request} {out : Outcome}

lemma joined (h : s.Sound) {m : Node} {d : Dict Node} {rate : Dict (ℚ × ℕ)}
    (hroom : makeRoom cfg r.now m.nodeKey s.registered = some d) :
    Sound { s with registered := d.put m.nodeKey m, rate := rate } := by
  -- what is left of the table is part of it
  have hsub : d.Sublist s.registered := by
    grind [Registration.makeRoom_cases]
  refine ⟨Dict.nodup_put (h.nodup.sublist (hsub.map _)), ?_, ?_⟩
  · intro e he
    rcases Dict.mem_put he with rfl | he
    · rfl
    · exact h.named e (hsub.subset he)
  · have hbound := h.bounded
    rcases makeRoom_cases hroom with ⟨rfl, hmem | hlt⟩ | ⟨hnew, pre, e, post, heq, rfl, -⟩
    · exact (length_put_of_mem hmem).trans_le hbound
    · grind [Dict.keys, Registration.length_put_of_mem, Registration.length_put_of_not_mem]
    · have hnot : m.nodeKey ∉ Dict.keys (pre ++ post) := fun hin =>
        hnew ((hsub.map Prod.fst).subset hin)
      rw [heq, length_append, length_cons] at hbound
      change (Dict.put m.nodeKey m (pre ++ post)).length ≤ registerMaxMembers
      rw [length_put_of_not_mem hnot, length_append]
      omega

lemma effect (h : s.Sound) (he : Effect cfg s r out) : out.registry.Sound := by
  cases he with
  | unchanged reply => exact h
  | touched reply key f hf => exact ⟨h.nodup, h.named, h.bounded⟩
  | refreshed reply holder' hfind hkey =>
    refine ⟨Dict.nodup_put h.nodup, ?_, ?_⟩
    · intro e he
      rcases Dict.mem_put he with rfl | he
      · exact hkey.trans (h.named _ (Dict.mem_of_find hfind))
      · exact h.named e he
    · exact (length_put_of_mem (keys_of_find hfind)).trans_le h.bounded
  | refused reply => exact ⟨h.nodup, h.named, h.bounded⟩
  | joined reply m hroom hleft => exact h.joined hroom

end Registry.Sound

def Lapses (cfg : Settings) (s s' : Registry) (now : ℚ) : Prop :=
  ∀ key m, s.registered.find key = some m → s'.registered.find key = none → m.expired cfg now

variable {s : Registry}

lemma lapses_effect {r : Request} {out : Outcome}
    (he : Effect cfg s r out) : Lapses cfg s out.registry r.now := by
  intro key m hfind hgone
  cases he with
  | unchanged reply => exact absurd (hfind.symm.trans hgone) (by simp)
  | touched reply key f hf => exact absurd (hfind.symm.trans hgone) (by simp)
  | refused reply => exact absurd (hfind.symm.trans hgone) (by simp)
  | @refreshed reply key' holder holder' hfind' hkey =>
    by_cases hk : key = key'
    · subst hk
      exact absurd (Dict.find_put_self _ _ _) (by rw [hgone]; simp)
    · rw [Dict.find_put_of_ne _ _ hk] at hgone
      grind
  | @joined reply m' d hroom hleft =>
    have hk : key ≠ m'.nodeKey := by
      rintro rfl
      exact absurd (Dict.find_put_self _ _ _) (by rw [hgone]; simp)
    rw [Dict.find_put_of_ne _ _ hk] at hgone
    rcases makeRoom_cases hroom with ⟨rfl, -⟩ | ⟨-, pre, e, post, heq, rfl, hexp⟩
    · grind
    · rw [heq, Dict.find_append] at hfind
      rw [Dict.find_append, Option.or_eq_none_iff] at hgone
      obtain ⟨k, v⟩ := e
      rw [hgone.1, Option.none_or, Dict.find_cons, hgone.2] at hfind
      grind

/-! ## The membership -/

lemma keys_touchFirst {f : Node → Node} (hf : ∀ m, (f m).nodeKey = m.nodeKey)
    (l : List Node) : (touchFirst key f l).map Node.nodeKey = l.map Node.nodeKey := by
  induction l with
  | nil => rfl
  | cons m rest ih => grind

def Registry.configuredKeys (s : Registry) : List String := s.configured.map Node.nodeKey

lemma Registry.configuredKeys_eq (s : Registry) : s.configuredKeys =
    ((s.static.map Node.nodeKey).filter fun k => !s.runtimeRemoved.contains k) ++
      s.runtimeAdded.map Node.nodeKey := by
  rw [configuredKeys, configured, map_append, filter_map]
  rfl

lemma configuredKeys_effect {r : Request} {out : Outcome}
    (he : Effect cfg s r out) : out.registry.configuredKeys = s.configuredKeys := by
  grind [Registry.configuredKeys_eq, keys_touchFirst]

lemma Registry.Sound.nodup_members (h : s.Sound) :
    (s.members.map Node.nodeKey).Nodup ↔ s.configuredKeys.Nodup := by
  have hkeys : ((s.registered.filter fun e => !s.configuredKeys.contains e.1).map Prod.snd).map
      Node.nodeKey = s.registered.keys.filter fun k => !s.configuredKeys.contains k := by
    rw [Dict.keys, filter_map, map_map]
    refine map_congr_left fun e he => ?_
    exact h.named e (mem_filter.mp he).1
  rw [members, map_append]
  change (s.configuredKeys ++ ((s.registered.filter fun e =>
    !s.configuredKeys.contains e.1).map Prod.snd).map Node.nodeKey).Nodup ↔ _
  rw [hkeys, nodup_append]
  refine ⟨fun hn => hn.1, fun hn => ⟨hn, h.nodup.filter _, fun k hk k' hk' => ?_⟩⟩
  grind

/-! ## Runs -/

/-- The membership, the time of the last request, and the new keys with their sources and
times. -/
structure Ledger where
  registry : Registry
  clock : ℚ
  grants : List (String × ℚ) := []

namespace Ledger

variable (py : Python) (cfg : Settings) (s : Ledger)

def step (r : Request) : Ledger :=
  let out := verbRegister cfg s.registry r py
  { registry := out.registry
    clock := r.now
    grants := s.grants ++ (out.newMember.map fun _ => (r.src, r.now)).toList }

@[local grind]
def start (static added : List Node) (removed : List String) (clock : ℚ) : Ledger where
  registry := { static := static, runtimeAdded := added, runtimeRemoved := removed }
  clock := clock

def InOrder (r : Request) : Prop := s.clock ≤ r.now

def Roomy (_ : Request) : Prop := s.registry.rate.length ≤ registerRate.tableSize

variable {py cfg} {s : Ledger}

lemma rate_step (h : registerRate.Inv s.clock s.registry.rate s.grants) {r : Request}
    (hord : s.InOrder r) (hroom : s.Roomy r) :
    registerRate.Inv (s.step py cfg r).clock (s.step py cfg r).registry.rate
      (s.step py cfg r).grants := by
  have hlater := h.later hord
  have hpurged := hlater.purge hroom
  obtain ⟨dropped, -, -, hlive⟩ := hlater.purge_spec hroom
  grind [Registration.effect_verbRegister, Registration.Ledger.step, RateLimit.Inv.charge]

variable (py cfg)

/-- In every sequence of REGISTER requests the table stays within its limit, an entry
leaves it only when its lease has expired, and the membership names a key twice only if
the configuration does.  In the order of their times, and as long as the windows of all
sources fit in the table, the new keys of each source fall into windows that start
`REGISTER_RATE_WINDOW_SEC` apart, with at most `REGISTER_NEW_PER_SOURCE` in each. -/
theorem registration_bounds (static added : List Node) (removed : List String) (clock : ℚ)
    (requests : List Request) :
    let s₀ := start static added removed clock
    let s := run (step py cfg) s₀ requests
    s.registry.registered.length ≤ registerMaxMembers ∧
      Along (step py cfg) (fun s r => Lapses cfg s.registry (s.step py cfg r).registry r.now) s₀
        requests ∧
      ((s.registry.members.map Node.nodeKey).Nodup ↔ s₀.registry.configuredKeys.Nodup) ∧
      (Along (step py cfg) InOrder s₀ requests → Along (step py cfg) Roomy s₀ requests →
        ∀ src, ∃ last, registerRate.Windowed (RateLimit.timesOf src s.grants) last) := by
  intro s₀ s
  have heffect : ∀ (s : Ledger) (r : Request),
      Effect cfg s.registry r (verbRegister cfg s.registry r py) :=
    fun s r => effect_verbRegister cfg s.registry r py
  have hkept : s.registry.Sound ∧ s.registry.configuredKeys = s₀.registry.configuredKeys := by
    have hstep : ∀ (s : Ledger) (r : Request),
        (s.registry.Sound ∧ s.registry.configuredKeys = s₀.registry.configuredKeys) →
        (s.step py cfg r).registry.Sound ∧
          (s.step py cfg r).registry.configuredKeys = s₀.registry.configuredKeys :=
      fun s r h => ⟨h.1.effect (heffect s r), (configuredKeys_effect (heffect s r)).trans h.2⟩
    refine run_of_step (step py cfg) hstep requests s₀ ⟨⟨?_, ?_, ?_⟩, rfl⟩
    · exact nodup_nil
    all_goals grind
  refine ⟨hkept.1.bounded, ?_, ?_, ?_⟩
  · exact along_of_forall _ (fun s r => lapses_effect (heffect s r)) requests s₀
  · rw [hkept.1.nodup_members, hkept.2]
  · intro hord hroom src
    have hrate : ∀ (requests : List Request) (s : Ledger),
        registerRate.Inv s.clock s.registry.rate s.grants →
        Along (step py cfg) InOrder s requests → Along (step py cfg) Roomy s requests →
        registerRate.Inv (run (step py cfg) s requests).clock
          (run (step py cfg) s requests).registry.rate (run (step py cfg) s requests).grants := by
      intro requests
      induction requests with
      | nil => exact fun s h _ _ => h
      | cons r rest ih =>
        rintro s h ⟨hr, hrest⟩ ⟨hroom, hrooms⟩
        exact ih _ (rate_step h hr hroom) hrest hrooms
    exact (hrate requests s₀ (RateLimit.Inv.nil clock) hord hroom).exists_windowed src

def strangers : Net := ⟨fun _ => false, fun _ => [], fun _ => false, fun _ => false⟩

def announce (now : ℚ) (n : ℕ) : Request where
  src := "10.0.0.1"
  now := now
  net := strangers
  body := some (.obj [("node_key", .str ("host:" ++ toString n)), ("instance_id", .int n),
    ("register_interval_sec", .int 3600)])

def announcements : List Request := (List.range 16).map (announce 0) ++ [announce 60 16]

def heldBy (cfg : Settings) (s : Ledger) (src : String) : List Node :=
  (s.registry.registered.map Prod.snd).filter fun m =>
    decide (m.addr = some src) && !m.expired cfg s.clock

def configuredNode : Node where
  nodeKey := "host:0"
  instanceId := 0
  host := "host"
  connectHost := "host"

/-- A source holds more unexpired keys than one window allows, and a configured list with
a key in it twice gives a membership with two members of that key. -/
theorem many_keys_and_two_of_one :
    (heldBy {} (run (step Python.ascii {}) (start [] [] [] 0) announcements) "10.0.0.1").length = 17 ∧
      registerRate.perKey = 16 ∧
      (start [configuredNode, configuredNode] [] [] 0).registry.members.map Node.nodeKey =
        ["host:0", "host:0"] := by decide +kernel

end Ledger

end Registration

end HeimdallDaq.Federation
