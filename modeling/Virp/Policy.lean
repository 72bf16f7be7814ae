import Virp.Gate

/-! # The autonomy policy

A node may be run under a policy: a closed catalogue of operations, the principals
that may ask for them, and a journal of what was dispatched.  `virpPolicyClassify`
normalises a command and finds its operation, `virpPolicyCheck` asks whether the
caller may perform it, `virpPolicyReserve` commits a reservation to the journal
before anything is dispatched, and `virpPolicyFinish` closes it.
-/
namespace Virp

open Decimal List

/-! ## The catalogue -/

/-- `effect`: 0, 1, 2. -/
inductive Effect where
  | read | change | disruptive
deriving DecidableEq, Repr

/-- `virp_policy_action_t`. -/
structure PolicyAction where
  command : Field 512
  operation : Field 48
  resource : Field 96
  effect : Effect
  vlan : Nat
  ceiling : Tier
  uid : UInt32
  deviceId : UInt64
deriving DecidableEq

/-- The loop of `normalize`: what is left, what has been written, and whether a space
is owed. -/
def normalizeLoop : Bytes → Bytes → Bool → Option Bytes
  | [], out, _ => if out = [] then none else some out
  | c :: rest, out, space =>
    if c = 0x20 ∨ c = 0x09 then normalizeLoop rest out (if out = [] then space else true)
    -- control bytes, other than ASCII, and the metacharacters of a shell
    else if c < 33 ∨ 126 < c ∨ c ∈ ([0x3B, 0x7C, 0x26, 0x24, 0x60, 0x3C, 0x3E, 0x5C, 0x22, 0x27,
        0x7B, 0x7D, 0x5B, 0x5D, 0x21] : Bytes) then none
    else normalizeLoop rest (out ++ (if space then [0x20] else []) ++ [c]) false

def normalize (command : Bytes) : Option Bytes :=
  if 512 ≤ command.length then none else normalizeLoop command [] false

def isDigit (c : UInt8) : Bool := 0x30 ≤ c && c ≤ 0x39

/-- `strcasecmp(a, b) == 0`. -/
def eqIgnoreCase (a b : Bytes) : Bool := a.map toLower == b.map toLower

/-- `strstr`: the offset of the first occurrence. -/
def strstr (s pattern : Bytes) : Option Nat :=
  (List.range (s.length + 1)).find? (fun i => pattern.isPrefixOf (s.drop i))

theorem strstr_isSome_iff (s pattern : Bytes) : (strstr s pattern).isSome = true ↔ pattern <:+: s := by
  rw [strstr, find?_isSome]
  constructor
  · rintro ⟨i, -, hi⟩
    obtain ⟨r, hr⟩ := isPrefixOf_iff_prefix.mp hi
    exact ⟨s.take i, r, by rw [append_assoc, hr, take_append_drop]⟩
  rintro ⟨a, b, rfl⟩
  refine ⟨a.length, ?_, ?_⟩
  · simp only [mem_range, length_append]
    omega
  · rw [append_assoc, drop_left, isPrefixOf_iff_prefix]
    exact prefix_append _ _

variable (s : Bytes)

/-- `number`: a decimal without leading zeros, at most 100000000. -/
def policyNumber : Option Nat :=
  let value := s.foldl (fun x c => x * 10 + (c.toNat - 48)) 0
  if s = [] ∨ (s.head? = some 0x30 ∧ 1 < s.length) ∨ s.all isDigit = false ∨ 100000000 < value then
    none
  else some value

/-- The tail of `physical`: digits and slashes, no slash first, last or doubled. -/
def portNumber : Bytes → Bool → Bool
  | [], digit => digit
  | c :: rest, digit =>
    if isDigit c then portNumber rest true
    else if c = 0x2F ∧ digit = true then portNumber rest false
    else false

/-- `physical`: the name of a physical port. -/
def physical : Bool :=
  if (text "ethernet").isPrefixOf (s.map toLower) then portNumber (s.drop 8) false
  else if (text "gigabitethernet").isPrefixOf (s.map toLower) then portNumber (s.drop 15) false
  else false

/-- `%7s`, `%15s`: skip spaces, then up to that many other bytes. -/
def scanToken (width : Nat) (s : Bytes) : Bytes × Bytes :=
  let s := s.dropWhile (· == 0x20)
  let token := (s.takeWhile (· != 0x20)).take width
  (token, s.drop token.length)

/-- `sscanf(s, "%7s %15s %15s %c", ...) == 3`. -/
def scanThree : Option (Bytes × Bytes × Bytes) :=
  let tool := scanToken 7 s
  let verb := scanToken 15 tool.2
  let id := scanToken 15 verb.2
  if tool.1 = [] ∨ verb.1 = [] ∨ id.1 = [] ∨ id.2.dropWhile (· == 0x20) ≠ [] then none
  else some (tool.1, verb.1, id.1)

/-- The keywords of a CLI command in lower case; what follows `description` keeps its
case. -/
def lowerKeywords (command : Bytes) : Bytes :=
  let lower := command.map toLower
  let limit := match strstr lower (text " description ") with
    | some i => i + 13
    | none => lower.length
  lower.take limit ++ command.drop limit

variable (v : Vendor)

/-- The normalised command of `virp_policy_classify`. -/
def normalizeFor (command : Bytes) : Option Bytes :=
  (normalize command).map fun c =>
    let cisco := v = .ciscoIos ∨ v = .ciscoIosxe
    if cisco ∨ v = .ciscoAsa ∨ v = .juniper ∨ v = .fortinet then
      let c := lowerKeywords c
      if cisco ∧ (text "do ").isPrefixOf c then c.drop 3 else c
    else c

/-- An action before the check has filled in who asks. -/
def policyOp (command resource operation : Bytes) (effect : Effect) (vlan : Nat) : PolicyAction where
  command := .copy 512 command
  operation := .copy 48 operation
  resource := .copy 96 resource
  effect := effect
  vlan := vlan
  ceiling := .unclassified
  uid := 0
  deviceId := 0

/-- A vendor with a shell. -/
def isHost : Bool := v = .linux ∨ v = .proxmox ∨ v = .mock

/-- The reads of a whole system. -/
def isSystemRead (s : Bytes) : Bool :=
  (decide (v ∈ [.ciscoIos, .ciscoIosxe, .ciscoAsa, .juniper, .fortinet]) &&
    decide (s ∈ [text "show version", text "show clock", text "show interfaces",
      text "show interfaces status", text "show ip route"])) ||
  (decide (v = .fortinet) && s == text "get system status") ||
  (isHost v && decide (s ∈ [text "uptime", text "hostname", text "uname -sr"])) ||
  (decide (v = .mock) && s == text "show version")

/-- The reboots of a whole host. -/
def isHostReboot (s : Bytes) : Bool :=
  (decide (v ∈ [.ciscoIos, .ciscoIosxe]) && s == text "reload") ||
  (decide (v = .ciscoAsa) && s == text "reload noconfirm") ||
  (decide (v = .juniper) && s == text "request system reboot") ||
  (decide (v = .fortinet) && s == text "execute reboot") ||
  (isHost v && decide (s ∈ [text "reboot", text "systemctl reboot"]))

/-- `qm` and `pct`: operations on a virtual machine or a container. -/
def classifyVm : Option PolicyAction :=
  match scanThree s with
  | none => none
  | some (tool, verb, id) =>
    if tool ≠ text "qm" ∧ tool ≠ text "pct" then none
    else match policyNumber id with
    | none => none
    | some vmid =>
      let resource := (if tool = text "qm" then text "vm" else text "ct") ++ 0x3A :: unsigned vmid
      if vmid < 100 then none
      else if verb = text "status" then some (policyOp s resource (text "vm.read") .read 0)
      else if verb = text "reboot" then some (policyOp s resource (text "vm.reboot") .disruptive 0)
      else if verb = text "destroy" then some (policyOp s resource (text "vm.delete") .disruptive 0)
      else if verb = text "start" then some (policyOp s resource (text "vm.start") .change 0)
      else none

/-- `interface <port> <line>`: operations on a switch port. -/
def classifyPort : Option PolicyAction :=
  let after := s.drop 10
  let port := after.takeWhile (· != 0x20)
  if (text "interface ").isPrefixOf s = false ∨ port.length = after.length ∨ 80 ≤ port.length ∨
      physical port = false then none
  else
    let line := snprintfS 384 (after.drop (port.length + 1))
    let keyword := if (text "gigabitethernet").take 14 = (port.map toLower).take 14
      then text "GigabitEthernet" else text "Ethernet"
    let command := text "interface " ++ keyword ++ port.drop keyword.length ++ 0x20 :: line
    let resource := text "port:" ++ port
    if (text "description ").isPrefixOf line ∧ 12 < line.length ∧ line.length ≤ 12 + 128 then
      some (policyOp command resource (text "port.description") .change 0)
    else if (text "switchport access vlan ").isPrefixOf line ∧
        (policyNumber (line.drop 23)).any (fun n => 1 ≤ n ∧ n ≤ 4094) then
      some (policyOp command resource (text "port.vlan") .change ((policyNumber (line.drop 23)).getD 0))
    else if line = text "switchport mode access" then
      some (policyOp command resource (text "port.access") .change 0)
    else none

def virpPolicyClassify (command : Bytes) : Option PolicyAction :=
  match normalizeFor v command with
  | none => none
  | some s =>
    if isSystemRead v s then some (policyOp s (text "host") (text "system.read") .read 0)
    else if isHostReboot v s then some (policyOp s (text "host") (text "host.reboot") .disruptive 0)
    else if v = .linux ∨ v = .proxmox then classifyVm s
    else if v = .ciscoIos ∨ v = .ciscoIosxe then classifyPort s
    else none

/-! ## Principals and rules -/

/-- What a rule permits: an operation on a resource of a device. -/
structure PolicyRule where
  deviceId : Bytes
  host : Bytes
  port : Nat
  vendor : Nat
  operation : Bytes
  resource : Bytes
  vlanMin : Nat
  vlanMax : Nat

inductive Profile where
  | observe | supervised | autonomous
deriving DecidableEq, Repr

structure Principal where
  uid : UInt32
  profile : Profile
  expires : Int
  rules : List PolicyRule

/-- A resource nobody may change, and the reason given for refusing. -/
structure ProtectedResource where
  deviceId : Bytes
  resource : Bytes
  reason : Bytes

/-- `virp_policy_t` after `virp_policy_parse` has validated it, apart from the
journal. -/
structure Policy where
  maxCalls : Int
  maxDisruptive : Int
  maxInflight : Int
  principals : List Principal
  protectedResources : List ProtectedResource
  digest : Bytes
  startWall : Int
  startMono : Int

/-- The ceiling a profile works under. -/
def Profile.ceiling : Profile → Tier
  | .observe => .green
  | .supervised => .yellow
  | .autonomous => .red

/-- `"%016llx"` of a device id. -/
def deviceIdHex (id : UInt64) : Bytes := hexEncode (putBe64 id.toNat)

/-- The protected resource is, or covers, what the action touches. -/
def ProtectedResource.covers (x : ProtectedResource) (a : PolicyAction) : Bool :=
  x.deviceId == deviceIdHex a.deviceId &&
    (x.resource == text "*" || eqIgnoreCase x.resource (text "host") ||
      eqIgnoreCase a.resource.bytes x.resource ||
      (a.effect = .disruptive && a.resource.bytes == text "host"))

def PolicyRule.matchesAction (r : PolicyRule) (d : Device) (a : PolicyAction) : Bool :=
  r.deviceId == deviceIdHex a.deviceId && r.host == d.host.bytes && r.port == d.port.toNat &&
    r.vendor == d.vendor.code && r.operation == a.operation.bytes &&
    eqIgnoreCase a.resource.bytes r.resource

/-- The loop over the principals.  The first matching rule of the caller decides. -/
def checkPrincipals (d : Device) (now : Int) (a : PolicyAction) :
    List Principal → Except Bytes PolicyAction
  | [] => .error (text "BLACK-13")
  | x :: rest =>
    if x.uid ≠ a.uid then checkPrincipals d now a rest
    else if x.expires ≤ now then .error (text "BLACK-13")
    else if x.profile = .observe ∧ a.effect ≠ .read then .error (text "BLACK-13")
    else match x.rules.find? (·.matchesAction d a) with
    | none => checkPrincipals d now { a with ceiling := x.profile.ceiling } rest
    | some r =>
      if a.vlan ≠ 0 ∧ (a.vlan < r.vlanMin ∨ r.vlanMax < a.vlan) then .error (text "BLACK-09")
      else .ok { a with ceiling := x.profile.ceiling }

variable (p : Policy)

/-- `virp_policy_check`: the action, or the reason for refusing it. -/
def virpPolicyCheck (uid : UInt32) (d : Device) (command : Bytes) (now : Int) :
    Except Bytes PolicyAction :=
  if d.enabled = false ∨ uid = internalUid then .error (text "BLACK-13")
  else match virpPolicyClassify d.vendor command with
  | none => .error (text "BLACK-13")
  | some a =>
    let a := { a with uid := uid, deviceId := d.deviceId }
    match (if a.effect = .read then none else p.protectedResources.find? (·.covers a)) with
    | some x => .error x.reason
    | none => checkPrincipals d now a p.principals

/-! ## The journal -/

inductive AttemptState where
  | pending | done | unknown
deriving DecidableEq, Repr

/-- A row of `policy_attempts`. -/
structure Attempt where
  id : Nat
  uid : UInt32
  deviceId : UInt64
  operation : Bytes
  resource : Bytes
  command : Bytes
  policyHash : Bytes
  state : AttemptState
  created : Int
deriving DecidableEq

/-- The row of `policy_control`, and `policy_attempts`. -/
structure Journal where
  stopped : Bool
  calls : Int
  disruptive : Int
  lastTime : Int
  attempts : List Attempt
  nextId : Nat
deriving DecidableEq

/-- The clocks a reservation reads, and which of its statements fail.  `ROLLBACK` undoes
what an open transaction wrote. -/
structure PolicyEnv where
  now : Int
  mono : Int
  clockFails : Bool
  beginFails : Bool
  queryFails : Bool
  overlapPrepareFails : Bool
  overlapStepFails : Bool
  insertFails : Bool
  updateFails : Bool
  commitFails : Bool

/-- The operations of the catalogue that change nothing. -/
def readOperations : List Bytes := [text "system.read", text "vm.read"]

/-- The two touch the same thing: one resource, or the whole host. -/
def Attempt.overlaps (x : Attempt) (a : PolicyAction) : Bool :=
  x.deviceId == a.deviceId &&
    (eqIgnoreCase x.resource a.resource.bytes || x.resource == text "host" ||
      a.resource.bytes == text "host")

/-- An attempt that stands in the way of a change: an uncertain change anywhere, or a
pending one on the same resource. -/
def Attempt.blocks (x : Attempt) (a : PolicyAction) : Bool :=
  (x.state = .unknown && !decide (x.operation ∈ readOperations)) ||
    (x.state = .pending && x.overlaps a)

/-- The row of a reservation. -/
def newAttempt (a : PolicyAction) (now : Int) (id : Nat) : Attempt where
  id := id
  uid := a.uid
  deviceId := a.deviceId
  operation := a.operation.bytes
  resource := a.resource.bytes
  command := a.command.bytes
  policyHash := p.digest
  state := .pending
  created := now

/-- How many attempts may still be running. -/
def Journal.pending (j : Journal) : Nat := (j.attempts.filter (·.state = .pending)).length

/-- What a reservation commits: the attempt, and the counters that go with it. -/
def Journal.grant (a : PolicyAction) (now : Int) (j : Journal) : Journal :=
  { j with
    calls := j.calls + 1
    disruptive := j.disruptive + if a.effect = .disruptive then 1 else 0
    lastTime := now
    attempts := j.attempts ++ [newAttempt p a now j.nextId]
    nextId := j.nextId + 1 }

/-- `virp_policy_reserve`: the journal and the ticket, or the reason for refusing. -/
def virpPolicyReserve (env : PolicyEnv) (j : Journal) (a : PolicyAction) :
    Except Bytes (Journal × Nat) :=
  if env.beginFails ∨ env.queryFails then .error (text "BLACK-10")
  else if env.clockFails ∨ env.now < p.startWall + (env.mono - p.startMono) - 1 then
    .error (text "BLACK-13")
  else if p.principals.any (fun x => x.uid == a.uid && decide (env.now < x.expires)) = false ∨
      env.now < j.lastTime then .error (text "BLACK-13")
  else if j.stopped then .error (text "BLACK-01")
  else if p.maxCalls ≤ j.calls ∨ (a.effect = .disruptive ∧ p.maxDisruptive ≤ j.disruptive) then
    .error (text "BLACK-12")
  else if p.maxInflight ≤ (j.pending : Int) then .error (text "BLACK-06")
  else if a.effect ≠ .read ∧ env.overlapPrepareFails then .error (text "BLACK-10")
  else if a.effect ≠ .read ∧ (env.overlapStepFails ∨ j.attempts.any (·.blocks a)) then
    .error (text "BLACK-14")
  else if env.insertFails ∨ env.updateFails ∨ env.commitFails then .error (text "BLACK-10")
  else .ok (j.grant p a env.now, j.nextId)

/-- `virp_policy_finish`: the journal, if a pending attempt was closed. -/
def virpPolicyFinish (fails : Bool) (j : Journal) (ticket : Nat) (known : Bool) : Option Journal :=
  if fails ∨ j.attempts.any (fun x => x.id == ticket && x.state = .pending) = false then none
  else some { j with attempts := j.attempts.map (fun x =>
    if x.id = ticket ∧ x.state = .pending then
      { x with state := if known then .done else .unknown }
    else x) }

/-- `virp_policy_load`: what a former process left pending may have been acted on. -/
def Journal.reload (j : Journal) : Journal :=
  { j with attempts := j.attempts.map (fun x =>
    if x.state = .pending then { x with state := .unknown } else x) }

/-- What a granted reservation found, and what it committed. -/
structure Reserved (p : Policy) (env : PolicyEnv) (j : Journal) (a : PolicyAction)
    (j' : Journal) (ticket : Nat) : Prop where
  journal_eq : j' = j.grant p a env.now
  ticket_eq : ticket = j.nextId
  calls_lt : j.calls < p.maxCalls
  disruptive_lt : a.effect = .disruptive → j.disruptive < p.maxDisruptive
  inflight_lt : (j.pending : Int) < p.maxInflight
  clear : a.effect ≠ .read → ∀ x ∈ j.attempts, x.blocks a = false

theorem virpPolicyReserve_reserved {p : Policy} {env : PolicyEnv} {j j' : Journal}
    {a : PolicyAction} {ticket : Nat} (h : virpPolicyReserve p env j a = .ok (j', ticket)) :
    Reserved p env j a j' ticket := by
  unfold virpPolicyReserve at h
  iterate 4
    split at h
    · cases h
  split at h
  · cases h
  rename_i hbudget
  split at h
  · cases h
  rename_i hinflight
  split at h
  · cases h
  split at h
  · cases h
  rename_i hclear
  split at h
  · cases h
  obtain ⟨rfl, rfl⟩ := Prod.mk.inj (Except.ok.inj h)
  obtain ⟨hcalls, hdis⟩ := not_or.mp hbudget
  refine ⟨rfl, rfl, Int.not_le.mp hcalls, fun he => Int.not_le.mp fun hle => hdis ⟨he, hle⟩,
    Int.not_le.mp hinflight, fun he => ?_⟩
  have hany := (not_or.mp fun hor => hclear ⟨he, hor⟩).2
  simpa using hany

end Virp
