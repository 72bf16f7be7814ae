import Virp.Library.Machine
import Virp.Python

/-! # TACACS+ command authorization

A router asks, for each command, whether the gate may run it.  The decision is a
function of a policy of grants; a grant that permits a command is decremented, in memory
and on disk, before anybody else can see it.  The decision is then chained, and only a
decision that was chained is answered with a PASS.

Requests are served by threads of one process.  What one of them does between two points
where another may interfere, or the process may die, is one event here.
-/
namespace Virp

open Machine

variable (U : PyText)

def canonicalCommand (text : PyStr) : PyStr :=
  let t := U.strip (text.filter (· ≠ '\r'))
  let t := if "<cr>".toList.isSuffixOf t then t.take (t.length - 4) else t
  joinWords (U.split t)

def isTypeChar (c : Char) : Bool := c.isAlpha || c = '-'

/-- `[A-Za-z][A-Za-z-]*`, all of it. -/
def isInterfaceType (s : PyStr) : Bool := (s.head?.any Char.isAlpha) && s.all isTypeChar

/-- `\d[\d/.:]*`, all of it. -/
def isUnit (s : PyStr) : Bool :=
  s.head?.any U.isDecimal && s.all (fun c => U.isDecimal c || c = '/' || c = '.' || c = ':')

/-- `_UNIT_SPLIT`: an interface type and its unit, written together. -/
def unitSplit (s : PyStr) : Option (PyStr × PyStr) :=
  let type := s.takeWhile isTypeChar
  let unit := s.dropWhile isTypeChar
  if isInterfaceType type && isUnit U unit then some (type, unit) else none

/-- The loop of `command_spellings`: the other spelling of the first `interface`. -/
def respell : List PyStr → Option (List PyStr)
  | [] => none
  | t :: rest =>
    if U.lower t ≠ "interface".toList then (respell rest).map (t :: ·)
    else match rest with
    | [] => none
    | next :: rest =>
      match unitSplit U next with
      | some (type, unit) => some (t :: type :: unit :: rest)
      | none =>
        match rest with
        | unit :: rest =>
          if isInterfaceType next && isUnit U unit then some (t :: (next ++ unit) :: rest) else none
        | [] => none

def commandSpellings (command : PyStr) : List PyStr :=
  let base := canonicalCommand U command
  base :: ((respell U (U.split base)).map joinWords).toList

/-! ## The decision -/

inductive AuthStatus where
  | passAdd | fail | error
deriving DecidableEq, Repr

/-- A grant of the policy.  An absent text is the empty one, as an absent number is 0:
Python takes both for false. -/
structure Grant where
  grantId : PyStr
  user : PyStr
  device : PyStr
  command : PyStr
  acceptedSpellings : List PyStr
  notBeforeNs : Int
  notAfterNs : Int
  usesRemaining : Int
deriving DecidableEq

/-- What keeps a matching grant from being used. -/
inductive GrantFault where
  | notYetValid (id : PyStr)
  | expired (id : PyStr)
  | spent (id : PyStr)
deriving DecidableEq

/-- The reason sent and recorded with a decision. -/
inductive AuthReason where
  | doRefused (command : PyStr)
  | alwaysPermitted (command : PyStr)
  | readAllowlist
  | notOnAllowlist (command : PyStr)
  | notGateIdentity (user : PyStr)
  | noGrantForUser (command device user : PyStr) (users : List PyStr)
  | noGrantForDevice (command device : PyStr) (devices : List PyStr)
  | noGrant (command device : PyStr)
  | grant (id : PyStr)
  | faults (l : List GrantFault)
  | notReserved (id : PyStr)
  | cleartext
  | unknownSource
  | didNotParse
  | noCommand
  | notRecorded
deriving DecidableEq

/-- The spellings a grant accepts. -/
def Grant.accepted (g : Grant) : List PyStr :=
  if g.acceptedSpellings = [] then commandSpellings U g.command else g.acceptedSpellings

def grantMatches (g : Grant) (device user command : PyStr) : Bool :=
  user ≠ [] && g.user == user && g.device == device && decide (command ∈ g.accepted U)

/-- `is_do_command`, of a canonical command. -/
def isDoCommand (command : PyStr) : Bool :=
  match U.split (canonicalCommand U command) with
  | [] => false
  | t :: _ => decide (U.lower t ∈ ["do".toList, "do-exec".toList])

def always : List PyStr :=
  ["exit".toList, "quit".toList, "end".toList, "terminal length 0".toList]

def roPermitted : List PyStr :=
  ["show version".toList, "show ip interface brief".toList, "show ip route".toList,
   "show ip protocols".toList, "show users".toList, "show inventory".toList, "show clock".toList,
   "show sessions".toList, "show cdp neighbors".toList, "show processes cpu".toList,
   "show memory statistics".toList]

def gateIdentityRo : PyStr := "virp-ro".toList

def gateIdentities : List PyStr := [gateIdentityRo, "virp-rw".toList]

/-- The loop over the matching grants: the first that is valid and not spent. -/
def chooseGrant (nowNs : Int) : List Grant → List GrantFault → Grant ⊕ List GrantFault
  | [], faults => .inr faults
  | g :: rest, faults =>
    if nowNs < g.notBeforeNs then chooseGrant nowNs rest (faults ++ [.notYetValid g.grantId])
    else if g.notAfterNs < nowNs then chooseGrant nowNs rest (faults ++ [.expired g.grantId])
    else if g.usesRemaining ≤ 0 then chooseGrant nowNs rest (faults ++ [.spent g.grantId])
    else .inl g

/-- A decision, and the grant it rests on, if any. -/
structure Decision where
  status : AuthStatus
  reason : AuthReason
  grantId : PyStr
deriving DecidableEq

/-- A denial. -/
def denied (status : AuthStatus) (reason : AuthReason) : Decision := ⟨status, reason, []⟩

variable (grants : List Grant)

/-- Why no grant matches. -/
def missReason (device user cmd : PyStr) : AuthReason :=
  let byCmd := grants.filter (fun g => canonicalCommand U g.command == cmd)
  let byUser := byCmd.filter (fun g => g.user ≠ user)
  if byUser ≠ [] then .noGrantForUser cmd device user (byUser.map (·.user))
  else if byCmd ≠ [] then .noGrantForDevice cmd device (byCmd.map (·.device))
  else .noGrant cmd device

def authorize (device user command : PyStr) (nowNs : Int) : Decision :=
  let cmd := canonicalCommand U command
  if isDoCommand U cmd then denied .fail (.doRefused cmd)
  else if cmd ∈ always then ⟨.passAdd, .alwaysPermitted cmd, []⟩
  else if user = gateIdentityRo then
    if cmd ∈ roPermitted then ⟨.passAdd, .readAllowlist, []⟩ else denied .fail (.notOnAllowlist cmd)
  else if user ∉ gateIdentities then denied .fail (.notGateIdentity user)
  else
    let candidates := grants.filter (fun g => grantMatches U g device user cmd)
    if candidates = [] then denied .fail (missReason U grants device user cmd)
    else match chooseGrant nowNs candidates [] with
    | .inl g => ⟨.passAdd, .grant g.grantId, g.grantId⟩
    | .inr faults => denied .fail (.faults faults)

/-- The uses of the first grant of that id are replaced. -/
def updateUses (id : PyStr) (f : Int → Int) : List Grant → List Grant
  | [] => []
  | g :: rest =>
    if g.grantId = id then { g with usesRemaining := f g.usesRemaining } :: rest
    else g :: updateUses id f rest

/-- `consume`: one use less, if there is such a grant. -/
def consume (id : PyStr) : Option (List Grant) :=
  if grants.any (·.grantId == id) then some (updateUses id (fun n => max 0 (n - 1)) grants)
  else none

/-! ## The server -/

/-- What a request brings, after its header and body have been decoded. -/
structure AuthRequest where
  cleartextRefused : Bool
  device : Option PyStr
  malformed : Bool
  command : Option PyStr
  user : PyStr
  recvUtcNs : Int
deriving DecidableEq

/-- `GRANT_RESERVED`, `GRANT_SPENT`. -/
inductive Reservation where
  | reserved | spent
deriving DecidableEq, Repr

/-- Where a request is: decided on, ready to be answered with a decision, waiting to give
its reservation back because it could not be recorded, answered, or over. -/
inductive AuthStage where
  | decided (d : Decision)
  | ready (d : Decision)
  | unrecorded (d : Decision)
  | replied (d : Decision)
  | gone
deriving DecidableEq

/-- A request in a thread of the server. -/
structure AuthThread where
  request : AuthRequest
  stage : AuthStage
deriving DecidableEq

/-- A reply put on the wire, by the thread of that number. -/
structure WireReply where
  thread : Nat
  decision : Decision
deriving DecidableEq

/-- A chained record: the request of a thread and the decision on it. -/
structure AuthRecord where
  thread : Nat
  request : AuthRequest
  decision : Decision
deriving DecidableEq

/-- The server: the policy in memory and on disk, the reservations, the threads so far,
and what has been chained and sent. -/
structure AuthServer where
  policy : List Grant
  file : List Grant
  reservations : PyStr → Option Reservation
  threads : List AuthThread
  chain : List AuthRecord
  wire : List WireReply

/-- A server that has loaded a policy. -/
def AuthServer.start : AuthServer :=
  ⟨grants, grants, fun _ => none, [], [], []⟩

def AuthServer.setStage (s : AuthServer) (i : Nat) (stage : AuthStage) : AuthServer :=
  { s with threads := s.threads.modify i (fun t => { t with stage := stage }) }

/-- `authorize_and_reserve`: the server and the decision; `none` if the policy could not
be written, which ends the thread. -/
def authorizeAndReserve (s : AuthServer) (device user command : PyStr) (nowNs : Int)
    (written : Bool) : AuthServer × Option Decision :=
  let d := authorize U s.policy device user command nowNs
  if d.status = .passAdd ∧ d.grantId ≠ [] then
    match consume s.policy d.grantId with
    | none => (s, some (denied .fail (.notReserved d.grantId)))
    | some policy =>
      let s := { s with
        policy := policy
        reservations := fun id => if id = d.grantId then some .reserved else s.reservations id }
      if written then ({ s with file := policy }, some d) else (s, none)
  else (s, some d)

/-- The decision on a request. -/
def decideRequest (s : AuthServer) (r : AuthRequest) (written : Bool) :
    AuthServer × Option Decision :=
  if r.cleartextRefused then (s, some (denied .fail .cleartext))
  else match r.device with
  | none => (s, some (denied .error .unknownSource))
  | some device =>
    if r.malformed then (s, some (denied .error .didNotParse))
    else match r.command with
    | none => (s, some (denied .fail .noCommand))
    | some command => authorizeAndReserve U s device r.user command r.recvUtcNs written

/-- `release`: whether a use went back; `none` if the policy could not be written, which
ends the thread. -/
def release (s : AuthServer) (id : PyStr) (written : Bool) : AuthServer × Option Bool :=
  if id = [] ∨ s.reservations id ≠ some .reserved ∨ s.policy.any (·.grantId == id) = false then
    (s, some false)
  else
    let policy := updateUses id (· + 1) s.policy
    let s := { s with
      policy := policy
      reservations := fun x => if x = id then none else s.reservations x }
    if written then ({ s with file := policy }, some true) else (s, none)

/-- What happens in the server. -/
inductive AuthEvent where
  | request (r : AuthRequest) (written : Bool)
  | chained (i : Nat) (ok : Bool)
  | release (i : Nat) (written : Bool)
  | send (i : Nat)
  | spend (i : Nat)
  | die (i : Nat)
  | crash

/-- What is seen of it. -/
inductive AuthOutput where
  | silent
  | sent (reply : WireReply)
  | givenBack (i : Nat)
deriving DecidableEq

/-- One event.  A thread whose append failed answers with an error, after it has tried to
give its reservation back; the others answer with their decision. -/
def authStep (s : AuthServer) : AuthEvent → AuthServer × AuthOutput
  | .request r written =>
    match decideRequest U s r written with
    | (s, some d) => ({ s with threads := s.threads ++ [⟨r, .decided d⟩] }, .silent)
    | (s, none) => ({ s with threads := s.threads ++ [⟨r, .gone⟩] }, .silent)
  | .chained i ok =>
    match s.threads[i]? with
    | some ⟨r, .decided d⟩ =>
      if ok then
        ({ s.setStage i (.ready d) with chain := s.chain ++ [⟨i, r, d⟩] }, .silent)
      else (s.setStage i (.unrecorded d), .silent)
    | _ => (s, .silent)
  | .release i written =>
    match s.threads[i]? with
    | some ⟨_, .unrecorded d⟩ =>
      match release s d.grantId written with
      | (s, some back) =>
        (s.setStage i (.ready (denied .error .notRecorded)),
          if back then .givenBack i else .silent)
      | (s, none) => (s.setStage i .gone, .silent)
    | _ => (s, .silent)
  | .send i =>
    match s.threads[i]? with
    | some ⟨_, .ready d⟩ =>
      ({ s.setStage i (.replied d) with wire := s.wire ++ [⟨i, d⟩] }, .sent ⟨i, d⟩)
    | _ => (s, .silent)
  | .spend i =>
    match s.threads[i]? with
    | some ⟨_, .replied d⟩ =>
      let s := s.setStage i .gone
      if d.status = .passAdd ∧ d.grantId ≠ [] then
        ({ s with reservations := fun id =>
            if id = d.grantId then some .spent else s.reservations id }, .silent)
      else (s, .silent)
    | _ => (s, .silent)
  | .die i => (s.setStage i .gone, .silent)
  | .crash =>
    ({ s with
        policy := s.file
        reservations := fun _ => none
        threads := s.threads.map (fun t => { t with stage := .gone }) }, .silent)

end Virp
