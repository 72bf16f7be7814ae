import Virp.Errors
import Virp.Crypto

/-! # The client session

The daemon holds at most one session.  A HELLO starts it, a BIND that repeats the
nonces makes it active, a CLOSE, a restart or idleness ends it; whoever looks at the
session first lets it expire.  After an end the next HELLO makes a new one, under a
new random id.
-/
namespace Virp

/-- `virp_session_state_t`, as far as the daemon's side of the handshake uses it. -/
inductive SessionState where
  | disconnected | negotiated | bound | active
deriving DecidableEq, Repr

/-- `virp_session_t`, apart from the keys and the transcript. -/
structure SessionCtx where
  state : SessionState
  sessionId : Bytes
  clientNonce : Bytes
  serverNonce : Bytes
  clientId : Field 64
  serverId : Field 64
  lastSeq : UInt64
  helloAckSentAtNs : UInt64
  lastActivityNs : UInt64
  generation : UInt64
  sessionKeyValid : Bool
deriving DecidableEq

/-- `virp_session_hello_t`. -/
structure Hello where
  clientId : Field 64
  versions : List UInt8
  algorithms : List UInt8
  clientNonce : Bytes

/-- `virp_session_bind_t`. -/
structure Bind where
  sessionId : Bytes
  clientId : Field 64
  serverId : Field 64
  clientNonce : Bytes
  serverNonce : Bytes

namespace SessionCtx

/-- `virp_session_init`. -/
def init (serverId : Field 64) : SessionCtx where
  state := .disconnected
  sessionId := List.replicate 16 0
  clientNonce := List.replicate 8 0
  serverNonce := List.replicate 8 0
  clientId := .empty 64
  serverId := serverId
  lastSeq := 0
  helloAckSentAtNs := 0
  lastActivityNs := 0
  generation := 0
  sessionKeyValid := false

variable (ctx : SessionCtx)

/-- `virp_session_reset`: everything but the server's name is cleared. -/
def reset : SessionCtx :=
  { init ctx.serverId with generation := ctx.generation + 1 }

/-- `virp_session_check_timeouts`: 30 seconds for a BIND, 5 minutes of idleness. -/
def checkTimeouts (now : UInt64) (ctx : SessionCtx) : SessionCtx :=
  if ctx.state = .negotiated ∧ 30 * 1000000000 < now - ctx.helloAckSentAtNs then ctx.reset
  else if ctx.state = .active ∧ 0 < ctx.lastActivityNs ∧
      300 * 1000000000 < now - ctx.lastActivityNs then ctx.reset
  else ctx

/-- `virp_session_require_active`. -/
def isActive : Bool := ctx.state = .active

/-- An active session with a derived key. -/
def ready : Bool := ctx.isActive && ctx.sessionKeyValid

/-- The protocol version the daemon picks, 0 for none: the first 2, else a 1. -/
def selectVersion (versions : List UInt8) : UInt8 :=
  if (versions.take 8).contains 2 then 2 else if (versions.take 8).contains 1 then 1 else 0

/-- `virp_handle_hello`.  `random` is what the generator yields: a session id and a
nonce. -/
def handleHello (now : UInt64) (random : Option (Bytes × Bytes)) (hello : Hello)
    (ctx : SessionCtx) : SessionCtx × Option VirpError :=
  if ctx.state = .active ∨ ctx.state = .bound then (ctx, some .sessionInvalid)
  else if selectVersion hello.versions = 0 then (ctx.reset, some .versionMismatch)
  -- HMAC-SHA256 is algorithm 1
  else if (hello.algorithms.take 8).contains 1 = false then (ctx.reset, some .algorithmMismatch)
  else match random with
  | none => (ctx.reset, some .crypto)
  | some (sessionId, serverNonce) =>
    ({ ctx.reset with
        state := .negotiated
        sessionId := sessionId
        clientNonce := hello.clientNonce
        serverNonce := serverNonce
        clientId := hello.clientId
        helloAckSentAtNs := now }, none)

/-- `virp_handle_session_bind`, then `virp_session_derive_key`. -/
def handleBind (keyFails : Bool) (bind : Bind) (ctx : SessionCtx) : SessionCtx × Option VirpError :=
  if ctx.state ≠ .negotiated then (ctx, some .sessionInvalid)
  else if bind.sessionId ≠ ctx.sessionId ∨ bind.clientNonce ≠ ctx.clientNonce ∨
      bind.serverNonce ≠ ctx.serverNonce then (ctx, some .contextMismatch)
  else if bind.clientId ≠ ctx.clientId ∨ bind.serverId ≠ ctx.serverId then
    (ctx, some .contextMismatch)
  else if keyFails then ({ ctx with state := .bound }, some .crypto)
  else ({ ctx with state := .active, sessionKeyValid := true }, none)

/-- The hex of the id of an active session. -/
def hex : Option Bytes :=
  if ctx.isActive then some (hexEncode ctx.sessionId) else none

end SessionCtx

end Virp
