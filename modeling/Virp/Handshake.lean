import Virp.Library.Machine
import Virp.Gate
import Virp.Session

/-! # The handshake and its key

The whole of a session, with its transcript and key.  A HELLO clears the session and
negotiates, a BIND that repeats what was negotiated completes the transcript, and the
session key is derived from the transcript's hash and the generation of the session.
Any of the calls may come at any time, and be refused or fail half-way.
-/
namespace Virp

open Machine List UInt64

variable (C : Crypto)

/-- `virp_session_hello_t`. -/
structure SessionHello where
  msgType : UInt8
  clientId : Blob 64
  versions : Blob 8
  versionCount : UInt8
  algorithms : Blob 8
  algorithmCount : UInt8
  supportedChannels : UInt32
  clientNonce : Blob 8
  timestampNs : UInt64
deriving DecidableEq

/-- `virp_session_hello_ack_t`. -/
structure SessionHelloAck where
  msgType : UInt8
  serverId : Blob 64
  selectedVersion : UInt8
  selectedAlgorithm : UInt8
  acceptedChannels : UInt32
  sessionId : Blob 16
  clientNonce : Blob 8
  serverNonce : Blob 8
  timestampNs : UInt64
deriving DecidableEq

/-- `virp_session_bind_t`. -/
structure SessionBind where
  msgType : UInt8
  sessionId : Blob 16
  clientId : Blob 64
  serverId : Blob 64
  clientNonce : Blob 8
  serverNonce : Blob 8
  timestampNs : UInt64
deriving DecidableEq

def serializeHello (h : SessionHello) : Bytes :=
  putBe32 103 ++ [h.msgType] ++ h.clientId.bytes ++ h.versions.bytes ++ [h.versionCount] ++
    h.algorithms.bytes ++ [h.algorithmCount] ++ putBe32 h.supportedChannels.toNat ++
    h.clientNonce.bytes ++ putBe64 h.timestampNs.toNat

def serializeHelloAck (a : SessionHelloAck) : Bytes :=
  putBe32 111 ++ [a.msgType] ++ a.serverId.bytes ++ [a.selectedVersion] ++ [a.selectedAlgorithm] ++
    putBe32 a.acceptedChannels.toNat ++ a.sessionId.bytes ++ a.clientNonce.bytes ++
    a.serverNonce.bytes ++ putBe64 a.timestampNs.toNat

def serializeSessionBind (b : SessionBind) : Bytes :=
  putBe32 169 ++ [b.msgType] ++ b.sessionId.bytes ++ b.clientId.bytes ++ b.serverId.bytes ++
    b.clientNonce.bytes ++ b.serverNonce.bytes ++ putBe64 b.timestampNs.toNat

/-! ## The session -/

/-- `virp_session_t`. -/
structure VirpSession where
  state : SessionState
  sessionId : Blob 16
  clientNonce : Blob 8
  serverNonce : Blob 8
  selectedVersion : UInt8
  selectedAlgorithm : UInt8
  clientId : Blob 64
  serverId : Blob 64
  establishedAtNs : UInt64
  lastSeq : UInt64
  helloAckSentAtNs : UInt64
  lastActivityNs : UInt64
  generation : UInt64
  sessionKey : Digest
  transcriptHash : Digest
  sessionKeyValid : Bool
  transcript : Bytes
deriving DecidableEq

/-- A C string in 64 bytes: cut to 63 of them, then zeros. -/
def idBlob (b : Bytes) : Blob 64 where
  bytes := (cstr b).take 63 ++ List.replicate (64 - ((cstr b).take 63).length) 0
  length_eq := by
    have := List.length_take_le 63 (cstr b)
    simp only [List.length_append, List.length_replicate]
    omega

/-- The first 63 bytes, and a zero. -/
def terminated (b : Blob 64) : Blob 64 where
  bytes := b.bytes.take 63 ++ [0]
  length_eq := by simp [b.length_eq]

def sessionInit (serverId : Bytes) : VirpSession where
  state := .disconnected
  sessionId := .fill 16 0
  clientNonce := .fill 8 0
  serverNonce := .fill 8 0
  selectedVersion := 0
  selectedAlgorithm := 0
  clientId := .fill 64 0
  serverId := idBlob serverId
  establishedAtNs := 0
  lastSeq := 0
  helloAckSentAtNs := 0
  lastActivityNs := 0
  generation := 0
  sessionKey := zeroDigest
  transcriptHash := zeroDigest
  sessionKeyValid := false
  transcript := []

def sessionReset (s : VirpSession) : VirpSession :=
  { sessionInit s.serverId.bytes with generation := s.generation + 1 }

/-- `virp_transcript_append`: what does not fit is dropped, and the callers do not look
at the result. -/
def transcriptAppend (s : VirpSession) (data : Bytes) : VirpSession :=
  if 2048 < s.transcript.length + data.length then s
  else { s with transcript := s.transcript ++ data }

/-- What the generator and the clock yield during a HELLO.  A call that fails leaves
something in its buffer. -/
structure HelloEnv where
  sessionId : Blob 16
  sessionIdOk : Bool
  serverNonce : Blob 8
  serverNonceOk : Bool
  negotiatedAt : UInt64
  ackAt : UInt64

/-- The version a HELLO negotiates, 0 for none. -/
def SessionHello.version (h : SessionHello) : UInt8 :=
  SessionCtx.selectVersion (h.versions.bytes.take h.versionCount.toNat)

/-- The HELLO names HMAC-SHA256. -/
def SessionHello.algorithmOk (h : SessionHello) : Bool :=
  (h.algorithms.bytes.take h.algorithmCount.toNat).contains 1

/-- The session a HELLO negotiates, before the transcript. -/
def negotiate (s : VirpSession) (h : SessionHello) (env : HelloEnv) : VirpSession :=
  { sessionReset s with
    sessionId := env.sessionId
    serverNonce := env.serverNonce
    clientNonce := h.clientNonce
    selectedVersion := h.version
    selectedAlgorithm := 1
    clientId := terminated h.clientId
    state := .negotiated
    helloAckSentAtNs := env.negotiatedAt }

/-- The answer to a HELLO. -/
def helloAckOf (s : VirpSession) (env : HelloEnv) : SessionHelloAck where
  msgType := 0x41
  serverId := s.serverId
  selectedVersion := s.selectedVersion
  selectedAlgorithm := 1
  acceptedChannels := if 2 ≤ s.selectedVersion then 3 else 1
  sessionId := s.sessionId
  clientNonce := s.clientNonce
  serverNonce := s.serverNonce
  timestampNs := env.ackAt

def virpHandleHello (s : VirpSession) (h : SessionHello) (env : HelloEnv) :
    VirpSession × Except VirpError SessionHelloAck :=
  if s.state = .active ∨ s.state = .bound then (s, .error .sessionInvalid)
  else if h.version = 0 then (sessionReset s, .error .versionMismatch)
  else if h.algorithmOk = false then (sessionReset s, .error .algorithmMismatch)
  else if env.sessionIdOk = false then
    ({ sessionReset s with sessionId := env.sessionId }, .error .crypto)
  else if env.serverNonceOk = false then
    ({ sessionReset s with sessionId := env.sessionId, serverNonce := env.serverNonce },
      .error .crypto)
  else
    let n := negotiate s h env
    let ack := helloAckOf n env
    (transcriptAppend (transcriptAppend n (serializeHello h)) (serializeHelloAck ack), .ok ack)

/-- What a BIND has to repeat.  Identities are compared as C strings. -/
def SessionBind.matchesSession (b : SessionBind) (s : VirpSession) : Bool :=
  b.sessionId == s.sessionId && b.clientNonce == s.clientNonce && b.serverNonce == s.serverNonce &&
    cstr b.clientId.bytes == cstr s.clientId.bytes && cstr b.serverId.bytes == cstr s.serverId.bytes

def virpHandleSessionBind (s : VirpSession) (b : SessionBind) :
    VirpSession × Except VirpError Unit :=
  if s.state ≠ .negotiated then (s, .error .sessionInvalid)
  else if b.matchesSession s = false then (s, .error .contextMismatch)
  else
    let t := transcriptAppend s (serializeSessionBind b)
    ({ t with transcriptHash := C.sha256 t.transcript, state := .bound }, .ok ())

/-- `virp_hkdf_sha256`, for the lengths the session uses. -/
def hkdfSha256 (ikm salt info : Bytes) : Digest := C.hmac (C.hmac salt ikm).bytes (info ++ [1])

/-- How a derivation goes: which HMAC fails, and what a failed one leaves. -/
structure DeriveEnv where
  extractFails : Bool
  expandFails : Bool
  leftover : Digest
  now : UInt64

def virpSessionDeriveKey (s : VirpSession) (masterKey : Digest) (env : DeriveEnv) :
    VirpSession × Except VirpError Unit :=
  if s.state ≠ .bound then (s, .error .sessionInvalid)
  else if env.extractFails then (s, .error .crypto)
  else if env.expandFails then ({ s with sessionKey := env.leftover }, .error .crypto)
  else
    ({ s with
        sessionKey := hkdfSha256 C masterKey.bytes s.transcriptHash.bytes
          (putBe64 s.generation.toNat)
        sessionKeyValid := true
        state := .active
        establishedAtNs := env.now }, .ok ())

/-- Signing an observation: the daemon takes the next number and the signer notes the
time. -/
def signActivity (s : VirpSession) (now : UInt64) : VirpSession × Except VirpError Unit :=
  if s.state ≠ .active then (s, .error .sessionInvalid)
  else if s.sessionKeyValid = false then (s, .error .keyNotLoaded)
  else ({ s with lastSeq := s.lastSeq + 1, lastActivityNs := now }, .ok ())

/-- An observation that cannot be signed, because its command has no hash or the HMAC fails:
number and time have been noted by then. -/
def signAttempt (s : VirpSession) (now : UInt64) (err : VirpError) :
    VirpSession × Except VirpError Unit :=
  match signActivity s now with
  | (s, .ok ()) => (s, .error err)
  | (s, .error err) => (s, .error err)

def virpSessionCheckTimeouts (s : VirpSession) (now : UInt64) :
    VirpSession × Except VirpError Unit :=
  if s.state = .negotiated ∧ 30 * 1000000000 < now - s.helloAckSentAtNs then
    (sessionReset s, .error .sessionInvalid)
  else if s.state = .active ∧ 0 < s.lastActivityNs ∧ 300 * 1000000000 < now - s.lastActivityNs then
    (sessionReset s, .error .sessionInvalid)
  else (s, .ok ())

/-- The calls on a session.  `reset` is also `virp_handle_session_close` and
`virp_session_on_disconnect`. -/
inductive SessionOp where
  | hello (h : SessionHello) (env : HelloEnv)
  | bind (b : SessionBind)
  | derive (masterKey : Digest) (env : DeriveEnv)
  | sign (now : UInt64)
  | signFails (now : UInt64) (err : VirpError)
  | checkTimeouts (now : UInt64)
  | reset

/-- What a call returns. -/
inductive SessionAnswer where
  | acked (ack : SessionHelloAck)
  | ok
  | failed (err : VirpError)
deriving DecidableEq

def SessionAnswer.ofResult : Except VirpError Unit → SessionAnswer
  | .ok () => .ok
  | .error err => .failed err

def sessionStep (s : VirpSession) : SessionOp → VirpSession × SessionAnswer
  | .hello h env =>
    match virpHandleHello s h env with
    | (s, .ok ack) => (s, .acked ack)
    | (s, .error err) => (s, .failed err)
  | .bind b => ((virpHandleSessionBind C s b).1, .ofResult (virpHandleSessionBind C s b).2)
  | .derive key env =>
    ((virpSessionDeriveKey C s key env).1, .ofResult (virpSessionDeriveKey C s key env).2)
  | .sign now => ((signActivity s now).1, .ofResult (signActivity s now).2)
  | .signFails now err => ((signAttempt s now err).1, .ofResult (signAttempt s now err).2)
  | .checkTimeouts now =>
    ((virpSessionCheckTimeouts s now).1, .ofResult (virpSessionCheckTimeouts s now).2)
  | .reset => (sessionReset s, .ok)

/-- The call cleared the session: a reset, a timeout, or a HELLO that was not refused
outright. -/
def isReset : SessionOp × SessionAnswer → Bool
  | (.reset, _) => true
  | (.checkTimeouts _, answer) => answer ≠ .ok
  | (.hello _ _, answer) => answer ≠ .failed .sessionInvalid
  | _ => false

/-- A past in which the calls `marks` were made one after the other, with no reset after
the first of them. -/
inductive Since : List (SessionOp × SessionAnswer) → List (SessionOp × SessionAnswer) → Prop
  | start (past : List (SessionOp × SessionAnswer)) (x : SessionOp × SessionAnswer) :
      Since (past ++ [x]) [x]
  | idle {past marks : List (SessionOp × SessionAnswer)} {x : SessionOp × SessionAnswer}
      (h : Since past marks) (hx : isReset x = false) : Since (past ++ [x]) marks
  | next {past marks : List (SessionOp × SessionAnswer)} {x : SessionOp × SessionAnswer}
      (h : Since past marks) (hx : isReset x = false) : Since (past ++ [x]) (marks ++ [x])

/-! ## The invariant -/

/-- What a HELLO and its answer left in the session. -/
structure Negotiated (s : VirpSession) (h : SessionHello) (a : SessionHelloAck) : Prop where
  sessionId_eq : s.sessionId = a.sessionId
  clientNonce_eq : s.clientNonce = h.clientNonce
  serverNonce_eq : s.serverNonce = a.serverNonce
  clientId_eq : s.clientId = terminated h.clientId
  serverId_eq : s.serverId = a.serverId

/-- The BIND carries what was negotiated. -/
structure Carries (b : SessionBind) (h : SessionHello) (a : SessionHelloAck) : Prop where
  sessionId_eq : b.sessionId = a.sessionId
  clientNonce_eq : b.clientNonce = h.clientNonce
  serverNonce_eq : b.serverNonce = a.serverNonce
  clientId_eq : cstr b.clientId.bytes = cstr (terminated h.clientId).bytes
  serverId_eq : cstr b.serverId.bytes = cstr a.serverId.bytes

variable {h : SessionHello} {s' : VirpSession} {past : List (SessionOp × SessionAnswer)}

variable {a : SessionHelloAck} {b : SessionBind} {env : HelloEnv}

/-- A BIND that passes the comparison carries what was negotiated. -/
theorem Negotiated.carries {s : VirpSession} (hn : Negotiated s h a)
    (hm : b.matchesSession s = true) : Carries b h a := by
  simp only [SessionBind.matchesSession, Bool.and_eq_true, beq_iff_eq] at hm
  obtain ⟨⟨⟨⟨hsid, hcn⟩, hsn⟩, hcid⟩, hserver⟩ := hm
  refine ⟨hsid.trans hn.sessionId_eq, hcn.trans hn.clientNonce_eq, hsn.trans hn.serverNonce_eq,
    ?_, ?_⟩
  · rw [hcid, hn.clientId_eq]
  · rw [hserver, hn.serverId_eq]

/-- The messages a session key is bound to. -/
def transcriptOf (h : SessionHello) (a : SessionHelloAck) (b : SessionBind) : Bytes :=
  serializeHello h ++ serializeHelloAck a ++ serializeSessionBind b

/-- The past explains the state. -/
def Explained (s : VirpSession) (past : List (SessionOp × SessionAnswer)) : Prop :=
  match s.state with
  | .disconnected => s.sessionKeyValid = false
  | .negotiated => s.sessionKeyValid = false ∧ ∃ h env a, Since past [(.hello h env, .acked a)] ∧
      Negotiated s h a ∧ s.transcript = serializeHello h ++ serializeHelloAck a
  | .bound => s.sessionKeyValid = false ∧ ∃ h env a b,
      Since past [(.hello h env, .acked a), (.bind b, .ok)] ∧ Carries b h a ∧
      s.transcriptHash = C.sha256 (transcriptOf h a b)
  | .active => s.sessionKeyValid = true ∧ ∃ h env a b key denv,
      Since past [(.hello h env, .acked a), (.bind b, .ok), (.derive key denv, .ok)] ∧
      Carries b h a ∧ s.sessionKey = hkdfSha256 C key.bytes (C.sha256 (transcriptOf h a b)).bytes
        (putBe64 s.generation.toNat)

variable {C} {s : VirpSession}

theorem length_serializeHello (h : SessionHello) : (serializeHello h).length = 107 := by
  simp [serializeHello, putBe32, putBe64, h.clientId.length_eq, h.versions.length_eq,
    h.algorithms.length_eq, h.clientNonce.length_eq]

theorem length_serializeHelloAck (a : SessionHelloAck) : (serializeHelloAck a).length = 115 := by
  simp [serializeHelloAck, putBe32, putBe64, a.serverId.length_eq, a.sessionId.length_eq,
    a.clientNonce.length_eq, a.serverNonce.length_eq]

theorem length_serializeSessionBind (b : SessionBind) : (serializeSessionBind b).length = 173 := by
  simp [serializeSessionBind, putBe32, putBe64, b.sessionId.length_eq, b.clientId.length_eq,
    b.serverId.length_eq, b.clientNonce.length_eq, b.serverNonce.length_eq]

theorem transcriptAppend_fits {data : Bytes} (h : s.transcript.length + data.length ≤ 2048) :
    transcriptAppend s data = { s with transcript := s.transcript ++ data } := if_neg (by omega)

/-- A reset leaves nothing to explain. -/
theorem explained_reset (s : VirpSession) (past : List (SessionOp × SessionAnswer)) :
    Explained C (sessionReset s) past := rfl

/-- A call that neither resets nor changes what the past explains is part of a longer
past. -/
theorem Explained.idle (h : Explained C s past) {x : SessionOp × SessionAnswer}
    (hx : isReset x = false)
    (hs : s' = { s with lastSeq := s'.lastSeq, lastActivityNs := s'.lastActivityNs }) :
    Explained C s' (past ++ [x]) := by
  rw [hs]
  unfold Explained at h ⊢
  simp only
  cases hst : s.state with
  | disconnected => simpa [hst] using h
  | negotiated =>
    rw [hst] at h
    obtain ⟨hv, hello, env, a, hsince, hn, ht⟩ := h
    exact ⟨hv, hello, env, a, hsince.idle hx,
      ⟨hn.sessionId_eq, hn.clientNonce_eq, hn.serverNonce_eq, hn.clientId_eq, hn.serverId_eq⟩, ht⟩
  | bound =>
    rw [hst] at h
    obtain ⟨hv, hello, env, a, b, hsince, hrest⟩ := h
    exact ⟨hv, hello, env, a, b, hsince.idle hx, hrest⟩
  | active =>
    rw [hst] at h
    obtain ⟨hv, hello, env, a, b, key, denv, hsince, hrest⟩ := h
    exact ⟨hv, hello, env, a, b, key, denv, hsince.idle hx, hrest⟩

/-! ## One step -/

/-- What a HELLO that is answered leaves behind. -/
theorem virpHandleHello_ok (hh : virpHandleHello s h env = (s', .ok a)) :
    s'.state = .negotiated ∧ s'.sessionKeyValid = false ∧ s'.generation = s.generation + 1 ∧
      a.sessionId = env.sessionId ∧ Negotiated s' h a ∧
      s'.transcript = serializeHello h ++ serializeHelloAck a := by
  unfold virpHandleHello at hh
  iterate 5
    split at hh
    · cases (Prod.mk.inj hh).2
  obtain ⟨rfl, ha⟩ := Prod.mk.inj hh
  cases ha
  have hempty : (negotiate s h env).transcript = [] := rfl
  have hfirst := length_serializeHello h
  have hsecond := length_serializeHelloAck (helloAckOf (negotiate s h env) env)
  have hfits : transcriptAppend (negotiate s h env) (serializeHello h) = _ :=
    transcriptAppend_fits (by rw [hempty]; simp; omega)
  rw [hfits, transcriptAppend_fits (by simp only [hempty, nil_append]; omega)]
  exact ⟨rfl, rfl, rfl, rfl, ⟨rfl, rfl, rfl, rfl, rfl⟩, by simp [hempty]⟩

/-- A HELLO that is not answered was refused, or cleared the session. -/
theorem virpHandleHello_error {err : VirpError} (hh : virpHandleHello s h env = (s', .error err)) :
    (s' = s ∧ err = .sessionInvalid) ∨
      (s'.state = .disconnected ∧ s'.sessionKeyValid = false ∧ s'.generation = s.generation + 1 ∧
        err ≠ .sessionInvalid) := by
  unfold virpHandleHello at hh
  split at hh
  · obtain ⟨rfl, he⟩ := Prod.mk.inj hh
    exact .inl ⟨rfl, (Except.error.inj he).symm⟩
  iterate 4
    split at hh
    · obtain ⟨rfl, he⟩ := Prod.mk.inj hh
      cases he
      exact .inr ⟨rfl, rfl, rfl, by decide⟩
  cases (Prod.mk.inj hh).2

/-- **A BIND that is accepted** carries what was negotiated. -/
theorem virpHandleSessionBind_cases (s : VirpSession) (b : SessionBind) :
    (∃ err, virpHandleSessionBind C s b = (s, .error err)) ∨
      (s.state = .negotiated ∧ b.matchesSession s = true ∧ virpHandleSessionBind C s b =
          ({ transcriptAppend s (serializeSessionBind b) with
            transcriptHash := C.sha256 (transcriptAppend s (serializeSessionBind b)).transcript
            state := .bound }, .ok ())) := by
  unfold virpHandleSessionBind
  split
  · exact .inl ⟨_, rfl⟩
  rename_i hst
  split
  · exact .inl ⟨_, rfl⟩
  · rename_i hm
    exact .inr ⟨not_not.mp hst, by simpa using hm, rfl⟩

theorem virpSessionDeriveKey_cases (s : VirpSession) (key : Digest) (env : DeriveEnv) :
    (∃ err k, virpSessionDeriveKey C s key env = ({ s with sessionKey := k }, .error err) ∧
      (k = s.sessionKey ∨ s.state = .bound)) ∨
      (s.state = .bound ∧ virpSessionDeriveKey C s key env =
        ({ s with
            sessionKey := hkdfSha256 C key.bytes s.transcriptHash.bytes
              (putBe64 s.generation.toNat)
            sessionKeyValid := true
            state := .active
            establishedAtNs := env.now }, .ok ())) := by
  unfold virpSessionDeriveKey
  split
  · exact .inl ⟨_, s.sessionKey, rfl, .inl rfl⟩
  rename_i hst
  have hst := not_not.mp hst
  split
  · exact .inl ⟨_, s.sessionKey, rfl, .inl rfl⟩
  · split
    · exact .inl ⟨_, env.leftover, rfl, .inr hst⟩
    · exact .inr ⟨hst, rfl⟩

theorem signActivity_eq (s : VirpSession) (now : UInt64) : (signActivity s now).1 = { s with
      lastSeq := (signActivity s now).1.lastSeq
      lastActivityNs := (signActivity s now).1.lastActivityNs } := by
  unfold signActivity
  split
  · rfl
  · split <;> rfl

theorem signAttempt_fst (s : VirpSession) (now : UInt64) (err : VirpError) :
    (signAttempt s now err).1 = (signActivity s now).1 := by
  unfold signAttempt
  split <;> simp_all

theorem virpSessionCheckTimeouts_cases (s : VirpSession) (now : UInt64) :
    virpSessionCheckTimeouts s now = (s, .ok ()) ∨
      ∃ err, virpSessionCheckTimeouts s now = (sessionReset s, .error err) := by
  unfold virpSessionCheckTimeouts
  split
  · exact .inr ⟨_, rfl⟩
  · split
    · exact .inr ⟨_, rfl⟩
    · exact .inl rfl

theorem explained_of_disconnected (hst : s.state = .disconnected) (hv : s.sessionKeyValid = false) :
    Explained C s past := by
  unfold Explained
  rw [hst]
  exact hv

/-- A BIND fits behind the HELLO and its answer. -/
theorem bind_fits {h : SessionHello} {a : SessionHelloAck}
    (ht : s.transcript = serializeHello h ++ serializeHelloAck a) :
    s.transcript.length + (serializeSessionBind b).length ≤ 2048 := by
  rw [ht, length_append, length_serializeHello, length_serializeHelloAck,
    length_serializeSessionBind]
  decide

/-- An accepted BIND completes the transcript. -/
theorem Explained.bind (h : Explained C s past) (hst : s.state = .negotiated)
    (hm : b.matchesSession s = true) :
    Explained C { transcriptAppend s (serializeSessionBind b) with
      transcriptHash := C.sha256 (transcriptAppend s (serializeSessionBind b)).transcript
      state := .bound } (past ++ [(.bind b, .ok)]) := by
  unfold Explained at h ⊢
  rw [hst] at h
  obtain ⟨hv, hello, env, a, hsince, hn, ht⟩ := h
  rw [transcriptAppend_fits (bind_fits ht)]
  refine ⟨hv, hello, env, a, b, hsince.next rfl, hn.carries hm, ?_⟩
  simp only [ht]
  rfl

/-- **Every call keeps the past an explanation of the state.** -/
theorem explained_step (s : VirpSession) (past : List (SessionOp × SessionAnswer)) (op : SessionOp)
    (h : Explained C s past) :
    Explained C (sessionStep C s op).1 (past ++ [(op, (sessionStep C s op).2)]) := by
  cases op with
  | hello hello env =>
    simp only [sessionStep]
    cases hh : virpHandleHello s hello env with
    | mk s' r =>
      cases r with
      | ok a =>
        obtain ⟨hst, hv, -, -, hn, ht⟩ := virpHandleHello_ok hh
        unfold Explained
        simp only [hst]
        exact ⟨hv, hello, env, a, .start _ _, hn, ht⟩
      | error err =>
        rcases virpHandleHello_error hh with ⟨rfl, rfl⟩ | ⟨hst, hv, -, -⟩
        · exact h.idle rfl rfl
        · exact explained_of_disconnected hst hv
  | bind b =>
    rcases virpHandleSessionBind_cases (C := C) s b with ⟨err, he⟩ | ⟨hst, hm, he⟩
    · simp only [sessionStep, he]
      exact h.idle rfl rfl
    · simp only [sessionStep, he]
      exact h.bind hst hm
  | derive key env =>
    rcases virpSessionDeriveKey_cases (C := C) s key env with ⟨err, k, he, hk⟩ | ⟨hst, he⟩
    · simp only [sessionStep, he]
      rcases hk with rfl | hst
      · exact h.idle rfl rfl
      -- a failed derivation leaves its bytes in a key that is not valid
      unfold Explained at h ⊢
      simp only [hst] at h ⊢
      obtain ⟨hv, hello, henv, a, b, hsince, hrest⟩ := h
      exact ⟨hv, hello, henv, a, b, hsince.idle rfl, hrest⟩
    · simp only [sessionStep, he]
      unfold Explained at h ⊢
      simp only [hst] at h ⊢
      obtain ⟨-, hello, henv, a, b, hsince, hc, hhash⟩ := h
      exact ⟨trivial, hello, henv, a, b, key, env, hsince.next rfl, hc, by rw [hhash]⟩
  | sign now => exact h.idle rfl (signActivity_eq s now)
  | signFails now err =>
    simp only [sessionStep, signAttempt_fst]
    exact h.idle rfl (signActivity_eq s now)
  | checkTimeouts now =>
    rcases virpSessionCheckTimeouts_cases s now with he | ⟨err, he⟩
    · simp only [sessionStep, he]
      exact h.idle rfl rfl
    · simp only [sessionStep, he]
      exact explained_reset s _
  | reset => exact explained_reset s _

theorem explained_run (serverId : Bytes) (ops : List SessionOp) :
    Explained C (final (sessionStep C) (sessionInit serverId) ops)
      (trace (sessionStep C) (sessionInit serverId) ops) :=
  invariant (I := Explained C) (explained_of_disconnected rfl rfl) explained_step ops

/-- A call leaves the generation alone, or clears the session and counts one more. -/
theorem generation_step (s : VirpSession) (op : SessionOp) :
    (isReset (op, (sessionStep C s op).2) = false ∧
        (sessionStep C s op).1.generation = s.generation ∧
        (s.state = .active → (sessionStep C s op).1.state = .active)) ∨
      (isReset (op, (sessionStep C s op).2) = true ∧
        (sessionStep C s op).1.generation = s.generation + 1) := by
  cases op with
  | hello hello env =>
    simp only [sessionStep]
    cases hh : virpHandleHello s hello env with
    | mk s' r =>
      cases r with
      | ok a =>
        obtain ⟨-, -, hgen, -⟩ := virpHandleHello_ok hh
        exact .inr ⟨by simp [isReset], hgen⟩
      | error err =>
        rcases virpHandleHello_error hh with ⟨rfl, rfl⟩ | ⟨-, -, hgen, hne⟩
        · exact .inl ⟨rfl, rfl, id⟩
        · exact .inr ⟨by simp [isReset, hne], hgen⟩
  | bind b =>
    rcases virpHandleSessionBind_cases (C := C) s b with ⟨err, he⟩ | ⟨hst, -, he⟩
    · exact .inl ⟨rfl, by simp only [sessionStep, he], by simp only [sessionStep, he]; exact id⟩
    · refine .inl ⟨rfl, ?_, fun hact => by rw [hst] at hact; cases hact⟩
      simp only [sessionStep, he, transcriptAppend]
      split <;> rfl
  | derive key env =>
    rcases virpSessionDeriveKey_cases (C := C) s key env with ⟨err, k, he, -⟩ | ⟨hst, he⟩
    · exact .inl ⟨rfl, by simp only [sessionStep, he], by simp only [sessionStep, he]; exact id⟩
    · exact .inl ⟨rfl, by simp only [sessionStep, he], fun _ => by simp only [sessionStep, he]⟩
  | sign now =>
    have heq : (sessionStep C s (.sign now)).1 = _ := signActivity_eq s now
    exact .inl ⟨rfl, by rw [heq], fun hact => by rw [heq]; exact hact⟩
  | signFails now err =>
    have heq : (sessionStep C s (.signFails now err)).1 = _ :=
      (signAttempt_fst s now err).trans (signActivity_eq s now)
    exact .inl ⟨rfl, by rw [heq], fun hact => by rw [heq]; exact hact⟩
  | checkTimeouts now =>
    rcases virpSessionCheckTimeouts_cases s now with he | ⟨err, he⟩
    · refine .inl ⟨?_, ?_, ?_⟩ <;> simp [sessionStep, he, isReset, SessionAnswer.ofResult]
    · refine .inr ⟨?_, ?_⟩ <;>
        simp [sessionStep, he, isReset, SessionAnswer.ofResult, sessionReset]
  | reset => exact .inr ⟨rfl, rfl⟩

/-- The generation counts at most the calls. -/
theorem generation_le (ops : List SessionOp) (h : s.generation.toNat + ops.length < 2 ^ 64) :
    s.generation.toNat ≤ (final (sessionStep C) s ops).generation.toNat ∧
      (final (sessionStep C) s ops).generation.toNat ≤ s.generation.toNat + ops.length := by
  induction ops generalizing s with
  | nil => exact ⟨le_rfl, le_rfl⟩
  | cons op ops ih =>
    simp only [length_cons] at h ⊢
    have hnext := toNat_add_one (t := s.generation) (by omega)
    rcases generation_step (C := C) s op with ⟨-, hg, -⟩ | ⟨-, hg⟩
    · have := ih (s := (sessionStep C s op).1) (by rw [hg]; omega)
      rw [hg] at this
      exact ⟨this.1, by simp only [final_cons]; omega⟩
    · have := ih (s := (sessionStep C s op).1) (by rw [hg]; omega)
      rw [hg] at this
      exact ⟨by simp only [final_cons]; omega, by simp only [final_cons]; omega⟩

/-- An active session that is no longer active has a later generation. -/
theorem active_or_later (hs : s.state = .active) (ops : List SessionOp)
    (h : s.generation.toNat + ops.length < 2 ^ 64) :
    ((final (sessionStep C) s ops).state = .active ∧
        (final (sessionStep C) s ops).generation = s.generation) ∨
      s.generation < (final (sessionStep C) s ops).generation := by
  induction ops generalizing s with
  | nil => exact .inl ⟨hs, rfl⟩
  | cons op ops ih =>
    simp only [length_cons] at h
    have hnext := toNat_add_one (t := s.generation) (by omega)
    rcases generation_step (C := C) s op with ⟨-, hg, hact⟩ | ⟨-, hg⟩
    · have := ih (hact hs) (by rw [hg]; omega)
      rwa [hg] at this
    · refine .inr ?_
      have := (generation_le (C := C) (s := (sessionStep C s op).1) ops (by rw [hg]; omega)).1
      rw [hg] at this
      rw [lt_iff_toNat_lt, final_cons]
      omega

/-- An active session stays active until something clears it. -/
theorem active_or_reset (hs : s.state = .active) (ops : List SessionOp) :
    (final (sessionStep C) s ops).state = .active ∨
      ∃ x ∈ trace (sessionStep C) s ops, isReset x = true := by
  induction ops generalizing s with
  | nil => exact .inl hs
  | cons op ops ih =>
    rcases generation_step (C := C) s op with ⟨-, -, hact⟩ | ⟨hreset, -⟩
    · exact (ih (hact hs)).imp_right fun ⟨x, hx, h⟩ => ⟨x, mem_cons_of_mem _ hx, h⟩
    · exact .inr ⟨_, mem_cons_self, hreset⟩

/-- A transcript contains the session id. -/
theorem sessionId_of_transcript {h' : SessionHello} {a' : SessionHelloAck} {b' : SessionBind}
    (heq : transcriptOf h a b = transcriptOf h' a' b') : a.sessionId = a'.sessionId := by
  unfold transcriptOf at heq
  rw [append_assoc, append_assoc] at heq
  have hack : serializeHelloAck a = serializeHelloAck a' :=
    append_inj_left (append_inj_right heq (by rw [length_serializeHello, length_serializeHello]))
      (by rw [length_serializeHelloAck, length_serializeHelloAck])
  unfold serializeHelloAck at hack
  -- the nonces and the time stand behind it
  have hnonces := append_inj_left' (append_inj_left' (append_inj_left' hack rfl)
    (by rw [a.serverNonce.length_eq, a'.serverNonce.length_eq]))
    (by rw [a.clientNonce.length_eq, a'.clientNonce.length_eq])
  have hid := append_inj_right' hnonces (by rw [a.sessionId.length_eq, a'.sessionId.length_eq])
  exact (Blob.mk.injEq ..).mpr hid

theorem derive_ok {key : Digest} {env : DeriveEnv} (h : (sessionStep C s (.derive key env)).2 = .ok) :
    s.state = .bound ∧ (sessionStep C s (.derive key env)).1.state = .active ∧
      (sessionStep C s (.derive key env)).1.generation = s.generation := by
  rcases virpSessionDeriveKey_cases (C := C) s key env with ⟨err, k, he, -⟩ | ⟨hst, he⟩
  · simp only [sessionStep, he] at h
    cases h
  · exact ⟨hst, by simp only [sessionStep, he], by simp only [sessionStep, he]⟩

/-! ## The protocol -/

/-- **The handshake over any run.**  A session is active, with a valid key, only after a
HELLO, a BIND that carries what was negotiated and a derivation, with no reset since the
HELLO, and its key is bound to exactly these three messages and the generation; a refused
BIND changes nothing; as long as the counter of 64 bits has not come round, a call
that clears the session raises its generation, and two activations never share one; and
however long the run is, two activations have HELLOs of their own, and share a transcript
only if they share the session id. -/
theorem session_key_of_run (serverId : Bytes) (ops : List SessionOp) :
    let s := final (sessionStep C) (sessionInit serverId) ops
    let past := trace (sessionStep C) (sessionInit serverId) ops
    (s.state = .active ∨ s.sessionKeyValid = true → s.state = .active ∧ s.sessionKeyValid = true ∧
      ∃ h env a b key denv,
        Since past [(.hello h env, .acked a), (.bind b, .ok), (.derive key denv, .ok)] ∧
        Carries b h a ∧ s.sessionKey = hkdfSha256 C key.bytes
          (C.sha256 (serializeHello h ++ serializeHelloAck a ++ serializeSessionBind b)).bytes
          (putBe64 s.generation.toNat)) ∧
    (∀ b err, (sessionStep C s (.bind b)).2 = .failed err → (sessionStep C s (.bind b)).1 = s) ∧
    (∀ op, ops.length + 1 < 2 ^ 64 → isReset (op, (sessionStep C s op).2) = true →
      s.generation < (sessionStep C s op).1.generation) ∧
    (∀ before key₁ env₁ between, ops = before ++ .derive key₁ env₁ :: between →
      ops.length + 1 < 2 ^ 64 →
      (sessionStep C (final (sessionStep C) (sessionInit serverId) before)
        (.derive key₁ env₁)).2 = .ok →
      ∀ key₂ env₂, (sessionStep C s (.derive key₂ env₂)).2 = .ok →
        (final (sessionStep C) (sessionInit serverId) before).generation < s.generation) ∧
    (∀ before key₁ env₁ between, ops = before ++ .derive key₁ env₁ :: between →
      let s₁ := final (sessionStep C) (sessionInit serverId) before
      (sessionStep C s₁ (.derive key₁ env₁)).2 = .ok →
      ∀ key₂ env₂, (sessionStep C s (.derive key₂ env₂)).2 = .ok →
        (∃ x ∈ trace (sessionStep C) (sessionStep C s₁ (.derive key₁ env₁)).1 between,
          isReset x = true) ∧
        ∃ h₁ e₁ a₁ b₁ h₂ e₂ a₂ b₂,
          Since (trace (sessionStep C) (sessionInit serverId) before)
            [(.hello h₁ e₁, .acked a₁), (.bind b₁, .ok)] ∧
          s₁.transcriptHash = C.sha256 (transcriptOf h₁ a₁ b₁) ∧
          Since past [(.hello h₂ e₂, .acked a₂), (.bind b₂, .ok)] ∧
          s.transcriptHash = C.sha256 (transcriptOf h₂ a₂ b₂) ∧
          (transcriptOf h₁ a₁ b₁ = transcriptOf h₂ a₂ b₂ → a₁.sessionId = a₂.sessionId)) := by
  intro s past
  have hexp : Explained C s past := explained_run serverId ops
  have hzero : (sessionInit serverId).generation.toNat = 0 := rfl
  refine ⟨?_, ?_, ?_, ?_, ?_⟩
  · intro hactive
    unfold Explained at hexp
    cases hst : s.state with
    | active =>
      rw [hst] at hexp
      exact ⟨rfl, hexp⟩
    | disconnected => simp_all
    | negotiated => simp_all
    | bound => simp_all
  · intro b err hfail
    rcases virpHandleSessionBind_cases (C := C) s b with ⟨_, he⟩ | ⟨-, -, he⟩
    · simp only [sessionStep, he]
    · simp only [sessionStep, he] at hfail
      cases hfail
  · intro op hlen hreset
    have hgen : s.generation.toNat ≤ _ :=
      (generation_le (C := C) (s := sessionInit serverId) ops (by omega)).2
    rcases generation_step (C := C) s op with ⟨hno, -⟩ | ⟨-, hg⟩
    · rw [hno] at hreset
      cases hreset
    · have hnext := toNat_add_one (t := s.generation) (by omega)
      rw [hg, lt_iff_toNat_lt, hnext]
      omega
  · rintro before key₁ env₁ between rfl hlen hok₁ key₂ env₂ hok₂
    simp only [length_append, length_cons] at hlen
    obtain ⟨-, hactive, hsame⟩ := derive_ok hok₁
    have hbefore := (generation_le (C := C) (s := sessionInit serverId) before (by omega)).2
    have hlater := active_or_later (C := C) hactive between (by rw [hsame]; omega)
    have hs : s = final (sessionStep C) (sessionStep C (final (sessionStep C)
        (sessionInit serverId) before) (.derive key₁ env₁)).1 between := by simp [s]
    rw [← hs, hsame] at hlater
    rcases hlater with ⟨hst, -⟩ | hlt
    · rw [(derive_ok hok₂).1] at hst
      cases hst
    · exact hlt
  · rintro before key₁ env₁ between rfl s₁ hok₁ key₂ env₂ hok₂
    have hbound₁ := (derive_ok hok₁).1
    have hbound₂ := (derive_ok hok₂).1
    constructor
    · have hs : s = final (sessionStep C) (sessionStep C s₁ (.derive key₁ env₁)).1 between := by
        simp [s, s₁]
      rcases active_or_reset (C := C) (derive_ok hok₁).2.1 between with hst | hreset
      · rw [← hs, hbound₂] at hst
        cases hst
      · exact hreset
    · have hexp₁ : Explained C s₁ _ := explained_run serverId before
      unfold Explained at hexp hexp₁
      rw [hbound₁] at hexp₁
      rw [hbound₂] at hexp
      obtain ⟨-, h₁, e₁, a₁, b₁, hsince₁, -, htext₁⟩ := hexp₁
      obtain ⟨-, h₂, e₂, a₂, b₂, hsince₂, -, htext₂⟩ := hexp
      exact ⟨h₁, e₁, a₁, b₁, h₂, e₂, a₂, b₂, hsince₁, htext₁, hsince₂, htext₂,
        sessionId_of_transcript⟩

namespace HandshakeSample

def crypto : Crypto := .known [] [] [] []

def clientId : Blob 64 := idBlob (text "agent")

def hello : SessionHello :=
  ⟨0x40, clientId, .fill 8 2, 1, .fill 8 1, 1, 3, .fill 8 7, 1000⟩

def helloEnv : HelloEnv := ⟨.fill 16 9, true, .fill 8 5, true, 1001, 1002⟩

def bind : SessionBind :=
  ⟨0x42, .fill 16 9, clientId, idBlob (text "node"), .fill 8 7, .fill 8 5, 1003⟩

/-- A HELLO whose nonce cannot be drawn, one that is answered, a BIND with a wrong nonce,
a good one, a derivation that fails and one that does not. -/
def ops : List SessionOp :=
  [.hello hello { helloEnv with serverNonceOk := false }, .hello hello helloEnv,
   .bind { bind with serverNonce := .fill 8 0 }, .bind bind,
   .derive zeroDigest ⟨false, true, zeroDigest, 1004⟩,
   .derive zeroDigest ⟨false, false, zeroDigest, 1004⟩]

end HandshakeSample

open HandshakeSample in
theorem session_key_of_run_sample :
    (final (sessionStep crypto) (sessionInit (text "node")) ops).state = .active ∧
    (final (sessionStep crypto) (sessionInit (text "node")) ops).generation = 2 ∧
    ∃ h env a b key denv,
      Since (trace (sessionStep crypto) (sessionInit (text "node")) ops)
        [(.hello h env, .acked a), (.bind b, .ok), (.derive key denv, .ok)] ∧ Carries b h a := by
  have hstate : (final (sessionStep crypto) (sessionInit (text "node")) ops).state = .active ∧
      (final (sessionStep crypto) (sessionInit (text "node")) ops).generation = 2 := by
    decide +kernel
  obtain ⟨-, -, h, env, a, b, key, denv, hsince, hc, -⟩ :=
    (session_key_of_run (C := crypto) (text "node") ops).1 (.inl hstate.1)
  exact ⟨hstate.1, hstate.2, h, env, a, b, key, denv, hsince, hc⟩

theorem generation_reset (s : VirpSession) :
    (sessionStep C s .reset).1.generation = s.generation + 1 := rfl

theorem generation_resets (s : VirpSession) (k : Nat) :
    (final (sessionStep C) s (List.replicate k .reset)).generation =
      s.generation + UInt64.ofNat k := by
  induction k generalizing s with
  | zero => simp
  | succ k ih =>
    rw [replicate_succ, final_cons, ih, generation_reset, UInt64.add_assoc,
      UInt64.add_comm 1, UInt64.ofNat_add]
    rfl

open HandshakeSample in
/-- The counter is one of 64 bits: the reset after 2^64 - 1 of them starts it again. -/
theorem generation_comes_round :
    ∃ ops,
      (final (sessionStep crypto) (sessionInit (text "node")) ops).generation =
        18446744073709551615 ∧
      (sessionStep crypto (final (sessionStep crypto) (sessionInit (text "node")) ops)
        .reset).1.generation = 0 := by
  obtain ⟨k, hk⟩ : ∃ k, UInt64.ofNat k = 18446744073709551615 := ⟨18446744073709551615, by decide⟩
  have hgen : (final (sessionStep crypto) (sessionInit (text "node"))
      (List.replicate k .reset)).generation = 18446744073709551615 := by
    rw [generation_resets, hk]
    exact UInt64.zero_add _
  refine ⟨List.replicate k .reset, hgen, ?_⟩
  rw [generation_reset, hgen]
  decide

end Virp
