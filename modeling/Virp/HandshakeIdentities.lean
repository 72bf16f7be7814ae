import Virp.Handshake

/-! # The identities in the transcript

The transcript holds every identity twice: the client's in the HELLO and in the BIND, the
server's in the HELLO_ACK and in the BIND, each with all 64 bytes of its field.  A BIND is
compared with the session as C strings are, up to the first zero byte, and with a client
name that was cut to 63 bytes and terminated.  So an accepted BIND repeats both fields
exactly if the HELLO's name was terminated and the BIND carries the same bytes behind the
terminators.
-/
namespace Virp

open Machine List

/-! ## Names in 64 bytes -/

/-- The bytes of a field from its first zero byte on. -/
def padding (b : Blob 64) : Bytes := b.bytes.dropWhile (· != 0)

theorem cstr_append_padding (b : Blob 64) : cstr b.bytes ++ padding b = b.bytes :=
  takeWhile_append_dropWhile

theorem Blob.ext {n : Nat} {a b : Blob n} (h : a.bytes = b.bytes) : a = b := by
  cases a
  cases b
  congr

variable {b : Blob 64} {s : VirpSession}

/-- A field is its name and its padding. -/
theorem eq_iff_of_cstr_eq {a : Blob 64} (h : cstr a.bytes = cstr b.bytes) :
    a = b ↔ padding a = padding b := by
  constructor
  · rintro rfl
    rfl
  · intro hpad
    refine Blob.ext ?_
    rw [← cstr_append_padding a, ← cstr_append_padding b, h, hpad]

theorem cstr_append_zero (l t : Bytes) : cstr (l ++ 0 :: t) = cstr l := by
  induction l with
  | nil => rfl
  | cons c l ih =>
    simp only [cstr, cons_append, takeWhile_cons] at ih ⊢
    split
    · rw [ih]
    · rfl

/-- The stored name of a terminated one is the name. -/
theorem cstr_terminated (h : (0 : UInt8) ∈ b.bytes) : cstr (terminated b).bytes = cstr b.bytes := by
  have hlen := b.length_eq
  change cstr (b.bytes.take 63 ++ [0]) = _
  rw [cstr_append_zero]
  by_cases h63 : (0 : UInt8) ∈ b.bytes.take 63
  · -- the terminator is among the bytes that are kept
    obtain ⟨l, t, hlt⟩ := append_of_mem h63
    have hall : b.bytes = l ++ 0 :: (t ++ b.bytes.drop 63) := by
      rw [← cons_append, ← append_assoc, ← hlt, take_append_drop]
    rw [hlt, cstr_append_zero]
    conv_rhs => rw [hall, cstr_append_zero]
  · -- it is the last byte, which is made one
    have hlast : b.bytes.drop 63 = [0] := by
      obtain ⟨c, hc⟩ := length_eq_one_iff.mp
        (show (b.bytes.drop 63).length = 1 by rw [length_drop, hlen])
      rw [← take_append_drop 63 b.bytes, hc, mem_append, mem_singleton] at h
      rw [hc, ← h.resolve_left h63]
    conv_rhs => rw [← take_append_drop 63 b.bytes, hlast, cstr_append_zero]

/-- The name of a field that is full is cut. -/
theorem length_cstr_terminated_lt (b : Blob 64) : (cstr (terminated b).bytes).length < 64 := by
  change (cstr (b.bytes.take 63 ++ [0])).length < 64
  rw [cstr_append_zero]
  have hcstr : (cstr (b.bytes.take 63)).length ≤ (b.bytes.take 63).length :=
    (takeWhile_sublist _).length_le
  have := length_take_le 63 b.bytes
  omega

/-- **The client's field**, repeated in a BIND that passed the comparison. -/
theorem clientId_eq_iff {h : Blob 64} (hcmp : cstr b.bytes = cstr (terminated h).bytes) :
    b = h ↔ (0 : UInt8) ∈ h.bytes ∧ padding b = padding h := by
  by_cases hz : (0 : UInt8) ∈ h.bytes
  · rw [eq_iff_of_cstr_eq (hcmp.trans (cstr_terminated hz))]
    exact ⟨fun hpad => ⟨hz, hpad⟩, And.right⟩
  refine ⟨?_, fun hh => absurd hh.1 hz⟩
  rintro rfl
  have hfull : cstr b.bytes = b.bytes := cstr_eq_self hz
  have hlt := length_cstr_terminated_lt b
  rw [← hcmp, hfull, b.length_eq] at hlt
  exact absurd hlt (lt_irrefl 64)

/-- Behind a name in the session there are only zeros. -/
theorem padding_idBlob (name : Bytes) : ∀ x ∈ padding (idBlob name), x = 0 := by
  have hfront : ∀ x ∈ (cstr name).take 63, (x != 0) = true := by
    intro x hx
    rw [bne_iff_ne]
    rintro rfl
    exact zero_notMem_cstr name (mem_of_mem_take hx)
  intro x hx
  change x ∈ ((cstr name).take 63 ++ List.replicate _ 0).dropWhile (· != 0) at hx
  rw [dropWhile_append_of_pos hfront] at hx
  exact eq_of_mem_replicate ((dropWhile_sublist _).mem hx)

theorem length_padding (b : Blob 64) : (padding b).length = 64 - (cstr b.bytes).length := by
  have h := congrArg List.length (cstr_append_padding b)
  rw [length_append, b.length_eq] at h
  omega

/-- **The server's field**, whose name in the session is padded with zeros. -/
theorem serverId_eq_iff {name : Bytes} (hcmp : cstr b.bytes = cstr (idBlob name).bytes) :
    b = idBlob name ↔ ∀ x ∈ padding b, x = 0 := by
  constructor
  · rintro rfl
    exact padding_idBlob name
  · intro hzero
    refine (eq_iff_of_cstr_eq hcmp).mpr ?_
    have hpad := eq_replicate_iff.mpr ⟨rfl, padding_idBlob name⟩
    rw [eq_replicate_iff.mpr ⟨rfl, hzero⟩, hpad, length_padding, length_padding, hcmp]

variable {C : Crypto}

/-- The session's own name is a C string, padded with zeros. -/
def ServerNamed (s : VirpSession) : Prop := ∃ name, s.serverId = idBlob name

theorem serverNamed_reset (s : VirpSession) : ServerNamed (sessionReset s) := ⟨_, rfl⟩

theorem serverId_transcriptAppend (s : VirpSession) (data : Bytes) :
    (transcriptAppend s data).serverId = s.serverId := by
  unfold transcriptAppend
  split <;> rfl

theorem virpHandleHello_serverNamed (hs : ServerNamed s) (h : SessionHello) (env : HelloEnv) :
    ServerNamed (virpHandleHello s h env).1 := by
  unfold virpHandleHello
  split
  · exact hs
  iterate 4
    split
    · exact ⟨_, rfl⟩
  simp only [ServerNamed, serverId_transcriptAppend]
  exact ⟨_, rfl⟩

theorem serverNamed_step (s : VirpSession) (op : SessionOp) (hs : ServerNamed s) :
    ServerNamed (sessionStep C s op).1 := by
  cases op with
  | hello h env =>
    have hstep := virpHandleHello_serverNamed hs h env
    simp only [sessionStep]
    split <;> rename_i heq <;> rwa [heq] at hstep
  | bind b =>
    rcases virpHandleSessionBind_cases (C := C) s b with ⟨err, he⟩ | ⟨-, -, he⟩
    · simpa only [sessionStep, he] using hs
    · simpa only [sessionStep, he, ServerNamed, serverId_transcriptAppend] using hs
  | derive key env =>
    rcases virpSessionDeriveKey_cases (C := C) s key env with ⟨err, k, he, -⟩ | ⟨-, he⟩ <;>
      simpa only [sessionStep, he, ServerNamed] using hs
  | sign now =>
    have heq : (sessionStep C s (.sign now)).1 = _ := signActivity_eq s now
    rw [heq]
    exact hs
  | signFails now err =>
    have heq : (sessionStep C s (.signFails now err)).1 = _ :=
      (signAttempt_fst s now err).trans (signActivity_eq s now)
    rw [heq]
    exact hs
  | checkTimeouts now =>
    rcases virpSessionCheckTimeouts_cases s now with he | ⟨err, he⟩
    · simpa only [sessionStep, he] using hs
    · simpa only [sessionStep, he] using serverNamed_reset s
  | reset => exact serverNamed_reset s

/-- A BIND that is accepted completes the transcript of the HELLO it belongs to. -/
theorem bind_ok_transcript {past : List (SessionOp × SessionAnswer)} (hs : Explained C s past)
    {b : SessionBind} (hok : (sessionStep C s (.bind b)).2 = .ok) :
    ∃ h env a, Since past [(.hello h env, .acked a)] ∧ Carries b h a ∧ s.serverId = a.serverId ∧
      (sessionStep C s (.bind b)).1.transcript =
        serializeHello h ++ serializeHelloAck a ++ serializeSessionBind b := by
  rcases virpHandleSessionBind_cases (C := C) s b with ⟨err, he⟩ | ⟨hst, hm, he⟩
  · simp only [sessionStep, he] at hok
    cases hok
  · unfold Explained at hs
    rw [hst] at hs
    obtain ⟨-, h, env, a, hsince, hn, ht⟩ := hs
    refine ⟨h, env, a, hsince, hn.carries hm, hn.serverId_eq, ?_⟩
    simp only [sessionStep, he, transcriptAppend_fits (bind_fits ht), ht]

/-- **When a BIND repeats the identities.**  In every run, an accepted BIND completes the
transcript of the HELLO and the answer it belongs to; the 64 bytes of both identities are the
same in the BIND as there exactly if the HELLO's name is terminated, the BIND has the HELLO's
bytes behind the client's name, and zeros behind the server's. -/
theorem bind_identities_iff (serverId : Bytes) (ops : List SessionOp) (b : SessionBind)
    (hok : (sessionStep C (final (sessionStep C) (sessionInit serverId) ops) (.bind b)).2 = .ok) :
    ∃ h env a,
      Since (trace (sessionStep C) (sessionInit serverId) ops) [(.hello h env, .acked a)] ∧
      (sessionStep C (final (sessionStep C) (sessionInit serverId) ops) (.bind b)).1.transcript =
        serializeHello h ++ serializeHelloAck a ++ serializeSessionBind b ∧
      ((b.clientId = h.clientId ∧ b.serverId = a.serverId) ↔
        (0 : UInt8) ∈ h.clientId.bytes ∧ padding b.clientId = padding h.clientId ∧
          ∀ x ∈ padding b.serverId, x = 0) := by
  obtain ⟨h, env, a, hsince, hc, hserver, ht⟩ := bind_ok_transcript (explained_run serverId ops) hok
  obtain ⟨name, hname⟩ : ServerNamed (final (sessionStep C) (sessionInit serverId) ops) :=
    final_invariant ⟨serverId, rfl⟩ serverNamed_step ops
  have ha : a.serverId = idBlob name := hserver.symm.trans hname
  refine ⟨h, env, a, hsince, ht, ?_⟩
  rw [clientId_eq_iff hc.clientId_eq, ha, serverId_eq_iff (ha ▸ hc.serverId_eq), and_assoc]

section
open HandshakeSample

/-- The session of the sample, after a HELLO. -/
theorem bind_identities_iff_sample :
    (sessionStep crypto (final (sessionStep crypto) (sessionInit (text "node"))
      [.hello hello helloEnv]) (.bind bind)).2 = .ok ∧
    ∃ h env a,
      Since (trace (sessionStep crypto) (sessionInit (text "node")) [.hello hello helloEnv])
        [(.hello h env, .acked a)] ∧
      ((bind.clientId = h.clientId ∧ bind.serverId = a.serverId) ↔
        (0 : UInt8) ∈ h.clientId.bytes ∧ padding bind.clientId = padding h.clientId ∧
          ∀ x ∈ padding bind.serverId, x = 0) := by
  have hok : (sessionStep crypto (final (sessionStep crypto) (sessionInit (text "node"))
      [.hello hello helloEnv]) (.bind bind)).2 = .ok := by
    decide +kernel
  obtain ⟨h, env, a, hsince, -, hiff⟩ :=
    bind_identities_iff (C := crypto) (text "node") [.hello hello helloEnv] bind hok
  exact ⟨hok, h, env, a, hsince, hiff⟩

/-- A name of 64 letters, without a terminator. -/
def longName : Blob 64 := .fill 64 0x61

/-- What a server that stores the first 63 of them compares a BIND with. -/
def cutName : Blob 64 := ⟨List.replicate 63 0x61 ++ [0], by simp⟩

/-- The name of the sample, with a letter behind its terminator. -/
def trailedName : Blob 64 := ⟨text "agent" ++ 0 :: 0x78 :: List.replicate 57 0, by decide⟩

/-- The session key is bound to two names of the client: they differ behind a terminator, or in
the byte that was cut off. -/
theorem bind_binds_two_names :
    (let s := final (sessionStep crypto) (sessionInit (text "node")) [.hello hello helloEnv]
     let b := { bind with clientId := trailedName }
     (sessionStep crypto s (.bind b)).2 = .ok ∧
     (sessionStep crypto s (.bind b)).1.transcript = serializeHello hello ++
       serializeHelloAck (helloAckOf s helloEnv) ++ serializeSessionBind b ∧
     b.clientId ≠ hello.clientId) ∧
    (let h := { hello with clientId := longName }
     let s := final (sessionStep crypto) (sessionInit (text "node")) [.hello h helloEnv]
     let b := { bind with clientId := cutName }
     (sessionStep crypto s (.bind b)).2 = .ok ∧
     (sessionStep crypto s (.bind b)).1.transcript = serializeHello h ++
       serializeHelloAck (helloAckOf s helloEnv) ++ serializeSessionBind b ∧
     b.clientId ≠ h.clientId) := by
  decide +kernel

end

end Virp
