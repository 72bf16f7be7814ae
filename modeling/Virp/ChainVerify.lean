import Virp.ChainEvidence

/-! # Verifying a session

`virp_chain_verify_session` and the range walk below it: the head record is
authenticated, every entry of the range it commits to is re-read, relinked,
rehashed, re-MACed, optionally checked against its signature, bound to its stored
body and graded as evidence, and the signature era is decided from what the walk
counted.

The walk is a fold of `walkStep` over the rows.  A step either fails, which ends
the verification, or hands on the counters.
-/
namespace Virp

def artifactB64Val (c : UInt8) : Option Nat :=
  if 0x41 ≤ c ∧ c ≤ 0x5A then some (c.toNat - 65)
  else if 0x61 ≤ c ∧ c ≤ 0x7A then some (c.toNat - 97 + 26)
  else if 0x30 ≤ c ∧ c ≤ 0x39 then some (c.toNat - 48 + 52)
  else if c = 0x2B then some 62
  else if c = 0x2F then some 63
  else none

/-- The first `n` of the three bytes of a quantum. -/
def b64Bytes (n : Nat) (trip : Nat) : Bytes :=
  [(trip / 65536 % 256).toUInt8, (trip / 256 % 256).toUInt8, (trip % 256).toUInt8].take n

/-- One quantum of `artifact_b64_decode`; padding is legal only in the tail of the
last one. -/
def b64Quantum (a b c d : UInt8) (last : Bool) : Option Bytes :=
  match artifactB64Val a, artifactB64Val b with
  | some x, some y =>
    if c = 0x3D then
      if last && d == 0x3D then some (b64Bytes 1 (x * 262144 + y * 4096)) else none
    else
      match artifactB64Val c with
      | none => none
      | some z =>
        if d = 0x3D then
          if last then some (b64Bytes 2 (x * 262144 + y * 4096 + z * 64)) else none
        else
          match artifactB64Val d with
          | none => none
          | some w => some (b64Bytes 3 (x * 262144 + y * 4096 + z * 64 + w))
  | _, _ => none

def artifactB64Decode : Bytes → Option Bytes
  | [] => some []
  | a :: b :: c :: d :: rest =>
    match b64Quantum a b c d rest.isEmpty, artifactB64Decode rest with
    | some q, some r => some (q ++ r)
    | _, _ => none
  | _ => none

/-- `virp_chain_artifact_digest`. -/
def artifactDigest (C : Crypto) (content : Bytes) : Option Bytes :=
  if (text "base64:").isPrefixOf content then
    (artifactB64Decode (content.drop 7)).map C.sha256Hex
  else some (C.sha256Hex content)

/-! ## Bodies in base64 -/

/-- The character of six bits. -/
def b64Char (v : Nat) : UInt8 :=
  (if v < 26 then 65 + v else if v < 52 then 71 + v else if v < 62 then v - 4
    else if v = 62 then 43 else 47).toUInt8

/-- The encoding of RFC 4648; it has zeros for `low`, the bits in front of the padding that no
byte uses. -/
def b64Encode (low : Nat) : Bytes → Bytes
  | [] => []
  | [x] => [b64Char (x.toNat / 4), b64Char (x.toNat % 4 * 16 + low % 16), 0x3D, 0x3D]
  | [x, y] => [b64Char (x.toNat / 4), b64Char (x.toNat % 4 * 16 + y.toNat / 16),
      b64Char (y.toNat % 16 * 4 + low % 4), 0x3D]
  | x :: y :: z :: rest => b64Char (x.toNat / 4) :: b64Char (x.toNat % 4 * 16 + y.toNat / 16) ::
      b64Char (y.toNat % 16 * 4 + z.toNat / 64) :: b64Char (z.toNat % 64) :: b64Encode low rest

theorem artifactB64Val_b64Char {v : Nat} (h : v < 64) : artifactB64Val (b64Char v) = some v := by
  revert v
  decide +kernel

theorem b64Char_of_val {c : UInt8} {v : Nat} (h : artifactB64Val c = some v) : v < 64 ∧ c = b64Char v := by
  have hall : ∀ n < 256, ∀ v ∈ artifactB64Val (.ofNat n), v < 64 ∧ .ofNat n = b64Char v := by
    decide +kernel
  simpa using hall c.toNat c.toNat_lt v (by simpa using h)

theorem b64Char_ne {v : Nat} (h : v < 64) : b64Char v ≠ 0x3D := by
  revert v
  decide +kernel

theorem artifactB64Decode_b64Encode (low : Nat) (x : Bytes) :
    artifactB64Decode (b64Encode low x) = some x := by
  have hbyte {n : Nat} {x : UInt8} (h : n = x.toNat) : n.toUInt8 = x := by
    rw [h, Nat.toUInt8, UInt8.ofNat_toNat]
  fun_induction b64Encode low x with
  | case1 => rfl
  | case2 x =>
    have hx := x.toNat_lt
    simp (disch := omega) [artifactB64Decode, b64Quantum, artifactB64Val_b64Char, b64Bytes]
    exact hbyte (by omega)
  | case3 x y =>
    have hx := x.toNat_lt
    have hy := y.toNat_lt
    simp (disch := omega) [artifactB64Decode, b64Quantum, artifactB64Val_b64Char, b64Char_ne, b64Bytes]
    and_intros <;> exact hbyte (by omega)
  | case4 x y z rest ih =>
    have hx := x.toNat_lt
    have hy := y.toNat_lt
    have hz := z.toNat_lt
    simp (disch := omega) [artifactB64Decode, b64Quantum, artifactB64Val_b64Char, b64Char_ne, b64Bytes, ih]
    and_intros <;> exact hbyte (by omega)

/-- Padding ends the text. -/
theorem b64Encode_of_quantum {a b c d : UInt8} {last : Bool} {q : Bytes}
    (h : b64Quantum a b c d last = some q) :
    (q.length = 3 ∨ last = true) ∧ ∃ low, [a, b, c, d] = b64Encode low q := by
  unfold b64Quantum at h
  split at h
  · next x y hx hy =>
    obtain ⟨hx, rfl⟩ := b64Char_of_val hx
    obtain ⟨hy, rfl⟩ := b64Char_of_val hy
    split at h
    · next hc =>
      split_ifs at h with hlast
      cases h
      obtain ⟨hlast, hd⟩ := Bool.and_eq_true_iff.mp hlast
      refine ⟨.inr hlast, y, ?_⟩
      simp [b64Bytes, b64Encode, hc, eq_of_beq hd]
      and_intros <;> congr 1 <;> omega
    · split at h
      · cases h
      next z hz =>
      obtain ⟨hz, rfl⟩ := b64Char_of_val hz
      split at h
      · next hd =>
        split_ifs at h with hlast
        cases h
        refine ⟨.inr hlast, z, ?_⟩
        simp [b64Bytes, b64Encode, hd]
        and_intros <;> congr 1 <;> omega
      · split at h
        · cases h
        next w hw =>
        obtain ⟨hw, rfl⟩ := b64Char_of_val hw
        cases h
        refine ⟨.inl rfl, 0, ?_⟩
        simp [b64Bytes, b64Encode]
        and_intros <;> congr 1 <;> omega
  · cases h

theorem b64Encode_of_decode {b x : Bytes} (h : artifactB64Decode b = some x) :
    ∃ low, b = b64Encode low x := by
  fun_induction artifactB64Decode b generalizing x with
  | case1 =>
    cases h
    exact ⟨0, rfl⟩
  | case2 a b c d rest q r hr hq ih =>
    cases h
    obtain ⟨hlen | hlast, low, hchars⟩ := b64Encode_of_quantum hq
    · obtain ⟨low, rfl⟩ := ih hr
      obtain ⟨x, y, z, rfl⟩ := List.length_eq_three.mp hlen
      exact ⟨low, by simpa [b64Encode] using hchars⟩
    · obtain rfl := List.isEmpty_iff.mp hlast
      cases hr
      exact ⟨low, by rw [hchars, List.append_nil]⟩
  | _ => cases h

/-- **Bodies in base64.**  The decoder takes exactly the encodings of RFC 4648, whatever their
unused bits are, and gives what was encoded; of that the digest is taken. -/
theorem base64_bodies (C : Crypto) (b : Bytes) :
    (∀ x, artifactB64Decode b = some x ↔ ∃ low, b = b64Encode low x) ∧
    ∀ h, artifactDigest C (text "base64:" ++ b) = some h ↔
      ∃ x low, b = b64Encode low x ∧ C.sha256Hex x = h := by
  have hiff (x : Bytes) : artifactB64Decode b = some x ↔ ∃ low, b = b64Encode low x :=
    ⟨b64Encode_of_decode, fun ⟨low, hb⟩ => hb ▸ artifactB64Decode_b64Encode low x⟩
  refine ⟨hiff, fun h => ?_⟩
  have hdigest : artifactDigest C (text "base64:" ++ b) = (artifactB64Decode b).map C.sha256Hex :=
    if_pos rfl
  simp only [hdigest, Option.map_eq_some_iff, hiff, exists_and_right]

/-- Two bodies of one byte. -/
theorem base64_unused_bits : text "QQ==" ≠ text "QR==" ∧
    artifactB64Decode (text "QQ==") = some (text "A") ∧
    artifactB64Decode (text "QR==") = some (text "A") := by
  decide +kernel

/-- What `chain_verify_binding_locked` returns. -/
inductive Binding where
  | bound | unverifiable | broken | unreadable
deriving DecidableEq, Repr

/-- `VIRP_CHAIN_ARTIFACT_CONTENT_MAX`. -/
def artifactContentMax : Nat := 8191

/-- `chain_verify_binding_locked`. -/
def verifyBinding (C : Crypto) (env : ReadEnv) (db : Db) (e : Entry) : Binding :=
  if env.fails e.sequence .bindingPrepare then .unreadable
  else if env.fails e.sequence .bindingStep then .unverifiable
  else
    match db.artifactContent e.artifactId.bytes e.artifactHash.bytes with
    | none => .unverifiable
    | some content =>
      let body := cstr content
      if body = [] then .unverifiable
      else if typeIsIndirect e.artifactType.bytes then .unverifiable
      else if artifactDigest C body = some e.artifactHash.bytes then .bound
      else if body.length = artifactContentMax then .unverifiable
      else .broken

/-- `virp_chain_sig_era_t`. -/
inductive SigEra where
  | notGraded | unsigned | fromN | signed
deriving DecidableEq, Repr

/-- `virp_chain_verify_result_t`; `why` stands for the texts of `error_detail`, and
`rc` is what the call returns (`none` for `VIRP_OK`). -/
structure VerifyResult where
  valid : Bool
  fromSequence : Int
  toSequence : Int
  entriesChecked : Int
  firstBroken : Int
  why : Option Broken
  artifactsBound : Int
  artifactsUnverifiable : Int
  hmacChecked : Bool
  sigChecked : Bool
  headAuthenticated : Bool
  headHmacOk : Bool
  headSigOk : Bool
  entriesSigned : Int
  entriesUnsigned : Int
  sigKeyUnavailable : Bool
  sigEra : SigEra
  validSigned : Bool
  firstUnsigned : Int
  sigTransitionSeq : Int
  sigKeyId : Bytes
  executionsOpen : Int
  executionsClosed : Int
  verifierError : Bool
  rc : Option VirpError
deriving DecidableEq

/-- The result after `memset` and `first_broken = -1`. -/
def VerifyResult.blank : VerifyResult where
  valid := false
  fromSequence := 0
  toSequence := 0
  entriesChecked := 0
  firstBroken := -1
  why := none
  artifactsBound := 0
  artifactsUnverifiable := 0
  hmacChecked := false
  sigChecked := false
  headAuthenticated := false
  headHmacOk := false
  headSigOk := false
  entriesSigned := 0
  entriesUnsigned := 0
  sigKeyUnavailable := false
  sigEra := .notGraded
  validSigned := false
  firstUnsigned := 0
  sigTransitionSeq := 0
  sigKeyId := []
  executionsOpen := 0
  executionsClosed := 0
  verifierError := false
  rc := none

/-! ## The walk -/

/-- The walk's counters. -/
structure Walk where
  expectedSeq : Int
  expectedPrev : Bytes
  entriesChecked : Int
  entriesSigned : Int
  entriesUnsigned : Int
  firstUnsigned : Int
  unsignedPrefix : Bool
  firstSignedSeq : Int
  firstSignedNs : UInt64
  artifactsBound : Int
  artifactsUnverifiable : Int
  executionsOpen : Int
  executionsClosed : Int
deriving DecidableEq

def Walk.start (fromSequence : Int) (expectedPrev : Bytes) : Walk :=
  ⟨fromSequence, expectedPrev, 0, 0, 0, -1, false, -1, 0, 0, 0, 0, 0⟩

/-- A failed step: why, at which sequence number, and the counters then. -/
structure Failure where
  why : Broken
  firstBroken : Int
  walk : Walk
deriving DecidableEq

section
variable (C : Crypto) (parse : Bytes → Option Json) (v : Handle) (env : ReadEnv) (db : Db)

/-- `state->verify_key_id_hex`. -/
def verifyKeyIdHex : Bytes := (v.verifyPub.map (chainsignKeyIdHex C)).getD []

/-- `state->verify_sig_enabled`. -/
def verifySigEnabled : Bool := v.verifyPub.isSome

variable (s : Bytes)

/-- `chain_session_sig_state_locked`: whether the session is signed, and the key
id it claims. -/
def sessionSigState : Bool × Bytes :=
  let headSig := (db.headGet s).bind (·.headSig)
  if v.headSigCols ∧ cstr (headSig.getD []) ≠ [] then
    (true, snprintfS 33 (((db.headGet s).bind (·.headSigKeyId)).getD []))
  else if v.entrySigCols ∧
      (db.entries.rows.any (fun r => r.sessionId == s && r.chainSig.getD [] != [])) then
    (true, snprintfS 33 (((db.sessionRows s).head?.bind (·.chainSigKeyId)).getD []))
  else (false, [])

variable (w : Walk) (e : Entry)

/-- Sequence, link, hash and MAC of an entry. -/
def checkEntry : Except Failure Unit :=
  if e.sequence ≠ w.expectedSeq then
    .error ⟨.sequenceGap w.expectedSeq e.sequence, w.expectedSeq, w⟩
  else if e.previousEntryHash.bytes ≠ w.expectedPrev then .error ⟨.previousHash, e.sequence, w⟩
  else if 2048 ≤ (buildCanonicalJson e).length then .error ⟨.canonicalTooLong, e.sequence, w⟩
  else if C.sha256Hex (buildCanonicalJson e) ≠ e.chainEntryHash.bytes then
    .error ⟨.entryHash, e.sequence, w⟩
  else if v.haveChainKey && env.fails e.sequence .hmac then .error ⟨.hmacError, e.sequence, w⟩
  else if v.haveChainKey ∧ C.hmacSha256Hex v.chainKey (buildCanonicalJson e) ≠ e.chainHmac.bytes then
    .error ⟨.entryHmac, e.sequence, w⟩
  else .ok ()

/-- The entry's signature verifies under the verifier's key. -/
def entrySigOk : Bool :=
  match chainsignSigFromHex e.chainSig.bytes with
  | none => false
  | some sig => chainsignVerify C (v.verifyPub.getD []) tagEntry (buildCanonicalJson e) sig

/-- Count an entry that carries no signature. -/
def countUnsigned : Walk :=
  { w with entriesUnsigned := w.entriesUnsigned + 1,
           firstUnsigned := if w.firstUnsigned < 0 then e.sequence else w.firstUnsigned }

/-- The asymmetric tier.  A missing signature is tolerated before the first signed
entry and fatal after it. -/
def gradeSignature (checkSigs : Bool) (w : Walk) (e : Entry) : Except Failure Walk :=
  if checkSigs then
    if e.chainSig.bytes = [] then
      if w.entriesSigned = 0 then .ok { countUnsigned w e with unsignedPrefix := true }
      else .error ⟨.strippedSignature, e.sequence, countUnsigned w e⟩
    else if e.chainSigKeyId.bytes ≠ verifyKeyIdHex C v then .error ⟨.signatureKeyId, e.sequence, w⟩
    else if entrySigOk C v e = false then .error ⟨.signature, e.sequence, w⟩
    else .ok { w with
      firstSignedSeq := if w.firstSignedSeq < 0 then e.sequence else w.firstSignedSeq
      firstSignedNs := if w.firstSignedSeq < 0 then e.timestampNs else w.firstSignedNs
      entriesSigned := w.entriesSigned + 1 }
  else if verifySigEnabled v ∧ e.chainSig.bytes = [] then .ok (countUnsigned w e)
  else .ok w

/-- The stored body. -/
def gradeBinding : Except Failure Walk :=
  match verifyBinding C env db e with
  | .unreadable => .error ⟨.bindingUnreadable, -1, w⟩
  | .broken => .error ⟨.binding, e.sequence, w⟩
  | .unverifiable => .ok { w with artifactsUnverifiable := w.artifactsUnverifiable + 1 }
  | .bound => .ok { w with artifactsBound := w.artifactsBound + 1 }

/-- The body the evidence grading works on. -/
def evidenceBody : Option Bytes :=
  if env.fails e.sequence .entryBody then none else bodyByEntryHash db e.chainEntryHash.bytes

/-- The evidence records. -/
def gradeEvidence : Except Failure Walk :=
  if e.artifactType.bytes = text "gate_intent" then
    match gradeIntent parse env db e (evidenceBody env db e) with
    | .broken why => .error ⟨why, e.sequence, w⟩
    | .isOpen => .ok { w with executionsOpen := w.executionsOpen + 1 }
    | .isClosed => .ok { w with executionsClosed := w.executionsClosed + 1 }
  else if typeIsCloser e.artifactType.bytes then
    match gradeCloser parse env db e (evidenceBody env db e) with
    | some why => .error ⟨why, e.sequence, w⟩
    | none => .ok w
  else .ok w

/-- One entry of the walk. -/
def walkStep (checkSigs : Bool) (w : Walk) (e : Entry) : Except Failure Walk := do
  checkEntry C v env w e
  let w ← gradeSignature C v checkSigs w e
  let w ← gradeBinding C env db w e
  let w ← gradeEvidence parse env db w e
  .ok { w with
    expectedPrev := e.chainEntryHash.bytes
    expectedSeq := w.expectedSeq + 1
    entriesChecked := w.entriesChecked + 1 }

/-- The walk over the entries of a range. -/
def walkEntries (checkSigs : Bool) : Walk → List Entry → Except Failure Walk
  | w, [] =>
    if env.fails w.expectedSeq .walk then .error ⟨.walkFailed, -1, w⟩ else .ok w
  | w, e :: es =>
    if env.fails w.expectedSeq .walk then .error ⟨.walkFailed, -1, w⟩
    else do
      let w ← walkStep C parse v env db checkSigs w e
      walkEntries checkSigs w es

/-- `virp_chain_cutover_ns`: the earliest instant of a signed entry, 0 if none. -/
def cutoverNs : UInt64 :=
  if v.entrySigCols then
    match ((db.entries.rows.filter (fun r => r.chainSig.getD [] != [])).map (·.timestampNs)).min? with
    | none => 0
    | some t => .ofNat (ofColumn 64 t)
  else 0

/-- `virp_chain_from_n_temporally_ok`. -/
def fromNTemporallyOk (firstSignedNs cutover : UInt64) : Bool :=
  if cutover = 0 then false else cutover ≤ firstSignedNs

/-- The result with the walk's counters in it. -/
def Walk.result (r : VerifyResult) : VerifyResult :=
  { r with
    entriesChecked := w.entriesChecked, entriesSigned := w.entriesSigned,
    entriesUnsigned := w.entriesUnsigned, firstUnsigned := w.firstUnsigned,
    artifactsBound := w.artifactsBound, artifactsUnverifiable := w.artifactsUnverifiable,
    executionsOpen := w.executionsOpen, executionsClosed := w.executionsClosed }

/-- The third condition on an unsigned prefix: it must end at or after the
instant signing began on this chain. -/
def gradeCutover (r : VerifyResult) : VerifyResult :=
  if w.unsignedPrefix ∧ 0 < w.firstSignedSeq then
    if env.fails w.firstSignedSeq .cutover then
      { r with valid := false, why := some .cutoverUnreadable }
    else if fromNTemporallyOk w.firstSignedNs (cutoverNs v db) = false then
      { r with valid := false, firstBroken := w.firstSignedSeq, why := some .notACutover }
    else { r with sigTransitionSeq := w.firstSignedSeq }
  else r

variable (fromSequence toSequence : Int)

/-- Every sequence number of the range has been verified. -/
def gradeCompleteness (r : VerifyResult) : VerifyResult :=
  if r.valid ∧ w.entriesChecked ≠ toSequence - fromSequence + 1 then
    { r with valid := false, firstBroken := fromSequence + w.entriesChecked,
             why := some .truncated }
  else r

/-- The hash the first entry of a range must link to. -/
def expectedFirst (fromSequence : Int) : Option Bytes :=
  if fromSequence = 0 then some (computeGenesisHash C env.stack s)
  else ((db.entries.rows.find? (fun r => r.sessionId == s && r.sequence == fromSequence - 1)).map
    (fun r => snprintfS 65 r.chainEntryHash))

/-- The session's signatures cannot be checked: it is signed under another key. -/
def keyUnavailable : Bool :=
  (sessionSigState v db s).1 && verifySigEnabled v &&
    (sessionSigState v db s).2 != verifyKeyIdHex C v

/-- Whether signatures are graded in this session. -/
def checksSigs : Bool :=
  verifySigEnabled v && v.entrySigCols && (sessionSigState v db s).1 && !keyUnavailable C v db s

/-- The entries of a range, as the verifier's statement reads them. -/
def entriesRead : List Entry :=
  (db.getRange s fromSequence toSequence).map
    (readEntryFromStmt (v.readOnly && v.entrySigCols))

/-- `chain_verify_locked`: the result, and the hash of the last verified entry. -/
def chainVerifyLocked : VerifyResult × Bytes :=
  let r₀ := { VerifyResult.blank with
    fromSequence := fromSequence, toSequence := toSequence, firstUnsigned := -1,
    sigTransitionSeq := -1, valid := true, hmacChecked := v.haveChainKey,
    sigChecked := checksSigs C v db s }
  if fromSequence < 0 ∨ toSequence < fromSequence then
    ({ r₀ with valid := false, why := some .range }, [])
  else
    match expectedFirst C env db s fromSequence with
    | none => ({ r₀ with valid := false, why := some .missingPrior }, [])
    | some prev =>
      match walkEntries C parse v env db (checksSigs C v db s) (.start fromSequence prev)
          (entriesRead v db s fromSequence toSequence) with
      | .error f =>
        ({ f.walk.result r₀ with
            valid := false, firstBroken := f.firstBroken, why := some f.why,
            verifierError := f.why = .walkFailed || f.why = .bindingUnreadable,
            rc := if f.why = .walkFailed then some .chainDb else none }, [])
      | .ok w =>
        (gradeCompleteness w fromSequence toSequence
          (gradeCutover v env db w (w.result r₀)), w.expectedPrev)

/-- The era decision after the walk. -/
def gradeEra (headIsSigned unavailable : Bool) (r : VerifyResult) : VerifyResult :=
  if !verifySigEnabled v || !v.entrySigCols || unavailable then { r with sigEra := .notGraded }
  else if r.entriesSigned = 0 ∧ headIsSigned = false then { r with sigEra := .unsigned }
  else if 0 < r.entriesSigned ∧ headIsSigned = false then
    { r with valid := false, sigEra := .notGraded, why := some .headUnsigned }
  else if r.entriesUnsigned = 0 then { r with sigEra := .signed }
  else if 0 < r.sigTransitionSeq ∧ headIsSigned = true then { r with sigEra := .fromN }
  else if 0 < r.sigTransitionSeq ∧ headIsSigned = false then
    { r with valid := false, sigEra := .notGraded, why := some .prefixHeadUnsigned }
  else { r with sigEra := .notGraded }

/-- What the verifier reads of a head row. -/
structure HeadRead where
  seq : Int
  hash : Field 65
  mac : Field 65
  sig : Field 129
  keyId : Field 33

def readHead (h : HeadRow) : HeadRead where
  seq := h.lastSequence
  hash := .copy 65 h.lastEntryHash
  mac := .copy 65 h.headHmac
  sig := if v.readOnly && v.headSigCols then .copy 129 (h.headSig.getD []) else .empty 129
  keyId := if v.readOnly && v.headSigCols then .copy 33 (h.headSigKeyId.getD []) else .empty 33

variable (hd : HeadRead)

/-- The head is signed, as far as this handle reads signatures. -/
def headIsSigned : Bool := v.headSigCols && hd.sig.bytes != []

/-- The head's signature verifies under the verifier's key. -/
def headSigOk : Bool :=
  match chainsignSigFromHex hd.sig.bytes with
  | none => false
  | some sig =>
    chainsignVerify C (v.verifyPub.getD []) tagHead (headBytes env.stack s hd.seq hd.hash.bytes) sig

/-- Authenticating the head before its length claim is trusted. -/
def checkHead (unavailable : Bool) : Option (Broken × Option VirpError) :=
  if verifySigEnabled v && (sessionSigState v db s).1 && !headIsSigned v hd then
    some (.headUnsigned, none)
  else if v.haveChainKey && env.fails hd.seq .headHmac then some (.hmacError, some .crypto)
  else if v.haveChainKey ∧
      C.hmacSha256Hex v.chainKey (headBytes env.stack s hd.seq hd.hash.bytes) ≠ hd.mac.bytes then
    some (.headHmac, none)
  else if verifySigEnabled v && headIsSigned v hd && !unavailable && !headSigOk C v env s hd then
    some (.headSignature, none)
  else none

/-- The verdict once the range has been walked: the last entry must be the one
the head names, and the signature era is decided. -/
def closeSession (unavailable : Bool) (walk : VerifyResult × Bytes) : VerifyResult :=
  if walk.1.rc ≠ none ∨ walk.1.valid = false then walk.1
  else if walk.2 ≠ hd.hash.bytes then
    { walk.1 with valid := false, firstBroken := hd.seq, why := some .headMismatch }
  else
    let r := gradeEra v (headIsSigned v hd) unavailable walk.1
    { r with
      validSigned := r.valid && r.sigEra = .signed
      headHmacOk := v.haveChainKey
      headSigOk := verifySigEnabled v && headIsSigned v hd && !unavailable
      headAuthenticated := v.haveChainKey || (verifySigEnabled v && headIsSigned v hd && !unavailable)
      sigKeyUnavailable := unavailable
      sigKeyId := if headIsSigned v hd then hd.keyId.bytes else [] }

def chainVerifySessionLocked : VerifyResult :=
  if v.legacyNoHeads then { VerifyResult.blank with why := some .legacyChain }
  else
    match db.headGet s with
    | none => { VerifyResult.blank with why := some (.headMissing (db.getLast s).isSome) }
    | some row =>
      match checkHead C v env db s (readHead v row) (keyUnavailable C v db s) with
      | some (why, rc) =>
        { VerifyResult.blank with
            toSequence := if why = .headUnsigned then 0 else row.lastSequence, why := some why,
            rc := rc }
      | none =>
        closeSession v (readHead v row) (keyUnavailable C v db s)
          (chainVerifyLocked C parse v env db s 0 row.lastSequence)

end

end Virp
