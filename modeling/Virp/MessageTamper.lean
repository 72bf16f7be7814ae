import Virp.Library.Edits
import Virp.MessageRoundTrip
import Virp.ObservationReplay

/-! # Tampering with messages

Every byte of an accepted message is under its HMAC or signature, or is part of it, and every
format states its length.  So nothing can be changed, added or cut off under the same key.

HMAC-SHA256 and Ed25519 are taken to be ideal on the texts in play: a text that differs in one byte
has another HMAC, and a signature stays valid neither if a byte of the text nor if a byte of the
signature is changed.
-/
namespace Virp

open Wire List

variable {C : Crypto} {m m' : Bytes} {sk : SigningKey} {hdr : Header}

/-- No text that differs in one byte has the same HMAC. -/
def Crypto.HmacSeparates (C : Crypto) (key t : Bytes) : Prop :=
  ∀ t', Altered t t' → C.hmac key t' ≠ C.hmac key t

/-- The signature of a text is none of a text that differs in one byte, and no signature that
differs in one byte is one of the text. -/
def Crypto.SignatureSeparates (C : Crypto) (pk t : Bytes) (sig : Signature) : Prop :=
  (∀ t', Altered t t' → C.verify pk t' sig = false) ∧
    ∀ sig' : Signature, Altered sig.bytes sig'.bytes → C.verify pk t sig' = false

theorem Digest.ext_bytes {d d' : Digest} (h : d.bytes = d'.bytes) : d = d' := by
  cases d
  cases d'
  congr

variable {key pk : Bytes} {r : ObsHeader × Bytes}

variable {off trailer : Nat} {version : UInt8} {hdr' : ObsHeader} {hashes : List (Bytes × Bytes)}
  {t : Bytes}

/-- An altered message does not hold its HMAC. -/
theorem altered_hmac_ne (h : Altered m m') (hlen : off + 32 ≤ m.length)
    (hmac : slice off 32 m = (C.hmac key (around off 32 m)).bytes)
    (hideal : C.HmacSeparates key (around off 32 m)) :
    slice off 32 m' ≠ (C.hmac key (around off 32 m')).bytes := by
  intro hmac'
  rcases h.around_or off 32 hlen with ⟨htext, htag⟩ | ⟨htext, htag⟩
  · rw [htag, hmac] at hmac'
    exact hideal _ htext (Digest.ext_bytes hmac'.symm)
  · rw [htext, ← hmac] at hmac'
    exact htag.ne hmac'

/-- A number in the head that states the length does not fit another length. -/
theorem edited_altered (h : Edited m m') (off n fixed : Nat) (hoff : off + n ≤ fixed)
    (hlen : fixed ≤ m.length) (hlen' : fixed ≤ m'.length)
    (hsame : slice off n m' = slice off n m → m'.length = m.length) : Altered m m' := by
  rcases h.altered_or with halt | ⟨hne, htake⟩
  · exact halt
  · refine absurd (hsame ?_) hne
    rw [← slice_take hoff m', ← slice_take hoff m, htake fixed hlen hlen']

/-- What an accepted message is known to hold. -/
theorem validateMessage_ok (h : validateMessage C m sk = .ok hdr) :
    56 ≤ m.length ∧ (u16At 2 m).toNat = m.length ∧
      checkChannelKeyBinding (byteAt 8 m) sk.type = .ok () ∧
      slice 24 32 m = (C.hmac sk.key.bytes (around 24 32 m)).bytes := by
  simp only [validateMessage, headerDeserialize, virpVerify, bind_ok, guard_ok, not_not,
    Except.ok.injEq] at h
  obtain ⟨hlen, _, ⟨-, rfl⟩, _, -, _, -, hlength, _, ⟨-, -, _, hbind, -, hmac⟩, -⟩ := h
  refine ⟨Nat.not_lt.mp hlen, hlength, hbind, ?_⟩
  by_contra hne
  rw [if_neg (show ¬ slice 24 32 m = (C.hmac sk.key.bytes (signedPart m)).bytes from hne)] at hmac
  cases hmac

theorem validateMessage_edited {hdr' : Header} (h : validateMessage C m sk = .ok hdr)
    (hideal : C.HmacSeparates sk.key.bytes (signedPart m)) (he : Edited m m') :
    validateMessage C m' sk ≠ .ok hdr' := by
  intro h'
  obtain ⟨hlen, hlength, -, hmac⟩ := validateMessage_ok h
  obtain ⟨hlen', hlength', -, hmac'⟩ := validateMessage_ok h'
  have halt : Altered m m' := edited_altered he 2 2 56 (by decide) hlen hlen' (by
    intro hsame
    rw [← hlength, ← hlength', u16At, u16At, hsame])
  exact altered_hmac_ne halt hlen hmac hideal hmac'

/-! ## Versions 2 and 3 -/

/-- What an accepted observation is known to hold. -/
theorem checkedHeader_ok {hdr : ObsHeader} (h : obsHeaderDeserialize m = .ok hdr)
    (hsane : obsHeaderSanity hdr version m.length trailer = .ok ()) :
    88 + trailer ≤ m.length ∧ byteAt 1 m = channelOc ∧ hdr.payloadLen = u32At 84 m ∧
      (u32At 84 m).toNat + 88 + trailer = m.length := by
  simp only [obsHeaderDeserialize, guard_ok] at h
  obtain ⟨-, h⟩ := h
  cases h
  obtain ⟨hlen, -, hchannel, -, -, hpayload⟩ := obsHeaderSanity_ok_iff.mp hsane
  refine ⟨hlen, hchannel, rfl, ?_⟩
  simp only at hpayload
  omega

/-- An edited observation whose header is in order is an altered one. -/
theorem edited_observation {version' : UInt8} {hdr : ObsHeader} (he : Edited m m')
    (h : obsHeaderDeserialize m = .ok hdr)
    (hsane : obsHeaderSanity hdr version m.length trailer = .ok ())
    (h' : obsHeaderDeserialize m' = .ok hdr')
    (hsane' : obsHeaderSanity hdr' version' m'.length trailer = .ok ()) : Altered m m' := by
  obtain ⟨hlen, -, -, hpayload⟩ := checkedHeader_ok h hsane
  obtain ⟨hlen', -, -, hpayload'⟩ := checkedHeader_ok h' hsane'
  refine edited_altered he 84 4 88 (by decide) (by omega) (by omega) ?_
  intro hsame
  rw [← hpayload, ← hpayload', u32At, u32At, hsame]

theorem checkObservationV2_ok {hdr : ObsHeader} (h : checkObservationV2 C key m = .ok hdr) :
    obsHeaderDeserialize m = .ok hdr ∧ obsHeaderSanity hdr 2 m.length 32 = .ok () ∧
      m.drop (m.length - 32) = (C.hmac key (m.take (m.length - 32))).bytes := by
  simp only [checkObservationV2, bind_ok, guard_ok, not_not] at h
  obtain ⟨hmac, _, hhdr, _, hsane, hok⟩ := h
  cases hok
  exact ⟨hhdr, hsane, hmac⟩

/-- The HMAC at the end of a message is a tag with nothing behind it. -/
theorem tag_at_end {α : Type*} {n : Nat} {l : List α} (h : n ≤ l.length) :
    slice (l.length - n) n l = l.drop (l.length - n) ∧
      around (l.length - n) n l = l.take (l.length - n) := by
  refine ⟨?_, ?_⟩
  · rw [slice, take_of_length_le (by rw [length_drop]; omega)]
  · rw [around, Nat.sub_add_cancel h, drop_length, append_nil]

theorem checkObservationV2_edited {hdr : ObsHeader} (h : checkObservationV2 C key m = .ok hdr)
    (hideal : C.HmacSeparates key (m.take (m.length - 32))) (he : Edited m m') :
    checkObservationV2 C key m' ≠ .ok hdr' := by
  intro h'
  obtain ⟨hhdr, hsane, hmac⟩ := checkObservationV2_ok h
  obtain ⟨hhdr', hsane', hmac'⟩ := checkObservationV2_ok h'
  have halt := edited_observation he hhdr hsane hhdr' hsane'
  have hlen := (checkedHeader_ok hhdr hsane).1
  have hlen' := (checkedHeader_ok hhdr' hsane').1
  obtain ⟨htag, htext⟩ := tag_at_end (l := m) (n := 32) (by omega)
  obtain ⟨htag', htext'⟩ := tag_at_end (l := m') (n := 32) (by omega)
  rw [← htext] at hideal
  rw [← htag, ← htext] at hmac
  rw [← htag', ← htext', halt.length_eq] at hmac'
  exact altered_hmac_ne halt (by omega) hmac hideal hmac'

/-- Whatever the verifier is told to expect, it makes the checks of the signature. -/
theorem virpVerifyObservationV2_ok {s : VirpSession} {e : ObsExpected} {saved : Bool}
    {st : SeqState} (h : (virpVerifyObservationV2 C s e m saved st).2 = .ok r) :
    ∃ hdr, checkObservationV2 C s.sessionKey.bytes m = .ok hdr := by
  rw [virpVerifyObservationV2] at h
  cases hc : checkObservationFor C s e m with
  | error err =>
    rw [hc] at h
    cases h
  | ok hdr =>
    simp only [checkObservationFor, guard_ok, bind_ok] at hc
    obtain ⟨-, -, -, -, hdr, hcheck, -⟩ := hc
    exact ⟨hdr, hcheck⟩

theorem verifyObservationEd25519_ok (h : verifyObservationEd25519 C pk m = .ok r) :
    ∃ hdr, obsHeaderDeserialize m = .ok hdr ∧ obsHeaderSanity hdr 3 m.length (32 + 64) = .ok () ∧
      C.verify pk (m.take (m.length - 64)) (signatureAt (m.length - 64) m) = true := by
  simp only [verifyObservationEd25519, guard_ok, bind_ok, Bool.not_eq_false] at h
  obtain ⟨-, hdr, hhdr, _, hsane, hverify, -⟩ := h
  obtain ⟨hlen, -, hpayload, htotal⟩ := checkedHeader_ok hhdr hsane
  have hspan : 88 + hdr.payloadLen.toNat + 32 = m.length - 64 := by
    rw [hpayload]
    omega
  rw [hspan] at hverify
  exact ⟨hdr, hhdr, hsane, hverify⟩

theorem bytes_signatureAt (h : off + 64 ≤ m.length) :
    (signatureAt off m).bytes = slice off 64 m := by
  have hlen : (slice off 64 m).length = 64 := by
    rw [slice, length_take, length_drop, Nat.min_eq_left (by omega)]
  rw [signatureAt, dif_pos hlen]

theorem signatureAt_congr (h : slice off 64 m' = slice off 64 m) :
    signatureAt off m' = signatureAt off m := by
  simp only [signatureAt, h]

theorem verifyObservationEd25519_edited {r' : ObsHeader × Bytes}
    (h : verifyObservationEd25519 C pk m = .ok r)
    (hideal : C.SignatureSeparates pk (m.take (m.length - 64)) (signatureAt (m.length - 64) m))
    (he : Edited m m') : verifyObservationEd25519 C pk m' ≠ .ok r' := by
  intro h'
  obtain ⟨hdr, hhdr, hsane, hverify⟩ := verifyObservationEd25519_ok h
  obtain ⟨hdr', hhdr', hsane', hverify'⟩ := verifyObservationEd25519_ok h'
  have halt := edited_observation he hhdr hsane hhdr' hsane'
  have hlen := (checkedHeader_ok hhdr hsane).1
  have hlen' := (checkedHeader_ok hhdr' hsane').1
  have heq := halt.length_eq
  have htext := (tag_at_end (l := m) (n := 64) (by omega)).2
  have htext' := (tag_at_end (l := m') (n := 64) (by omega)).2
  rw [← htext] at hideal
  rw [← htext', heq] at hverify'
  rcases halt.around_or (m.length - 64) 64 (by omega) with ⟨hne, hsame⟩ | ⟨hsame, hne⟩
  · rw [signatureAt_congr hsame, hideal.1 _ hne] at hverify'
    cases hverify'
  · rw [← bytes_signatureAt (by omega), ← bytes_signatureAt (m := m') (by omega)] at hne
    rw [hsame, hideal.2 _ hne] at hverify'
    cases hverify'

/-- **Nothing can be changed.**  A message accepted under a key is rejected under it once a byte is
changed, something is added or something is cut off: by the validator of version 1, by the verifier
of version 2 whatever it is told to expect, and by the verifier of version 3.  Messages of the
observation channel are accepted under O-Keys, session keys and observation keys only, those of the
intent channel under R-Keys only. -/
theorem edited_rejected (C : Crypto) :
    (∀ (m : Bytes) (sk : SigningKey) (hdr : Header), validateMessage C m sk = .ok hdr →
      (byteAt 8 m = channelOc → sk.type = .okey) ∧ (byteAt 8 m = channelIc → sk.type = .rkey) ∧
      (C.HmacSeparates sk.key.bytes (signedPart m) →
        ∀ m', Edited m m' → ∀ hdr', validateMessage C m' sk ≠ .ok hdr')) ∧
    (∀ (s : VirpSession) (e : ObsExpected) (m : Bytes) (saved : Bool) (st : SeqState)
      (r : ObsHeader × Bytes), (virpVerifyObservationV2 C s e m saved st).2 = .ok r →
      byteAt 1 m = channelOc ∧
      (C.HmacSeparates s.sessionKey.bytes (m.take (m.length - 32)) →
        ∀ m', Edited m m' → ∀ (s' : VirpSession) (e' : ObsExpected) (saved' : Bool)
          (st' : SeqState) (r' : ObsHeader × Bytes), s'.sessionKey = s.sessionKey →
          (virpVerifyObservationV2 C s' e' m' saved' st').2 ≠ .ok r')) ∧
    (∀ (pk m : Bytes) (r : ObsHeader × Bytes), verifyObservationEd25519 C pk m = .ok r →
      byteAt 1 m = channelOc ∧
      (C.SignatureSeparates pk (m.take (m.length - 64)) (signatureAt (m.length - 64) m) →
        ∀ m', Edited m m' → ∀ r', verifyObservationEd25519 C pk m' ≠ .ok r')) := by
  refine ⟨?_, ?_, ?_⟩
  · intro m sk hdr h
    obtain ⟨-, -, hbind, -⟩ := validateMessage_ok h
    simp only [checkChannelKeyBinding, guard_ok, not_and, not_not, and_true] at hbind
    exact ⟨hbind.1, hbind.2, fun hideal m' he hdr' => validateMessage_edited h hideal he⟩
  · intro s e m saved st r h
    obtain ⟨hdr, hcheck⟩ := virpVerifyObservationV2_ok h
    obtain ⟨hhdr, hsane, -⟩ := checkObservationV2_ok hcheck
    refine ⟨(checkedHeader_ok hhdr hsane).2.1, ?_⟩
    intro hideal m' he s' e' saved' st' r' hkey h'
    obtain ⟨hdr', hcheck'⟩ := virpVerifyObservationV2_ok h'
    rw [hkey] at hcheck'
    exact checkObservationV2_edited hcheck hideal he hcheck'
  · intro pk m r h
    obtain ⟨hdr, hhdr, hsane, -⟩ := verifyObservationEd25519_ok h
    exact ⟨(checkedHeader_ok hhdr hsane).2.1,
      fun hideal m' he r' => verifyObservationEd25519_edited h hideal he⟩

theorem exists_ok {ε α : Type} {x : Except ε α} (h : x.toBool = true) : ∃ a, x = .ok a := by
  cases x with
  | error e => cases h
  | ok a => exact ⟨a, rfl⟩

/-- The one known signature. -/
theorem Crypto.verify_known {macs : List ((Bytes × Bytes) × Bytes)} {seed hexKey hexSig t' : Bytes}
    {sig : Signature}
    (h : (Crypto.known hashes macs [(seed, hexKey)] [((seed, t), hexSig)]).verify pk t' sig = true) :

    t' = t ∧ sig = signatureOfHex hexSig := by
  simp only [Crypto.known, any_cons, any_nil, Bool.or_false, Bool.and_eq_true,
    beq_iff_eq, lookup_cons, lookup_nil] at h
  obtain ⟨-, h⟩ := h
  by_cases ht : t' = t
  · subst ht
    simp only [beq_self_eq_true, Option.map_some, Option.some.injEq] at h
    exact ⟨rfl, h.symm⟩
  · have hne : ((seed, t') == (seed, t)) = false := by simp [ht]
    rw [hne] at h
    cases h

namespace TamperSample
open MessageSample ObservationSample

/-- The signed bytes of an observation of version 3. -/
def signedV3 : Bytes :=
  (ObsHeader.mk 3 1 1 0 7 2000 1 (.fill 16 5) 9 (digestOfHex commandDigest) 2).bytes ++ text "up"

def hmacV3 : Bytes := text "c63e72bd647bd92ac88cd3a4f3d5ae4547dd0f341cdc2e2a274ca4bbee757644"

/-- The HMACs of a heartbeat and of observations of versions 2 and 3, under a key of zero bytes. -/
def macs : List ((Bytes × Bytes) × Bytes) :=
  [((zeroDigest.bytes,
      hex "0130004400000006010100000000002c00000000000003e800000e100101000f00000003"),
    text "08f2f2a77d86e1cdc370131177ab7ce85234aff0e961283cbfaae3d99cc0d81d"),
   ((zeroDigest.bytes, signed 1),
    text "080d1cf8961ae4b2153ccecf6a41f6c8d42de485638bbc21864ef389826c3ebb"),
   ((zeroDigest.bytes, signedV3), hmacV3)]

def seed : Bytes := List.replicate 32 7

def publicKey : Bytes := text "ea4a6c63e29c520abef5507b132ec5f9954776aebebe7b92421eea691446d22c"

def signature : Bytes :=
  text ("c56861b5beb549da0160a4936a9d04672630660e6e67ce373387f3fc0e788c6c" ++
    "67f34ec53179517f818a18d475fb17ba2ced025af2e22f1a24bbf04876720509")

def crypto : Crypto := .known [(text "show version", commandDigest)] macs [(seed, publicKey)]
  [((seed, signedV3 ++ (digestOfHex hmacV3).bytes), signature)]

def heartbeat : Bytes :=
  ((buildHeartbeat crypto 256 1000 6 44 3600 true true 15 3 okey).toOption).getD []

def observation : Bytes :=
  ((buildObservationV2 crypto session times (args 1) 65536).2.toOption).getD []

def observationV3 : Bytes :=
  ((buildObservationEd25519 crypto session ⟨seed, digestOfHex publicKey, true⟩ times (args 1)
    65536).2.toOption).getD []

theorem separates (ht : (macs.lookup (zeroDigest.bytes, t)).isSome) :
    crypto.HmacSeparates zeroDigest.bytes t :=
  fun _ halt heq => halt.ne (Crypto.known_hmac_inj (by decide +kernel) ht heq)

theorem signatureSeparates (pk : Bytes) :
    crypto.SignatureSeparates pk (signedV3 ++ (digestOfHex hmacV3).bytes)
      (signatureOfHex signature) := by
  refine ⟨fun t' halt => ?_, fun sig' halt => ?_⟩
  · by_contra h
    exact halt.ne (Crypto.verify_known (Bool.not_eq_false _ ▸ h)).1
  · by_contra h
    exact halt.ne (congrArg Signature.bytes (Crypto.verify_known (Bool.not_eq_false _ ▸ h)).2)

end TamperSample

section
open MessageSample ObservationSample TamperSample

/-- A heartbeat with its last byte changed, an observation of version 2 with a byte behind it,
and one of version 3 without its last byte. -/
theorem edited_rejected_samples :
    (validateMessage TamperSample.crypto heartbeat okey).toBool = true ∧
    (∀ hdr, validateMessage TamperSample.crypto (heartbeat.set 67 9) okey ≠ .ok hdr) ∧
    (virpVerifyObservationV2 TamperSample.crypto session expected observation true
      .empty).2.toBool = true ∧
    (∀ r, (virpVerifyObservationV2 TamperSample.crypto session expected (observation ++ [0]) true
      .empty).2 ≠ .ok r) ∧
    (verifyObservationEd25519 TamperSample.crypto (digestOfHex publicKey).bytes
      observationV3).toBool = true ∧
    (∀ r, verifyObservationEd25519 TamperSample.crypto (digestOfHex publicKey).bytes
      (observationV3.take 185) ≠ .ok r) := by
  have h₁ : (validateMessage TamperSample.crypto heartbeat okey).toBool = true := by
    decide +kernel
  have h₂ : (virpVerifyObservationV2 TamperSample.crypto session expected observation true
      .empty).2.toBool = true := by
    decide +kernel
  have h₃ : (verifyObservationEd25519 TamperSample.crypto (digestOfHex publicKey).bytes
      observationV3).toBool = true := by
    decide +kernel
  obtain ⟨v1, v2, v3⟩ := edited_rejected TamperSample.crypto
  refine ⟨h₁, fun hdr => ?_, h₂, fun r => ?_, h₃, fun r => ?_⟩
  · obtain ⟨hdr₁, hok⟩ := exists_ok h₁
    refine (v1 _ _ hdr₁ hok).2.2 (separates ?_) _ (.alter ⟨67, 9, rfl, ?_⟩) hdr
    · decide +kernel
    · decide +kernel
  · obtain ⟨r₂, hok⟩ := exists_ok h₂
    have hsep : TamperSample.crypto.HmacSeparates zeroDigest.bytes
        (observation.take (observation.length - 32)) := separates (by decide +kernel)
    exact (v2 session expected observation true .empty r₂ hok).2 hsep _
      (.extend (q := [0]) (by decide)) session expected true .empty r rfl
  · obtain ⟨r₃, hok⟩ := exists_ok h₃
    have htext : observationV3.take (observationV3.length - 64) =
        signedV3 ++ (digestOfHex hmacV3).bytes := by
      decide +kernel
    have hsig : signatureAt (observationV3.length - 64) observationV3 =
        signatureOfHex signature := by
      decide +kernel
    refine (v3 _ _ r₃ hok).2 ?_ _ (.truncate ?_) r
    · rw [htext, hsig]
      exact signatureSeparates _
    · decide +kernel

end

end Virp
