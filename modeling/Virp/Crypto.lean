import Virp.Bytes

/-! # The cryptography the chain is built on

SHA-256, HMAC-SHA256 and Ed25519 come from OpenSSL and libsodium; here they are
the parameter `Crypto`.  What a result needs of them is stated where it is needed,
relative to the texts in play: that a hash or MAC is injective on them.  Nothing is
assumed of a digest but its length.
-/
namespace Virp

/-- 32 bytes. -/
structure Digest where
  bytes : Bytes
  length_eq : bytes.length = 32
deriving DecidableEq

/-- 32 zero bytes. -/
def zeroDigest : Digest := ⟨List.replicate 32 0, List.length_replicate⟩

/-- 64 bytes. -/
structure Signature where
  bytes : Bytes
  length_eq : bytes.length = 64
deriving DecidableEq

/-- 64 zero bytes. -/
def zeroSignature : Signature := ⟨List.replicate 64 0, List.length_replicate⟩

/-- The primitives of the crypto libraries.  `keypair` derives the public key from
a secret seed; `sign` and `verify` are the detached Ed25519 calls; `ecdsaVerify` checks
an ECDSA-P256 signature against a key in its DER form. -/
structure Crypto where
  sha256 : Bytes → Digest
  hmac : Bytes → Bytes → Digest
  keypair : Bytes → Digest
  sign : Bytes → Bytes → Signature
  verify : Bytes → Bytes → Signature → Bool
  ecdsaVerify : Bytes → Bytes → Signature → Bool

namespace Crypto
variable (C : Crypto)

variable (data : Bytes)

def sha256Hex : Bytes := hexEncode (C.sha256 data).bytes

def hmacSha256Hex (key data : Bytes) : Bytes := hexEncode (C.hmac key data).bytes

@[simp] theorem length_sha256Hex : (C.sha256Hex data).length = 64 := by
  simp [sha256Hex, (C.sha256 data).length_eq]

@[simp] theorem length_hmacSha256Hex (key data : Bytes) :
    (C.hmacSha256Hex key data).length = 64 := by
  simp [hmacSha256Hex, (C.hmac key data).length_eq]

theorem plain_sha256Hex : ∀ b ∈ C.sha256Hex data, Plain b :=
  fun _ hb => plain_of_isLowerHex (isLowerHex_of_mem_hexEncode hb)

theorem plain_hmacSha256Hex (key data : Bytes) : ∀ b ∈ C.hmacSha256Hex key data, Plain b :=
  fun _ hb => plain_of_isLowerHex (isLowerHex_of_mem_hexEncode hb)

end Crypto

/-- A field of `cap` bytes: a C string that fits it. -/
structure Field (cap : Nat) where
  bytes : Bytes
  zero_notMem : (0 : UInt8) ∉ bytes
  length_lt : bytes.length < cap
deriving DecidableEq

namespace Field

@[ext] theorem ext {cap : Nat} {f g : Field cap} (h : f.bytes = g.bytes) : f = g := by
  cases f
  cases g
  congr

variable (cap : Nat)

/-- `snprintf(field, cap, "%s", b)`.  That there is room for the terminator is a computation, so it
leaves no proof behind where a definition copies into a field. -/
def copy (b : Bytes) (h : Nat.ble 1 cap = true := by exact Eq.refl true) :
    Field cap where
  bytes := snprintfS cap b
  zero_notMem := zero_notMem_snprintfS cap b
  length_lt := by
    have := length_snprintfS_le cap b
    have := Nat.le_of_ble_eq_true h
    omega

/-- The empty field, as `memset` leaves it. -/
def empty (h : Nat.ble 1 cap = true := by exact Eq.refl true) : Field cap where
  bytes := []
  zero_notMem := by simp
  length_lt := Nat.le_of_ble_eq_true h

@[simp] theorem bytes_copy (b : Bytes) (h : Nat.ble 1 cap = true) :
    (copy cap b h).bytes = snprintfS cap b := rfl

/-- Copying a field's own contents back gives the field. -/
@[simp] theorem copy_bytes {cap : Nat} (f : Field cap) (h : Nat.ble 1 cap = true) :
    copy cap f.bytes h = f :=
  ext (snprintfS_eq_self f.zero_notMem f.length_lt)

theorem bytes_copy_of_fits {cap : Nat} {b : Bytes} (h0 : 0 ∉ b) (hlen : b.length < cap)
    (h : Nat.ble 1 cap = true) : (copy cap b h).bytes = b := snprintfS_eq_self h0 hlen

end Field

/-! ## Detached chain signatures -/

/-- `chainsign_input`: the domain tag, its terminator, and the message; refused
when the message is empty or does not fit the 4096-byte buffer. -/
def chainsignInput (tag msg : Bytes) : Option Bytes :=
  let tlen := tag.length + 1
  if tlen < 2 ∨ 64 < tlen then none
  else if msg.length = 0 ∨ 4096 - tlen < msg.length then none
  else some (tag ++ 0 :: msg)

def tagEntry : Bytes := text "VIRP-CHAIN-ENTRY-SIG-v1"

def tagHead : Bytes := text "VIRP-CHAIN-HEAD-SIG-v1"

/-- `virp_chainsign_key_id_hex`: the first 16 bytes of the public key's hash. -/
def chainsignKeyIdHex (C : Crypto) (pk : Bytes) : Bytes := hexEncode ((C.sha256 pk).bytes.take 16)

/-- `virp_chainsign_sign`, on the seed half of the secret key. -/
def chainsignSign (C : Crypto) (seed tag msg : Bytes) : Option Signature :=
  (chainsignInput tag msg).map (C.sign seed)

def chainsignVerify (C : Crypto) (pk tag msg : Bytes) (sig : Signature) : Bool :=
  match chainsignInput tag msg with
  | none => false
  | some input => C.verify pk input sig

def hexval (c : UInt8) : Option Nat :=
  if 0x30 ≤ c ∧ c ≤ 0x39 then some (c.toNat - 48)
  else if 0x61 ≤ c ∧ c ≤ 0x66 then some (c.toNat - 87)
  else if 0x41 ≤ c ∧ c ≤ 0x46 then some (c.toNat - 55)
  else none

/-- Pairs of hex digits, either case. -/
def hexDecode : Bytes → Option Bytes
  | [] => some []
  | [_] => none
  | hi :: lo :: rest =>
    match hexval hi, hexval lo, hexDecode rest with
    | some h, some l, some r => some ((16 * h + l).toUInt8 :: r)
    | _, _, _ => none

theorem length_hexDecode {s d : Bytes} (h : hexDecode s = some d) : s.length = 2 * d.length := by
  fun_induction hexDecode s generalizing d with
  | case1 =>
    cases h
    rfl
  | case2 x => simp at h
  | case3 hi lo rest a b r hr hlo hhi ih =>
    cases h
    have := ih hr
    simp only [List.length_cons]
    omega
  | case4 hi lo rest hne => simp at h

variable (hex : Bytes)

def chainsignSigFromHex : Option Signature :=
  if hlen : hex.length = 128 then
    match hd : hexDecode hex with
    | some d => some ⟨d, by have := length_hexDecode hd; omega⟩
    | none => none
  else none

/-- The digest a hex string spells, all zero if it spells none. -/
def digestOfHex : Digest :=
  match hexDecode hex with
  | some d => if h : d.length = 32 then ⟨d, h⟩ else zeroDigest
  | none => zeroDigest

/-- The signature a hex string spells, all zero if it spells none. -/
def signatureOfHex : Signature :=
  (chainsignSigFromHex hex).getD zeroSignature

/-- The primitives on finitely many inputs whose results are known, in hex: SHA-256
by text, HMAC by key and text, Ed25519 public keys by seed and signatures by seed
and text. -/
def Crypto.known (hashes : List (Bytes × Bytes)) (macs : List ((Bytes × Bytes) × Bytes))
    (keys : List (Bytes × Bytes)) (sigs : List ((Bytes × Bytes) × Bytes)) : Crypto where
  sha256 t := digestOfHex ((hashes.lookup t).getD [])
  hmac k t := digestOfHex ((macs.lookup (k, t)).getD [])
  keypair seed := digestOfHex ((keys.lookup seed).getD [])
  sign seed t := signatureOfHex ((sigs.lookup (seed, t)).getD [])
  verify pk t sig := keys.any (fun key => (digestOfHex key.2).bytes == pk &&
    (sigs.lookup (key.1, t)).map signatureOfHex == some sig)
  ecdsaVerify _ _ _ := false

/-- The known MACs are told apart from each other and from what an unknown text
gets. -/
def DistinctDigests (macs : List ((Bytes × Bytes) × Bytes)) : Prop :=
  (∀ p ∈ macs, ∀ q ∈ macs, digestOfHex p.2 = digestOfHex q.2 → p = q) ∧
    ∀ p ∈ macs, digestOfHex p.2 ≠ digestOfHex []
deriving Decidable

theorem Crypto.known_hmac_inj {hashes keys : List (Bytes × Bytes)}
    {macs sigs : List ((Bytes × Bytes) × Bytes)} (hd : DistinctDigests macs) {k x y : Bytes}
    (hy : (macs.lookup (k, y)).isSome)
    (h : (Crypto.known hashes macs keys sigs).hmac k x = (Crypto.known hashes macs keys sigs).hmac k y) :
    x = y := by
  have hmem : ∀ {t d : Bytes}, macs.lookup (k, t) = some d → ((k, t), d) ∈ macs := by
    intro t d ht
    obtain ⟨l₁, l₂, hl, -⟩ := List.lookup_eq_some_iff.mp ht
    rw [hl]
    exact List.mem_append_right _ List.mem_cons_self
  obtain ⟨d, hdy⟩ := Option.isSome_iff_exists.mp hy
  simp only [Crypto.known, hdy, Option.getD_some] at h
  cases hx : macs.lookup (k, x) with
  | none =>
    rw [hx] at h
    exact absurd h.symm (hd.2 _ (hmem hdy))
  | some d' =>
    rw [hx] at h
    have hpair := hd.1 _ (hmem hx) _ (hmem hdy) h
    exact congrArg (fun p => p.1.2) hpair

end Virp
