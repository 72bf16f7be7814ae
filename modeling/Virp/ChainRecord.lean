import Virp.Crypto
import Virp.Library.DelimitedText
import Virp.Library.Decimal
import Mathlib.Data.Int.ModEq

/-! # Chain records and their canonical texts

A chain entry is a C structure of fixed-size fields (`Entry`) and a database row
of unbounded columns (`EntryRow`).  `readEntryFromStmt` copies the one from the
other, and `insertRow` binds a structure's fields to a row.

What is hashed, MACed and signed is the entry's canonical text
(`buildCanonicalJson`), in which every string is pasted as it is.  The text still
determines the entry (`core_eq_of_canonical_eq`), provided one of the two entries
has no quote in its strings: the other's then cannot hold one either.  The same
holds of a head's text (`headCanonical_inj`), and texts of different kinds of
record differ in their first key.
-/
namespace Virp

open Decimal List Delimited

/-- `(int64_t)u`, `(int)u`: how an unsigned number of `w` bits is bound. -/
def toColumn (w n : Nat) : Int := if n < 2 ^ (w - 1) then n else n - 2 ^ w

/-- `(uint64_t)i`, `(uint32_t)i`: how a column is read back. -/
def ofColumn (w : Nat) (i : Int) : Nat := (i % 2 ^ w).toNat

theorem ofColumn_toColumn {w n : Nat} (h : n < 2 ^ w) : ofColumn w (toColumn w n) = n := by
  have hpow : ((2 : Int) ^ w) = ((2 ^ w : Nat) : Int) := by norm_cast
  unfold ofColumn toColumn
  rw [hpow]
  split
  · rw [Int.emod_eq_of_lt (by omega) (by omega)]
    rfl
  · rw [Int.sub_emod_right, Int.emod_eq_of_lt (by omega) (by omega)]
    rfl

/-! ## Entries and rows -/

/-- `virp_chain_entry_t`. -/
structure Entry where
  sessionId : Field 64
  sequence : Int
  chainEntryHash : Field 65
  previousEntryHash : Field 65
  timestampNs : UInt64
  monotonicNs : UInt64
  artifactType : Field 16
  artifactId : Field 128
  artifactHash : Field 65
  artifactHashAlg : Field 8
  artifactSchemaVersion : Field 8
  signerNodeId : UInt32
  signerOrgId : Field 64
  chainHmac : Field 65
  chainSig : Field 129
  chainSigKeyId : Field 33
deriving DecidableEq

/-- A row of `chain_entries`.  The signature columns may be `NULL`; the other text columns hold what
every statement binds to them, a value of class TEXT. -/
structure EntryRow where
  rowid : Nat
  sessionId : Bytes
  sequence : Int
  chainEntryHash : Bytes
  previousEntryHash : Bytes
  timestampNs : Int
  monotonicNs : Int
  artifactType : Bytes
  artifactId : Bytes
  artifactHash : Bytes
  artifactHashAlg : Bytes
  artifactSchemaVersion : Bytes
  signerNodeId : Int
  signerOrgId : Bytes
  chainHmac : Bytes
  chainSig : Option Bytes
  chainSigKeyId : Option Bytes
deriving DecidableEq

/-- `read_entry_from_stmt`.  `sigs` says whether the statement fetches the
signature columns; a statement that does not, and a `NULL` cell, leave the field
empty. -/
def readEntryFromStmt (sigs : Bool) (r : EntryRow) : Entry where
  sessionId := .copy 64 r.sessionId
  sequence := r.sequence
  chainEntryHash := .copy 65 r.chainEntryHash
  previousEntryHash := .copy 65 r.previousEntryHash
  timestampNs := .ofNat (ofColumn 64 r.timestampNs)
  monotonicNs := .ofNat (ofColumn 64 r.monotonicNs)
  artifactType := .copy 16 r.artifactType
  artifactId := .copy 128 r.artifactId
  artifactHash := .copy 65 r.artifactHash
  artifactHashAlg := .copy 8 r.artifactHashAlg
  artifactSchemaVersion := .copy 8 r.artifactSchemaVersion
  signerNodeId := .ofNat (ofColumn 32 r.signerNodeId)
  signerOrgId := .copy 64 r.signerOrgId
  chainHmac := .copy 65 r.chainHmac
  chainSig := if sigs then .copy 129 (r.chainSig.getD []) else .empty 129
  chainSigKeyId := if sigs then .copy 33 (r.chainSigKeyId.getD []) else .empty 33

/-- The row the `INSERT` writes for an entry; the signed variant of the statement
binds the two signature columns, the other leaves them `NULL`. -/
def insertRow (signed : Bool) (rowid : Nat) (e : Entry) : EntryRow where
  rowid := rowid
  sessionId := e.sessionId.bytes
  sequence := e.sequence
  chainEntryHash := e.chainEntryHash.bytes
  previousEntryHash := e.previousEntryHash.bytes
  timestampNs := toColumn 64 e.timestampNs.toNat
  monotonicNs := toColumn 64 e.monotonicNs.toNat
  artifactType := e.artifactType.bytes
  artifactId := e.artifactId.bytes
  artifactHash := e.artifactHash.bytes
  artifactHashAlg := e.artifactHashAlg.bytes
  artifactSchemaVersion := e.artifactSchemaVersion.bytes
  signerNodeId := toColumn 32 e.signerNodeId.toNat
  signerOrgId := e.signerOrgId.bytes
  chainHmac := e.chainHmac.bytes
  chainSig := if signed then some e.chainSig.bytes else none
  chainSigKeyId := if signed then some e.chainSigKeyId.bytes else none

/-- The canonical fields of an entry: what its text is made of. -/
def Entry.core (e : Entry) : Entry :=
  { e with
    chainEntryHash := .empty 65, chainHmac := .empty 65, chainSig := .empty 129,
    chainSigKeyId := .empty 33 }

variable {e : Entry} {s : Bytes}

variable {d : Entry} {h : Bytes} {n : Int}

/-- Entries with the same canonical fields agree on whatever depends on those only. -/
theorem Entry.congr_core {α : Type} (f : Entry → α) (hf : ∀ e, f e.core = f e) (h : e.core = d.core) :
    f e = f d := by
  rw [← hf e, h, hf d]

/-- An entry without its signature, as a statement without the signature columns
reads it. -/
def Entry.withoutSig (e : Entry) : Entry :=
  { e with chainSig := .empty 129, chainSigKeyId := .empty 33 }

/-- **A stored entry reads back as itself**, apart from its signature, which is
read back when it was bound and is fetched. -/
theorem readEntryFromStmt_insertRow (sigs signed : Bool) (id : Nat) (e : Entry) :
    (readEntryFromStmt sigs (insertRow signed id e)).withoutSig = e.withoutSig := by
  have h64 : ∀ n : UInt64, UInt64.ofNat (ofColumn 64 (toColumn 64 n.toNat)) = n := by
    intro n
    rw [ofColumn_toColumn n.toNat_lt, UInt64.ofNat_toNat]
  have h32 : ∀ n : UInt32, UInt32.ofNat (ofColumn 32 (toColumn 32 n.toNat)) = n := by
    intro n
    rw [ofColumn_toColumn n.toNat_lt, UInt32.ofNat_toNat]
  simp only [readEntryFromStmt, insertRow, Entry.withoutSig, Field.copy_bytes, h64, h32]

/-- `virp_chain_heads` row: the commitment to a session's length. -/
structure HeadRow where
  sessionId : Bytes
  lastSequence : Int
  lastEntryHash : Bytes
  headHmac : Bytes
  updatedAtNs : Int
  headSig : Option Bytes
  headSigKeyId : Option Bytes
deriving DecidableEq

/-! ## Canonical texts -/

/-- The members of an entry's canonical object after the opening key, each with
the text that closes it. -/
def Entry.members (e : Entry) : List (Bytes × Bytes) :=
  [(e.artifactHash.bytes, text "\",\"artifact_hash_alg\":\""),
   (e.artifactHashAlg.bytes, text "\",\"artifact_id\":\""),
   (e.artifactId.bytes, text "\",\"artifact_schema_version\":\""),
   (e.artifactSchemaVersion.bytes, text "\",\"artifact_type\":\""),
   (e.artifactType.bytes, text "\",\"monotonic_ns\":"),
   (unsigned e.monotonicNs.toNat, text ",\"previous_entry_hash\":\""),
   (e.previousEntryHash.bytes, text "\",\"sequence\":"),
   (signed e.sequence, text ",\"session_id\":\""),
   (e.sessionId.bytes, text "\",\"signer_node_id\":"),
   (unsigned e.signerNodeId.toNat, text ",\"signer_org_id\":\""),
   (e.signerOrgId.bytes, text "\",\"timestamp_ns\":"),
   (unsigned e.timestampNs.toNat, text "\x7d")]

/-- `build_canonical_json`: alphabetical keys, no spaces, strings pasted raw. -/
def buildCanonicalJson (e : Entry) : Bytes :=
  text "\x7b\"artifact_hash\":\"" ++ Delimited.fill e.members

variable (sessionId : Bytes)

/-- The members of a head's canonical object. -/
def headMembers (lastSequence : Int) (lastEntryHash : Bytes) : List (Bytes × Bytes) :=
  [(lastEntryHash, text "\",\"last_sequence\":"),
   (signed lastSequence, text ",\"session_id\":\""),
   (sessionId, text "\",\"v\":\"VIRP-CHAIN-HEAD-v1\"\x7d")]

def headCanonical (lastSequence : Int) (lastEntryHash : Bytes) : Bytes :=
  text "\x7b\"last_entry_hash\":\"" ++
    Delimited.fill (headMembers sessionId lastSequence lastEntryHash)

/-- The text `insert_milestone` MACs. -/
def milestoneJson (sequence entriesCovered : Int) (cumulativeHash : Bytes) : Bytes :=
  text "\x7b\"cumulative_hash\":\"" ++ cumulativeHash ++ text "\",\"entries_covered\":" ++
    signed entriesCovered ++ text ",\"sequence\":" ++ signed sequence ++
    text ",\"session_id\":\"" ++ sessionId ++ text "\"\x7d"

/-- The text the genesis hash of a session is taken of. -/
def genesisText : Bytes := text "VIRP_CHAIN_GENESIS:" ++ sessionId

/-- `compute_genesis_hash`, with a 256-byte buffer. -/
def computeGenesisHash (C : Crypto) (stack sessionId : Bytes) : Bytes :=
  C.sha256Hex (bufferBytes 256 (genesisText sessionId) stack)

/-- The bytes `head_hmac_hex` and the head's signature cover: the canonical head,
through a 512-byte buffer. -/
def headBytes (stack sessionId : Bytes) (lastSequence : Int) (lastEntryHash : Bytes) : Bytes :=
  bufferBytes 512 (headCanonical sessionId lastSequence lastEntryHash) stack

/-- **A canonical text fits its buffer**: every string is a field of the entry, and
the sequence number is one of 64 bits. -/
theorem length_buildCanonicalJson_lt (h : e.sequence.natAbs < 10 ^ 20) :
    (buildCanonicalJson e).length < 2048 := by
  have hkeys : (e.members.map (fun p => p.2.length)).sum = 212 := rfl
  have hopen : (text "\x7b\"artifact_hash\":\"").length = 18 := rfl
  have hu64 : ∀ n : UInt64, (unsigned n.toNat).length ≤ 20 := fun n =>
    length_unsigned_le (by decide) (n.toNat_lt.trans (by decide))
  have hu32 := length_unsigned_le (n := e.signerNodeId.toNat) (k := 10) (by decide)
    (e.signerNodeId.toNat_lt.trans (by decide))
  have hseq := length_signed_le (by decide) h
  have h1 := e.artifactHash.length_lt
  have h2 := e.artifactHashAlg.length_lt
  have h3 := e.artifactId.length_lt
  have h4 := e.artifactSchemaVersion.length_lt
  have h5 := e.artifactType.length_lt
  have h6 := e.previousEntryHash.length_lt
  have h7 := e.sessionId.length_lt
  have h8 := e.signerOrgId.length_lt
  have h9 := hu64 e.monotonicNs
  have h10 := hu64 e.timestampNs
  rw [buildCanonicalJson, length_append, length_fill, hkeys, hopen]
  simp only [Entry.members, map_cons, map_nil, sum_cons, sum_nil]
  omega

/-- A head's text fits its buffer when its session id is not too long. -/
theorem length_headCanonical_lt (hs : s.length ≤ 236) (hh : h.length ≤ 64) (hn : n.natAbs < 10 ^ 20) :
    (headCanonical s n h).length < 512 := by
  have hkeys : ((headMembers s n h).map (fun p => p.2.length)).sum = 60 := rfl
  have hopen : (text "\x7b\"last_entry_hash\":\"").length = 20 := rfl
  have hseq := length_signed_le (by decide) hn
  rw [headCanonical, length_append, length_fill, hkeys, hopen]
  simp only [headMembers, map_cons, map_nil, sum_cons, sum_nil]
  omega

/-- The genesis hash of a session id that fits its buffer depends on the id only. -/
theorem computeGenesisHash_of_fits {C : Crypto} (hs : s.length ≤ 236) (stack : Bytes) :
    computeGenesisHash C stack s = C.sha256Hex (genesisText s) := by
  have hopen : (text "VIRP_CHAIN_GENESIS:").length = 19 := rfl
  rw [computeGenesisHash, bufferBytes_eq_self]
  rw [genesisText, length_append, hopen]
  omega

theorem headBytes_of_fits (hs : s.length ≤ 236) (hh : h.length ≤ 64) (hn : n.natAbs < 10 ^ 20)
    (stack : Bytes) : headBytes stack s n h = headCanonical s n h :=
  bufferBytes_eq_self (length_headCanonical_lt hs hh hn)

/-- No string of the entry holds a quote. -/
def Entry.Clean (e : Entry) : Prop := ∀ p ∈ e.members, (0x22 : UInt8) ∉ p.1

theorem Entry.clean_of_strings (h1 : ∀ b ∈ e.artifactHash.bytes, Plain b)
    (h2 : ∀ b ∈ e.artifactHashAlg.bytes, Plain b) (h3 : ∀ b ∈ e.artifactId.bytes, Plain b)
    (h4 : ∀ b ∈ e.artifactSchemaVersion.bytes, Plain b) (h5 : ∀ b ∈ e.artifactType.bytes, Plain b)
    (h6 : ∀ b ∈ e.previousEntryHash.bytes, Plain b) (h7 : ∀ b ∈ e.sessionId.bytes, Plain b)
    (h8 : ∀ b ∈ e.signerOrgId.bytes, Plain b) : e.Clean := by
  have plain : ∀ {x : Bytes}, (∀ b ∈ x, Plain b) → 0x22 ∉ x :=
    fun hx hm => (hx _ hm).1 rfl
  have hu : ∀ n, 0x22 ∉ unsigned n := notMem_unsigned (by decide)
  have hs : ∀ i, 0x22 ∉ signed i := notMem_signed (by decide) (by decide)
  simp only [Entry.Clean, Entry.members, forall_mem_cons, not_mem_nil, IsEmpty.forall_iff,
    implies_true, and_true]
  exact ⟨plain h1, plain h2, plain h3, plain h4, plain h5, hu _, plain h6, hs _, plain h7, hu _,
    plain h8, hu _⟩

/-- A clean entry's members are separated: a string ends at a quote, a numeral at
a comma or at the closing brace. -/
theorem Entry.separated_of_clean (h : e.Clean) : Delimited.Separated e.members := by
  have hu : ∀ d : UInt8, d.toNat < 48 ∨ 57 < d.toNat → ∀ n, d ∉ unsigned n :=
    fun d hd n => notMem_unsigned hd n
  simp only [Entry.Clean, Entry.members, forall_mem_cons] at h
  simp only [Delimited.Separated, Entry.members, forall_mem_cons, not_mem_nil,
    IsEmpty.forall_iff, implies_true, and_true]
  obtain ⟨h1, h2, h3, h4, h5, -, h7, -, h9, -, h11, -⟩ := h
  exact ⟨⟨_, _, rfl, h1⟩, ⟨_, _, rfl, h2⟩, ⟨_, _, rfl, h3⟩, ⟨_, _, rfl, h4⟩, ⟨_, _, rfl, h5⟩,
    ⟨_, _, rfl, hu _ (by decide) _⟩, ⟨_, _, rfl, h7⟩,
    ⟨_, _, rfl, notMem_signed (by decide) (by decide) _⟩, ⟨_, _, rfl, h9⟩,
    ⟨_, _, rfl, hu _ (by decide) _⟩, ⟨_, _, rfl, h11⟩, ⟨_, _, rfl, hu _ (by decide) _⟩⟩

theorem Entry.clean_of_canonical_eq (hd : d.Clean) (h : buildCanonicalJson e = buildCanonicalJson d) :
    e.Clean := by
  have hfill : fill e.members = fill d.members := append_cancel_left h
  exact clean_of_fill_eq hd hfill.symm rfl

/-- **The canonical text determines the entry's canonical fields**, as long as
the entry it was first built from has no quote in its strings. -/
theorem core_eq_of_canonical_eq (hd : d.Clean) (h : buildCanonicalJson e = buildCanonicalJson d) :
    e.core = d.core := by
  have he := Entry.clean_of_canonical_eq hd h
  have hmem : e.members = d.members :=
    fill_inj (Entry.separated_of_clean he) (Entry.separated_of_clean hd)
      (append_cancel_left h) rfl
  simp only [Entry.members, cons.injEq, Prod.mk.injEq, and_true] at hmem
  obtain ⟨h1, h2, h3, h4, h5, h6, h7, h8, h9, h10, h11, h12⟩ := hmem
  have hmono : e.monotonicNs = d.monotonicNs := UInt64.toNat_inj.mp (unsigned_injective h6)
  have hnode : e.signerNodeId = d.signerNodeId := UInt32.toNat_inj.mp (unsigned_injective h10)
  have htime : e.timestampNs = d.timestampNs := UInt64.toNat_inj.mp (unsigned_injective h12)
  simp only [Entry.core, Field.ext h1, Field.ext h2, Field.ext h3, Field.ext h4, Field.ext h5,
    hmono, Field.ext h7, signed_injective h8, Field.ext h9, hnode, Field.ext h11, htime]

/-- The canonical text of an entry depends on its canonical fields only. -/
theorem buildCanonicalJson_core (e : Entry) : buildCanonicalJson e.core = buildCanonicalJson e :=
  rfl

/-- **A head's text determines the head**: the session, its length and its last
entry, as long as the session id and hash it was built from hold no quote. -/
theorem headCanonical_inj {s' h' : Bytes} {n' : Int} (hs : 0x22 ∉ s')
    (hh : 0x22 ∉ h') (heq : headCanonical s n h = headCanonical s' n' h') :
    s = s' ∧ n = n' ∧ h = h' := by
  have hfill : fill (headMembers s n h) = fill (headMembers s' n' h') :=
    append_cancel_left heq
  have hnum : ∀ d : UInt8, d ≠ 45 → d.toNat < 48 ∨ 57 < d.toNat → ∀ i, d ∉ signed i :=
    fun d h1 h2 i => notMem_signed h1 h2 i
  have hclean : ∀ p ∈ headMembers s n h, 0x22 ∉ p.1 := by
    refine clean_of_fill_eq ?_ hfill.symm rfl
    simp only [headMembers, forall_mem_cons, not_mem_nil, IsEmpty.forall_iff,
      implies_true, and_true]
    exact ⟨hh, hnum _ (by decide) (by decide) _, hs⟩
  simp only [headMembers, forall_mem_cons] at hclean
  have hsep : ∀ {x y : Bytes} {i : Int}, 0x22 ∉ x → 0x22 ∉ y →
      Delimited.Separated (headMembers x i y) := by
    intro x y i hx hy
    simp only [Delimited.Separated, headMembers, forall_mem_cons, not_mem_nil,
      IsEmpty.forall_iff, implies_true, and_true]
    exact ⟨⟨_, _, rfl, hy⟩, ⟨_, _, rfl, hnum _ (by decide) (by decide) _⟩, ⟨_, _, rfl, hx⟩⟩
  have hmem := fill_inj (hsep hclean.2.2.1 hclean.1) (hsep hs hh) hfill rfl
  simp only [headMembers, cons.injEq, Prod.mk.injEq, and_true] at hmem
  exact ⟨hmem.2.2, signed_injective hmem.2.1, hmem.1⟩

end Virp
