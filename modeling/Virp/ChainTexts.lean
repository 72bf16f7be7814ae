import Virp.ChainTamper

/-! # One key, four kinds of text

The chain key authenticates entries, heads and milestones over their canonical texts, and stored
intents over their hash.  Canonical texts are pasted together without escaping.  Strings that obey
the canonical-string rule hold no quote, so a text determines the members it was built from, and
the first key of each canonical object, or the length of an intent hash, tells the kinds apart.
-/
namespace Virp

open Decimal List

/-- What is authenticated under the chain key, by the members its text is made of. -/
inductive MacRecord where
  | entry (e : Entry)
  | head (sessionId : Bytes) (lastSequence : Int) (lastEntryHash : Bytes)
  | milestone (sessionId : Bytes) (sequence entriesCovered : Int) (cumulativeHash : Bytes)
  | intent (intentHash : Field 65)

namespace MacRecord

/-- The kinds of record. -/
inductive Kind where
  | entry | head | milestone | intent
deriving DecidableEq, Repr

def kind : MacRecord → Kind
  | entry _ => .entry
  | head .. => .head
  | milestone .. => .milestone
  | intent _ => .intent

/-- The text that is authenticated. -/
def macText : MacRecord → Bytes
  | entry e => buildCanonicalJson e
  | head s n h => headCanonical s n h
  | milestone s n k h => milestoneJson s n k h
  | intent hash => hash.bytes

/-- The string members of a canonical object. -/
def strings : MacRecord → List Bytes
  | entry e => [e.artifactHash.bytes, e.artifactHashAlg.bytes, e.artifactId.bytes,
      e.artifactSchemaVersion.bytes, e.artifactType.bytes, e.previousEntryHash.bytes,
      e.sessionId.bytes, e.signerOrgId.bytes]
  | head s _ h => [h, s]
  | milestone s _ _ h => [h, s]
  | intent _ => []

/-- The size of the buffer the text is built in. -/
def capacity : MacRecord → Nat
  | entry _ => 2048
  | head .. => 512
  | milestone .. => 512
  | intent _ => 65

/-- The record as far as its text covers it: an entry without hash, MAC and signature. -/
def members : MacRecord → MacRecord
  | entry e => entry e.core
  | r => r

/-- The bytes the MAC is taken of, `stack` being what lies behind the buffer. -/
def macBytes (r : MacRecord) (stack : Bytes) : Bytes := bufferBytes r.capacity r.macText stack

/-- The strings obey the canonical-string rule, and the text fits its buffer. -/
structure Canonical (r : MacRecord) : Prop where
  strings : ∀ x ∈ r.strings, canonicalStringOk x = true
  fits : r.macText.length < r.capacity

end MacRecord

theorem quote_notMem {x : Bytes} (h : canonicalStringOk x = true) : 0x22 ∉ x :=
  fun hm => (plain_of_canonicalStringOk h _ hm).1 rfl

/-- The members of a milestone's text. -/
def milestoneMembers (s : Bytes) (n k : Int) (h : Bytes) : List (Bytes × Bytes) :=
  [(h, text "\",\"entries_covered\":"), (signed k, text ",\"sequence\":"),
   (signed n, text ",\"session_id\":\""), (s, text "\"\x7d")]

theorem milestoneJson_eq_fill (s : Bytes) (n k : Int) (h : Bytes) : milestoneJson s n k h =
      text "\x7b\"cumulative_hash\":\"" ++ Delimited.fill (milestoneMembers s n k h) := by
  simp only [milestoneJson, milestoneMembers, Delimited.fill, append_assoc, append_nil]

/-- **A milestone's text determines the milestone.** -/
theorem milestoneJson_inj {s s' h h' : Bytes} {n n' k k' : Int} (hs : 0x22 ∉ s)
    (hh : 0x22 ∉ h) (hs' : 0x22 ∉ s') (hh' : 0x22 ∉ h')
    (heq : milestoneJson s n k h = milestoneJson s' n' k' h') :
    s = s' ∧ n = n' ∧ k = k' ∧ h = h' := by
  have hsep : ∀ {x y : Bytes} {i j : Int}, 0x22 ∉ x → 0x22 ∉ y →
      Delimited.Separated (milestoneMembers x i j y) := by
    intro x y i j hx hy
    have hcomma : ∀ i, (0x2C : UInt8) ∉ signed i := notMem_signed (by decide) (by decide)
    simp only [Delimited.Separated, milestoneMembers, forall_mem_cons, not_mem_nil,
      IsEmpty.forall_iff, implies_true, and_true]
    exact ⟨⟨_, _, rfl, hy⟩, ⟨_, _, rfl, hcomma _⟩, ⟨_, _, rfl, hcomma _⟩, ⟨_, _, rfl, hx⟩⟩
  rw [milestoneJson_eq_fill, milestoneJson_eq_fill] at heq
  have hmem := Delimited.fill_inj (hsep hs hh) (hsep hs' hh') (append_cancel_left heq) rfl
  simp only [milestoneMembers, cons.injEq, Prod.mk.injEq, and_true] at hmem
  obtain ⟨h1, h2, h3, h4⟩ := hmem
  exact ⟨h4, signed_injective h3, signed_injective h2, h1⟩

namespace MacRecord

/-- The third character of a canonical object: the first of its first key. -/
def Kind.mark : Kind → Option UInt8
  | .entry => some 0x61
  | .head => some 0x6c
  | .milestone => some 0x63
  | .intent => none

theorem Kind.mark_injective {a b : Kind} (h : a.mark = b.mark) : a = b := by
  cases a <;> cases b <;> first | rfl | exact absurd h (by decide)

/-- An intent hash is short; a canonical object is long, and marked by its kind. -/
theorem macText_mark (r : MacRecord) : (r.kind = .intent ∧ r.macText.length ≤ 64) ∨
      (64 < r.macText.length ∧ r.macText[2]? = r.kind.mark) := by
  cases r with
  | entry e => exact .inr ⟨lt_length_entry e, third_entry e⟩
  | head s n h =>
    have hlen : 64 < (headCanonical s n h).length := by
      have := le_length_headCanonical s h n
      omega
    exact .inr ⟨hlen, third_headCanonical s h n⟩
  | milestone s n k h =>
    have hlen : 64 < (milestoneJson s n k h).length := by
      have hkeys : ((milestoneMembers s n k h).map (fun p => p.2.length)).sum = 49 := rfl
      have hopen : (text "\x7b\"cumulative_hash\":\"").length = 20 := rfl
      rw [milestoneJson_eq_fill, length_append, Delimited.length_fill, hkeys, hopen]
      omega
    exact .inr ⟨hlen, third_milestoneJson s h n k⟩
  | intent hash =>
    have hlt : hash.bytes.length < 65 := hash.length_lt
    exact .inl ⟨rfl, Nat.le_of_lt_succ hlt⟩

/-- **Texts of different kinds differ.** -/
theorem kind_eq_of_macText_eq {r r' : MacRecord} (h : r.macText = r'.macText) :
    r.kind = r'.kind := by
  have hlen : r.macText.length = r'.macText.length := by rw [h]
  rcases macText_mark r with ⟨hk, hle⟩ | ⟨hlt, hmark⟩
  · rcases macText_mark r' with ⟨hk', -⟩ | ⟨hlt', -⟩
    · rw [hk, hk']
    · omega
  · rcases macText_mark r' with ⟨-, hle'⟩ | ⟨-, hmark'⟩
    · omega
    · rw [h, hmark'] at hmark
      exact Kind.mark_injective hmark.symm

/-- A canonical entry holds no quote. -/
theorem Canonical.clean {e : Entry} (h : (entry e).Canonical) : e.Clean := by
  have hs := h.strings
  simp only [MacRecord.strings, forall_mem_cons] at hs
  obtain ⟨h1, h2, h3, h4, h5, h6, h7, h8, -⟩ := hs
  exact Entry.clean_of_strings (plain_of_canonicalStringOk h1) (plain_of_canonicalStringOk h2)
    (plain_of_canonicalStringOk h3) (plain_of_canonicalStringOk h4) (plain_of_canonicalStringOk h5)
    (plain_of_canonicalStringOk h6) (plain_of_canonicalStringOk h7) (plain_of_canonicalStringOk h8)

/-- **A text determines its record**, whatever its kind. -/
theorem members_eq_of_macText_eq {r r' : MacRecord} (hr : r.Canonical) (hr' : r'.Canonical)
    (h : r.macText = r'.macText) : r.members = r'.members := by
  have hkind := kind_eq_of_macText_eq h
  cases r with
  | entry e =>
    cases r' with
    | entry e' => exact congrArg entry (core_eq_of_canonical_eq hr'.clean h)
    | _ => cases hkind
  | head s n hash =>
    cases r' with
    | head s' n' hash' =>
      have hs' := hr'.strings
      simp only [strings, forall_mem_cons] at hs'
      obtain ⟨rfl, rfl, rfl⟩ := headCanonical_inj (quote_notMem hs'.2.1) (quote_notMem hs'.1) h
      rfl
    | _ => cases hkind
  | milestone s n k hash =>
    cases r' with
    | milestone s' n' k' hash' =>
      have hs := hr.strings
      have hs' := hr'.strings
      simp only [strings, forall_mem_cons] at hs hs'
      obtain ⟨rfl, rfl, rfl, rfl⟩ := milestoneJson_inj (quote_notMem hs.2.1) (quote_notMem hs.1)
        (quote_notMem hs'.2.1) (quote_notMem hs'.1) h
      rfl
    | _ => cases hkind
  | intent hash =>
    cases r' with
    | intent hash' => exact congrArg intent (Field.ext h)
    | _ => cases hkind

end MacRecord

/-- **Canonical texts are unambiguous.**  Records with the same text agree in every member, and are
of one kind; so two records of different kinds with one MAC would be a collision of the MAC. -/
theorem canonical_texts_unambiguous {C : Crypto} {K : Bytes} {r r' : MacRecord} (hr : r.Canonical)
    (hr' : r'.Canonical) :
    (r.macText = r'.macText → r.members = r'.members) ∧
    (r.kind ≠ r'.kind → r.macText ≠ r'.macText) ∧
    (∀ stack stack', r.kind ≠ r'.kind →
      C.hmacSha256Hex K (r.macBytes stack) = C.hmacSha256Hex K (r'.macBytes stack') →
      C.hmac K r.macText = C.hmac K r'.macText ∧ r.macText ≠ r'.macText) := by
  have hkinds : r.kind ≠ r'.kind → r.macText ≠ r'.macText :=
    fun hne h => hne (MacRecord.kind_eq_of_macText_eq h)
  refine ⟨MacRecord.members_eq_of_macText_eq hr hr', hkinds, ?_⟩
  intro stack stack' hne hmac
  rw [MacRecord.macBytes, MacRecord.macBytes, bufferBytes_eq_self hr.fits,
    bufferBytes_eq_self hr'.fits] at hmac
  exact ⟨hmac_eq_of_hex hmac, hkinds hne⟩

namespace Sample

/-- A head and a milestone of one session, with the same number and hash. -/
def sampleHead : MacRecord := .head (text "s1") 100 observationHash

def sampleMilestone : MacRecord := .milestone (text "s1") 100 100 observationHash

end Sample

open Sample

/-- The head and the milestone at one entry have different texts. -/
theorem canonical_texts_unambiguous_head_milestone :
    sampleHead.Canonical ∧ sampleMilestone.Canonical ∧
      sampleHead.macText ≠ sampleMilestone.macText := by
  have hh : sampleHead.Canonical := ⟨by decide +kernel, by decide +kernel⟩
  have hm : sampleMilestone.Canonical := ⟨by decide +kernel, by decide +kernel⟩
  exact ⟨hh, hm, (canonical_texts_unambiguous (C := crypto) (K := []) hh hm).2.1 (by decide)⟩

end Virp
