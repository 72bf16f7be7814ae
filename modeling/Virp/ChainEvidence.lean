import Virp.ChainAppend
import Virp.Library.SortedSearch
import Mathlib.Data.Rat.Defs

/-! # Grading the evidence records

Before it dispatches a command the daemon appends a `gate_intent`, and afterwards
a closer (`gate_execution` or `outcome`) whose body names the intent by its entry
hash.  The verifier grades the two kinds of record against each other.  The
closers and the intents' approvals are collected in one pass over the whole
database, sorted, and looked up by binary search.

Bodies are read with cJSON, whose parser is the parameter `parse`.
-/
namespace Virp

/-! ## Parsed bodies -/

/-- The value of a JSON number: a finite double, or an overflowed one. -/
inductive JsonNumber where
  | finite (value : ℚ)
  | infinite (negative : Bool)
deriving DecidableEq

/-- A parsed document. -/
inductive Json where
  | null
  | bool (b : Bool)
  | number (n : JsonNumber)
  | string (s : Bytes)
  | array (items : List Json)
  | object (members : List (Bytes × Json))

namespace Json

variable (o : Json) (key : Bytes)

/-- `cJSON_GetObjectItemCaseSensitive`: the first member of that name. -/
def item : Option Json :=
  match o with
  | .object members => (members.find? (·.1 == key)).map Prod.snd
  | _ => none

/-- `cj_str`: a string member, copied into a buffer of `cap` bytes. -/
def str (cap : Nat) : Option Bytes :=
  match o.item key with
  | some (.string s) => some (snprintfS cap s)
  | _ => none

/-- A string member that is present and not empty. -/
def strNonempty (cap : Nat) : Option Bytes :=
  match o.str key cap with
  | some (b :: s) => some (b :: s)
  | _ => none

/-- A number member. -/
def num : Option JsonNumber :=
  match o.item key with
  | some (.number n) => some n
  | _ => none

end Json

/-- What a SELECT of the verifier can fail at. -/
inductive VerifyQuery where
  | walk | headHmac | hmac | bindingPrepare | bindingStep | entryBody | closerMap | intentMap | closerBody
  | hashIsIntent | cutover
deriving DecidableEq, Repr

/-- The environment of a verification: which queries fail while the entry of a
given sequence number is graded, and the stack behind the local buffers. -/
structure ReadEnv where
  fails : Int → VerifyQuery → Bool
  stack : Bytes

/-- No query fails. -/
def ReadEnv.Fine (env : ReadEnv) : Prop := ∀ n q, env.fails n q = false

/-! ## The lookup maps -/

def strcmp : Bytes → Bytes → Ordering
  | [], [] => .eq
  | [], _ :: _ => .lt
  | _ :: _, [] => .gt
  | a :: x, b :: y => if a < b then .lt else if b < a then .gt else strcmp x y

/-- `chain_closer_ref_t`: a closer, by the intent hash it cites. -/
structure CloserRef where
  cited : Bytes
  type : Bytes
  rowid : Nat
deriving DecidableEq

def typeIsCloser (t : Bytes) : Bool := t == text "gate_execution" || t == text "outcome"

section
variable (parse : Bytes → Option Json) (db : Db)

variable (r : EntryRow)

/-- The body stored for a row, parsed. -/
def parsedBody : Option Json := (db.bodyOf r).bind (fun b => parse (cstr b))

/-- The closer a row is, if it is one: a row of a closer type whose body cites an
intent. -/
def closerRef : Option CloserRef :=
  if typeIsCloser r.artifactType then
    ((parsedBody parse db r).bind (·.strNonempty (text "intent_entry_hash") 65)).map
      (fun cited => ⟨cited, snprintfS 16 r.artifactType, r.rowid⟩)
  else none

/-- `chain_build_closer_map_locked`: every closer of the database, sorted by the
hash it cites. -/
def closerMap : List CloserRef :=
  (db.entries.rows.filterMap (closerRef parse db)).insertionSort
    (fun a b => strcmp a.cited b.cited ≠ .gt)

/-- The approval an intent row cites, if any. -/
def intentApproval : Option Bytes :=
  if r.artifactType == text "gate_intent" then
    (parsedBody parse db r).bind (·.strNonempty (text "approval_entry_hash") 65)
  else none

/-- `chain_build_intent_map_locked`: the approvals cited by the intents of the
database, sorted. -/
def intentMap : List Bytes :=
  (db.entries.rows.filterMap (intentApproval parse db)).insertionSort
    (fun a b => strcmp a b ≠ .gt)

/-- `chain_count_intents_for_approval_locked`, on a map that could be built. -/
def countIntentsForApproval (aeh : Field 65) : Nat :=
  if aeh.bytes = [] then 0
  else ((SortedSearch.matchBlock (fun x => strcmp x aeh.bytes) (intentMap parse db)).map
    Prod.snd).getD 0

/-- The closers that cite an intent: their number, and the first of them. -/
def closersOf (hash : Bytes) : Nat × Option CloserRef :=
  match SortedSearch.matchBlock (fun x : CloserRef => strcmp x.cited hash) (closerMap parse db) with
  | none => (0, none)
  | some (lo, n) => (n, (closerMap parse db)[lo]?)

/-- `chain_body_by_entry_hash_locked`. -/
def bodyByEntryHash (hash : Bytes) : Option Bytes := ((db.entryByHash hash).bind db.bodyOf).map cstr

end

/-! ## Grades -/

/-- Both carry the string field, and it differs. -/
def strDiffers (intent closer : Json) (key : Bytes) : Bool :=
  match intent.str key 96, closer.str key 96 with
  | some a, some b => a != b
  | _, _ => false

/-- Both carry the number field, and it differs. -/
def numDiffers (intent closer : Json) (key : Bytes) : Bool :=
  match intent.num key, closer.num key with
  | some a, some b => a != b
  | _, _ => false

def closerBindingMismatch (intent : Json) (closerType : Bytes) (closer : Json) : Bool :=
  strDiffers intent closer (text "device") ||
    if closerType = text "gate_execution" then
      strDiffers intent closer (text "command") || strDiffers intent closer (text "session") ||
        numDiffers intent closer (text "uid")
    else
      strDiffers intent closer (text "proposal_id") ||
        strDiffers intent closer (text "approval_entry_hash")

/-- Why a session is reported broken. -/
inductive Broken where
  | legacyChain | headMissing (entries : Bool) | headUnsigned | headHmac | headSignature
  | headMismatch | range | missingPrior | sequenceGap (expected got : Int) | previousHash
  | canonicalTooLong | entryHash | hmacError | entryHmac | strippedSignature | signatureKeyId
  | signature | bindingUnreadable | binding | doubleSpend | twoClosers | closerBinding
  | citedAbsent | citedNotIntent | walkFailed | cutoverUnreadable | notACutover | truncated
  | prefixHeadUnsigned
deriving DecidableEq, Repr

/-- How an intent is graded. -/
inductive IntentGrade where
  | broken (why : Broken)
  | isOpen
  | isClosed
deriving DecidableEq, Repr

section
variable (parse : Bytes → Option Json) (env : ReadEnv) (db : Db)

/-- Two intents cite the approval this one cites. -/
def doubleSpent (seq : Int) (intent : Option Json) : Bool :=
  match intent.bind (·.strNonempty (text "approval_entry_hash") 65) with
  | none => false
  | some aeh => !env.fails seq .intentMap && 1 < countIntentsForApproval parse db (.copy 65 aeh)

/-- The one closer of an intent disagrees with it. -/
def bindingBad (seq : Int) (intent : Option Json) (closer : Option CloserRef) : Bool :=
  match intent, closer with
  | some intent, some ref =>
    if env.fails seq .closerBody then false
    else
      match (db.entries.rows.find? (·.rowid == ref.rowid)).bind (parsedBody parse db) with
      | some body => closerBindingMismatch intent ref.type body
      | none => false
  | _, _ => false

/-- `chain_grade_intent_locked`. -/
def gradeIntent (e : Entry) (body : Option Bytes) : IntentGrade :=
  let intent := body.bind parse
  if doubleSpent parse env db e.sequence intent then .broken .doubleSpend
  else if env.fails e.sequence .closerMap then .isOpen
  else
    let closers := closersOf parse db e.chainEntryHash.bytes
    if 1 < closers.1 then .broken .twoClosers
    else if closers.1 = 1 ∧ bindingBad parse env db e.sequence intent closers.2 = true then
      .broken .closerBinding
    else if closers.1 = 0 then .isOpen
    else .isClosed

/-- `chain_grade_closer_locked`: what the closer cites must be an intent. -/
def gradeCloser (e : Entry) (body : Option Bytes) : Option Broken :=
  match (body.bind parse).bind (·.strNonempty (text "intent_entry_hash") 65) with
  | none => none
  | some cited =>
    if env.fails e.sequence .hashIsIntent then none
    else
      match db.entryByHash cited with
      | none => some .citedAbsent
      | some r => if cstr r.artifactType = text "gate_intent" then none else some .citedNotIntent

end

end Virp
