import Virp.ChainClosers

/-! # What the binding check of a closer sees

A closer is compared with the intent it cites over the fields both carry, and counted as citing an
intent by the hash in its body.  All of these are JSON strings of any length, copied into buffers
of 96 and 65 bytes before they are compared.  So a difference is reported exactly if it shows in
the copies, and a citation counts exactly if its copy is the hash (`closer_binding_checked_iff`).
-/
namespace Virp

open List Json

variable {parse : Bytes → Option Json} {env : ReadEnv} {db : Db}

/-- The string fields compared for a closer of a type. -/
def comparedStrings (closerType : Bytes) : List Bytes :=
  text "device" ::
    if closerType = text "gate_execution" then [text "command", text "session"]
    else [text "proposal_id", text "approval_entry_hash"]

/-- Both carry the string field, and it differs as far as `see` shows it. -/
def StringsDiffer (see : Bytes → Bytes) (o o' : Json) (key : Bytes) : Prop :=
  ∃ s s', o.item key = some (.string s) ∧ o'.item key = some (.string s') ∧ see s ≠ see s'

/-- Both carry a numeric `uid`, and it differs. -/
def UidDiffers (intent : Json) (closerType : Bytes) (closer : Json) : Prop :=
  closerType = text "gate_execution" ∧
    ∃ m n, intent.num (text "uid") = some m ∧ closer.num (text "uid") = some n ∧ m ≠ n

/-- Some field that both bodies carry differs, as far as `see` shows it. -/
def BodiesDiffer (see : Bytes → Bytes) (intent : Json) (closerType : Bytes) (closer : Json) : Prop :=
  (∃ key ∈ comparedStrings closerType, StringsDiffer see intent closer key) ∨
    UidDiffers intent closerType closer

theorem strDiffers_iff {o o' : Json} {key : Bytes} :
    strDiffers o o' key = true ↔ StringsDiffer (snprintfS 96) o o' key := by
  unfold strDiffers StringsDiffer str
  cases hi : o.item key with
  | none => simp
  | some x =>
    cases x with
    | string s =>
      cases hi' : o'.item key with
      | none => simp
      | some x' =>
        cases x' with
        | string s' => simp
        | _ => simp
    | _ => simp

theorem numDiffers_iff {o o' : Json} {key : Bytes} :
    numDiffers o o' key = true ↔ ∃ m n, o.num key = some m ∧ o'.num key = some n ∧ m ≠ n := by
  unfold numDiffers
  cases o.num key <;> cases o'.num key <;> simp

variable {intent closer : Json} {e : Entry} {ref : CloserRef}

/-- **What the comparison reports**: a difference of the copies. -/
theorem closerBindingMismatch_iff {closerType : Bytes} :
    closerBindingMismatch intent closerType closer = true ↔
      BodiesDiffer (snprintfS 96) intent closerType closer := by
  unfold closerBindingMismatch BodiesDiffer UidDiffers comparedStrings
  by_cases ht : closerType = text "gate_execution"
  · simp only [ht, if_true, Bool.or_eq_true, strDiffers_iff, numDiffers_iff, mem_cons,
      not_mem_nil, or_false, exists_eq_or_imp, exists_eq_left, true_and, or_assoc]
  · simp only [ht, if_false, Bool.or_eq_true, strDiffers_iff, mem_cons, not_mem_nil,
      or_false, exists_eq_or_imp, exists_eq_left, false_and]

/-- The string a row's body cites as its intent, in full. -/
def rawCitation (parse : Bytes → Option Json) (db : Db) (r : EntryRow) : Option Bytes :=
  (parsedBody parse db r).bind fun o =>
    match o.item (text "intent_entry_hash") with
    | some (.string s) => some s
    | _ => none

/-- The row counts as a closer that cites the hash. -/
def CountedFor (parse : Bytes → Option Json) (db : Db) (hash : Bytes) (r : EntryRow) : Prop :=
  ∃ ref, closerRef parse db r = some ref ∧ ref.cited = hash

/-- A row counts by the copy of what it cites. -/
theorem countedFor_iff {hash : Bytes} {r : EntryRow} :
    CountedFor parse db hash r ↔ typeIsCloser r.artifactType = true ∧ hash ≠ [] ∧
      ∃ s, rawCitation parse db r = some s ∧ snprintfS 65 s = hash := by
  unfold CountedFor closerRef rawCitation
  by_cases ht : typeIsCloser r.artifactType = true
  · rw [if_pos ht]
    cases hb : parsedBody parse db r with
    | none => simp
    | some o =>
      cases hi : o.item (text "intent_entry_hash") with
      | none => simp [strNonempty, str, hi]
      | some x =>
        cases x with
        | string s =>
          cases hs : snprintfS 65 s with
          | nil => simp [ht, strNonempty, str, hi, hs, eq_comm]
          | cons b rest =>
            simp only [Option.bind_some, strNonempty, str, hi, hs, Option.map_some,
              Option.some.injEq, exists_eq_left', ht, true_and]
            refine ⟨?_, fun h => h.2⟩
            rintro rfl
            exact ⟨cons_ne_nil _ _, rfl⟩
        | _ => simp [strNonempty, str, hi]
  · simp [ht]

/-- An intent with a body and exactly one closer, with its body. -/
structure OneCloser (parse : Bytes → Option Json) (db : Db) (e : Entry) (ref : CloserRef)
    (intent closer : Json) : Prop where
  isIntent : e.artifactType.bytes = text "gate_intent"
  body : bodyOfEntry parse db e = some intent
  single : closersCiting parse db e.chainEntryHash.bytes = [ref]
  closer : closerBody parse db ref = some closer

/-- No read that the comparison of the bodies needs fails. -/
def BodiesRead (env : ReadEnv) (seq : Int) : Prop :=
  env.fails seq .entryBody = false ∧ env.fails seq .closerMap = false ∧
    env.fails seq .closerBody = false

/-- The approval of the intent, as far as its body is read, is spent twice. -/
def spentTwice (parse : Bytes → Option Json) (env : ReadEnv) (db : Db) (e : Entry) : Bool :=
  doubleSpent parse env db e.sequence ((evidenceBody env db e).bind parse)

/-- The comparison of the one closer with its intent. -/
theorem OneCloser.bindingBad_eq (h : OneCloser parse db e ref intent closer) :
    bindingBad parse env db e.sequence ((evidenceBody env db e).bind parse) (some ref) =
      (!env.fails e.sequence .entryBody && !env.fails e.sequence .closerBody &&
        closerBindingMismatch intent ref.type closer) := by
  have hbody : (db.entries.rows.find? (·.rowid == ref.rowid)).bind (parsedBody parse db) =
      some closer := h.closer
  unfold evidenceBody
  by_cases hr : env.fails e.sequence .entryBody = true
  · simp [hr, bindingBad]
  · rw [if_neg hr,
      show (bodyByEntryHash db e.chainEntryHash.bytes).bind parse = some intent from h.body]
    by_cases hc : env.fails e.sequence .closerBody = true <;> simp [bindingBad, hr, hc, hbody]

/-- When an intent with one closer is graded broken. -/
theorem OneCloser.broken_iff (h : OneCloser parse db e ref intent closer) :
    gradeIntent parse env db e (evidenceBody env db e) =
        .broken (if spentTwice parse env db e = true then .doubleSpend else .closerBinding) ↔
      spentTwice parse env db e = true ∨
        BodiesRead env e.sequence ∧ closerBindingMismatch intent ref.type closer = true := by
  have hcount : (closersOf parse db e.chainEntryHash.bytes).1 = 1 := by
    rw [closersOf_fst, h.single]
    rfl
  obtain ⟨ref', hmem, hsnd⟩ := closersOf_snd parse db
    (show (closersOf parse db e.chainEntryHash.bytes).1 ≠ 0 by omega)
  obtain rfl : ref' = ref := by simpa [h.single] using hmem
  have hbad : bindingBad parse env db e.sequence ((evidenceBody env db e).bind parse) (some ref') =
      (!env.fails e.sequence .entryBody && !env.fails e.sequence .closerBody &&
        closerBindingMismatch intent ref'.type closer) := h.bindingBad_eq
  unfold gradeIntent spentTwice BodiesRead
  by_cases hd : doubleSpent parse env db e.sequence ((evidenceBody env db e).bind parse) = true
  · simp [hd]
  by_cases hm : env.fails e.sequence .closerMap = true
  · simp [hd, hm]
  · simp only [hd, hm, hcount, hsnd, hbad]
    cases env.fails e.sequence .entryBody <;> cases env.fails e.sequence .closerBody <;>
      cases closerBindingMismatch intent ref'.type closer <;> simp

/-- **What the binding check is for**: whenever the bodies differ in a compared field, the
intent is reported broken and its session invalid; and only citations of exactly its hash count. -/
structure BindingChecked (parse : Bytes → Option Json) (env : ReadEnv) (db : Db) (e : Entry)
    (ref : CloserRef) (intent closer : Json) : Prop where
  reported : BodiesDiffer id intent ref.type closer →
    gradeIntent parse env db e (evidenceBody env db e) =
      .broken (if spentTwice parse env db e = true then .doubleSpend else .closerBinding)
  invalid : BodiesDiffer id intent ref.type closer → ∀ C v s row, db.headGet s = some row →
    e ∈ entriesRead v db s 0 row.lastSequence →
      (chainVerifySessionLocked C parse v env db s).valid = false
  cited : ∀ r ∈ db.entries.rows, CountedFor parse db e.chainEntryHash.bytes r →
    rawCitation parse db r = some e.chainEntryHash.bytes

/-- A broken intent makes its session invalid. -/
theorem invalid_of_broken (ht : e.artifactType.bytes = text "gate_intent") {why : Broken}
    (hg : gradeIntent parse env db e (evidenceBody env db e) = .broken why) {C : Crypto}
    {v : Handle} {s : Bytes} {row : HeadRow} (hrow : db.headGet s = some row)
    (he : e ∈ entriesRead v db s 0 row.lastSequence) :
    (chainVerifySessionLocked C parse v env db s).valid = false := by
  have hnot : evidenceOk parse env db e = false := by
    rw [evidenceOk, if_pos ht, hg]
  by_contra hvalid
  obtain ⟨row', hs⟩ := valid_iff.mp (by simpa using hvalid)
  obtain rfl : row' = row := Option.mem_unique hs.head hrow
  exact absurd (hs.authentic e he).evidence (by simp [hnot])

/-- **Exactly when the binding check sees every difference**: the approval is spent twice, which is
reported in its place, or the bodies are read and, where they differ, some field differs in its
first 95 bytes up to a zero byte; and no closer cites another string that is cut to the hash. -/
theorem closer_binding_checked_iff {e : Entry} {ref : CloserRef} {intent closer : Json}
    (h : OneCloser parse db e ref intent closer) :
    BindingChecked parse env db e ref intent closer ↔
      (spentTwice parse env db e = true ∨
        (BodiesDiffer id intent ref.type closer → BodiesRead env e.sequence ∧
          BodiesDiffer (snprintfS 96) intent ref.type closer)) ∧
      (∀ r ∈ db.entries.rows, typeIsCloser r.artifactType = true → ∀ s,
        rawCitation parse db r = some s → snprintfS 65 s = e.chainEntryHash.bytes →
          s = e.chainEntryHash.bytes ∨ e.chainEntryHash.bytes = []) := by
  constructor
  · intro hc
    constructor
    · by_cases hd : spentTwice parse env db e = true
      · exact .inl hd
      · refine .inr fun hdiff => ?_
        obtain ⟨hread, hm⟩ := (h.broken_iff.mp (hc.reported hdiff)).resolve_left hd
        exact ⟨hread, closerBindingMismatch_iff.mp hm⟩
    · intro r hr ht s hs hcut
      by_cases hnil : e.chainEntryHash.bytes = []
      · exact .inr hnil
      · have hraw := hc.cited r hr (countedFor_iff.mpr ⟨ht, hnil, s, hs, hcut⟩)
        exact .inl (Option.some.inj (hs.symm.trans hraw))
  · rintro ⟨hshow, hcite⟩
    have hbroken : BodiesDiffer id intent ref.type closer →
        gradeIntent parse env db e (evidenceBody env db e) =
          .broken (if spentTwice parse env db e = true then .doubleSpend else .closerBinding) := by
      intro hdiff
      refine h.broken_iff.mpr (hshow.imp_right fun hseen => ?_)
      obtain ⟨hread, hcut⟩ := hseen hdiff
      exact ⟨hread, closerBindingMismatch_iff.mpr hcut⟩
    refine ⟨hbroken, fun hdiff C v s row hrow he =>
      invalid_of_broken h.isIntent (hbroken hdiff) hrow he, ?_⟩
    intro r hr hcounted
    obtain ⟨ht, hne, s, hs, hcut⟩ := countedFor_iff.mp hcounted
    rw [hs, (hcite r hr ht s hs hcut).resolve_right hne]

/-- A closer's body is the parsed text of its row's artifact. -/
theorem closerBody_eq {body : Bytes}
    (h : ((db.entries.rows.find? (·.rowid == ref.rowid)).bind db.bodyOf).map cstr = some body) :
    closerBody parse db ref = parse body := by
  unfold closerBody
  cases hr : db.entries.rows.find? (·.rowid == ref.rowid) with
  | none => simp [hr] at h
  | some r =>
    cases hb : db.bodyOf r with
    | none => simp [hr, hb] at h
    | some b =>
      obtain rfl : cstr b = body := by simpa [hr, hb] using h
      simp [parsedBody, hb]

/-- The intent and its closer, from the texts of their bodies. -/
theorem oneCloser_of_texts {intentText closerText : Bytes}
    (ht : e.artifactType.bytes = text "gate_intent")
    (hintent : bodyByEntryHash db e.chainEntryHash.bytes = some intentText)
    (hsingle : closersCiting parse db e.chainEntryHash.bytes = [ref])
    (hcloser : ((db.entries.rows.find? (·.rowid == ref.rowid)).bind db.bodyOf).map cstr =
      some closerText) (hi : parse intentText = some intent) (hc : parse closerText = some closer) :
    OneCloser parse db e ref intent closer := by
  refine ⟨ht, ?_, hsingle, (closerBody_eq hcloser).trans hc⟩
  rw [bodyOfEntry, hintent]
  exact hi

namespace Sample

/-- The chain of the gated execution. -/
def gateDb : Db := (run gateCrypto gateOps).store.committed

/-- The intent of that chain as the verifier reads it. -/
def gateIntentEntry : Entry :=
  readEntryFromStmt false (gateDb.entries.rows.head (by decide +kernel))

def gateCloserRef : CloserRef := ⟨intentHash, text "gate_execution", 2⟩

def gateIntentBody : Json := .object [(text "device", .string (text "r1"))]

def gateCloserBody : Json :=
  .object [(text "device", .string (text "r1")), (text "intent_entry_hash", .string intentHash)]

end Sample

open Sample in
/-- The check sees every difference of the gated execution. -/
theorem closer_binding_checked_iff_gate :
    OneCloser parseGate gateDb gateIntentEntry gateCloserRef gateIntentBody gateCloserBody ∧
    BindingChecked parseGate readEnv gateDb gateIntentEntry gateCloserRef gateIntentBody
      gateCloserBody := by
  obtain ⟨htype, hintent, hsingle, hcloser, hraw⟩ :
      gateIntentEntry.artifactType.bytes = text "gate_intent" ∧
      bodyByEntryHash gateDb gateIntentEntry.chainEntryHash.bytes =
        some (text "\x7b\"device\":\"r1\"\x7d") ∧
      closersCiting parseGate gateDb gateIntentEntry.chainEntryHash.bytes = [gateCloserRef] ∧
      ((gateDb.entries.rows.find? (·.rowid == gateCloserRef.rowid)).bind gateDb.bodyOf).map cstr =
        some closerContent ∧ ∀ r ∈ gateDb.entries.rows, rawCitation parseGate gateDb r = none ∨
        rawCitation parseGate gateDb r = some gateIntentEntry.chainEntryHash.bytes := by
    decide +kernel
  have hone : OneCloser parseGate gateDb gateIntentEntry gateCloserRef gateIntentBody
      gateCloserBody := oneCloser_of_texts htype hintent hsingle hcloser rfl rfl
  refine ⟨hone, (closer_binding_checked_iff hone).mpr ⟨.inr fun hdiff => ?_, ?_⟩⟩
  · refine ⟨⟨rfl, rfl, rfl⟩, ?_⟩
    -- the two bodies share the device only, and it is the same
    rcases hdiff with ⟨key, hkey, s, s', hs, hs', hne⟩ | ⟨-, m, n, hm, -⟩
    · refine .inl ⟨key, hkey, s, s', hs, hs', ?_⟩
      have hkeys : key = text "device" ∨ key = text "command" ∨ key = text "session" := by
        simpa [comparedStrings, gateCloserRef] using hkey
      rcases hkeys with rfl | rfl | rfl
      · obtain rfl : text "r1" = s := by simpa [gateIntentBody, item] using hs
        obtain rfl : text "r1" = s' := by simpa [gateCloserBody, item] using hs'
        exact absurd rfl hne
      · cases hs
      · cases hs
    · cases hm
  · intro r hr _ s hs _
    rcases hraw r hr with hnone | hsome
    · exact absurd (hnone.symm.trans hs) (by simp)
    · exact .inl (Option.some.inj (hs.symm.trans hsome))

namespace Sample

def pad : Bytes := List.replicate 95 97

/-- An intent with a command of 96 characters. -/
def longIntentText : Bytes :=
  text "\x7b\"command\":\"" ++ pad ++ text "x\",\"device\":\"r1\"\x7d"

def longIntentHash : Bytes :=
  text "3fd6caa05f12b4664a4d9b3c6ea6dc5cc5995eb351989278077f1ae21c796512"

/-- Its closer, with another last character. -/
def longCloserText : Bytes :=
  text "\x7b\"command\":\"" ++ pad ++ text "y\",\"device\":\"r1\",\"intent_entry_hash\":\"" ++
    longIntentHash ++ text "\"\x7d"

/-- A closer that cites the hash with two more characters. -/
def longCitationText : Bytes :=
  text "\x7b\"device\":\"r1\",\"intent_entry_hash\":\"" ++ longIntentHash ++ text "00\"\x7d"

def longIntent : AppendCall where
  sessionId := text "s1"
  artifactType := text "gate_intent"
  artifactId := text "i1"
  artifactHash := text "543dd30c2d36c7037764b2c51cb7e27d670c217a7274c1c73022a36a2424efec"
  artifactContent := some longIntentText

/-- The append of a closer with a body and its hash. -/
def closerCall (hash body : Bytes) : AppendCall where
  sessionId := text "s1"
  artifactType := text "gate_execution"
  artifactId := text "x1"
  artifactHash := hash
  artifactContent := some body

def longCloser : AppendCall :=
  closerCall (text "06f2bdb5213fba5166a9d145fd4427819aedbf617e24ae7c6aa70275c2ee9b05") longCloserText

def longCitation : AppendCall :=
  closerCall (text "038e6d5e12df1c5a68abd4d36d8c1da1d6de9969756e734155c5356ebb28669a")
    longCitationText

/-- The canonical text of a closer as the second entry. -/
def longSecond (call : AppendCall) : Bytes :=
  buildCanonicalJson (populateEntry handle Sample.env call (text "s1") (1, longIntentHash))

def longCloserHash : Bytes :=
  text "485da71ee43eecf14554321e1fbe780d45ca854e24f089360a616d2078e13d52"

def longCitationHash : Bytes :=
  text "22bef312e2d6f0bb3f521f07df10337bbdeb371dc26ee3fd7c132fd3c4811c10"

/-- SHA-256 and HMAC on the texts of the two chains. -/
def longCrypto : Crypto := .known
  [(genesisText (text "s1"), genesis),
   (longIntentText, longIntent.artifactHash),
   (longCloserText, longCloser.artifactHash),
   (longCitationText, longCitation.artifactHash),
   (firstText longIntent, longIntentHash),
   (longSecond longCloser, longCloserHash),
   (longSecond longCitation, longCitationHash)]
  [((handle.chainKey, firstText longIntent),
    text "db8a0d6c59877488566ad4c1c0d129de0514d54921963254f91b6387a5aaf423"),
   ((handle.chainKey, headCanonical (text "s1") 0 longIntentHash),
    text "b2e01574adf89ba10c2c7989422e91905d20a4104733eaa284ea335fbdcad591"),
   ((handle.chainKey, longSecond longCloser),
    text "d9764f2541b4083de83b14a567c45bf02d5f92de0ac33083278393521ad2d542"),
   ((handle.chainKey, headCanonical (text "s1") 1 longCloserHash),
    text "371c8beadc11466f28e757a537e9b488c280639d65106cf059ed04c3901f0a8c"),
   ((handle.chainKey, longSecond longCitation),
    text "d2701db7767735e4c92d294506b1f0c5f5a915203093a22a235d95479dbde13f"),
   ((handle.chainKey, headCanonical (text "s1") 1 longCitationHash),
    text "4954408c15b4d807d23c9fcf4164521b959a0ab0fc8102ae4a1baabaac9249df")]
  [] []

def longIntentBody : Json :=
  .object [(text "command", .string (pad ++ text "x")), (text "device", .string (text "r1"))]

def longCloserBody : Json :=
  .object [(text "command", .string (pad ++ text "y")), (text "device", .string (text "r1")),
    (text "intent_entry_hash", .string longIntentHash)]

def longCitationBody : Json :=
  .object [(text "device", .string (text "r1")),
    (text "intent_entry_hash", .string (longIntentHash ++ text "00"))]

/-- The parser on the three bodies. -/
def parseLong (t : Bytes) : Option Json :=
  if t = longIntentText then some longIntentBody
  else if t = longCloserText then some longCloserBody
  else if t = longCitationText then some longCitationBody
  else none

/-- The chain of the long intent and a closer. -/
def longDb (call : AppendCall) : Db :=
  (run longCrypto [.append handle Sample.env longIntent, .append handle Sample.env call]).store.committed

/-- The long intent as the verifier reads it. -/
def longIntentEntry : Entry :=
  readEntryFromStmt false ((longDb longCloser).entries.rows.head (by decide +kernel))

def longCloserRef : CloserRef := ⟨longIntentHash, text "gate_execution", 2⟩

end Sample

open Sample in
/-- **A difference the check does not see, and a citation it should not count.**  The command
executed is not the command of the intent, in its 96th character; and a closer cites a string of 66
characters.  Both chains are valid and report the intent closed. -/
theorem binding_difference_unseen :
    (OneCloser parseLong (longDb longCloser) longIntentEntry longCloserRef longIntentBody
        longCloserBody ∧
      BodiesDiffer id longIntentBody longCloserRef.type longCloserBody ∧
      (chainVerifySessionLocked longCrypto parseLong handle readEnv (longDb longCloser)
        (text "s1")).valid = true ∧
      (chainVerifySessionLocked longCrypto parseLong handle readEnv (longDb longCloser)
        (text "s1")).executionsClosed = 1) ∧
    ((∃ r ∈ (longDb longCitation).entries.rows,
        CountedFor parseLong (longDb longCitation) longIntentHash r ∧
        rawCitation parseLong (longDb longCitation) r ≠ some longIntentHash) ∧
      (chainVerifySessionLocked longCrypto parseLong handle readEnv (longDb longCitation)
        (text "s1")).valid = true ∧
      (chainVerifySessionLocked longCrypto parseLong handle readEnv (longDb longCitation)
        (text "s1")).executionsClosed = 1) := by
  obtain ⟨htype, hintent, hsingle, hcloser, hvalid, hclosed⟩ :
      longIntentEntry.artifactType.bytes = text "gate_intent" ∧
      bodyByEntryHash (longDb longCloser) longIntentEntry.chainEntryHash.bytes =
        some longIntentText ∧
      closersCiting parseLong (longDb longCloser) longIntentEntry.chainEntryHash.bytes =
        [longCloserRef] ∧
      (((longDb longCloser).entries.rows.find? (·.rowid == longCloserRef.rowid)).bind
        (longDb longCloser).bodyOf).map cstr = some longCloserText ∧
      (chainVerifySessionLocked longCrypto parseLong handle readEnv (longDb longCloser)
        (text "s1")).valid = true ∧
      (chainVerifySessionLocked longCrypto parseLong handle readEnv (longDb longCloser)
        (text "s1")).executionsClosed = 1 := by
    decide +kernel
  refine ⟨⟨oneCloser_of_texts htype hintent hsingle hcloser (by simp [parseLong]) ?_, ?_, hvalid,
    hclosed⟩, ?_⟩
  · have hne : longCloserText ≠ longIntentText := by decide +kernel
    simp [parseLong, hne]
  · have hne : pad ++ text "x" ≠ pad ++ text "y" := by decide +kernel
    exact .inl ⟨text "command", by decide +kernel, _, _, rfl, rfl, hne⟩
  · obtain ⟨⟨r, hr, ht, hraw⟩, hvalid', hclosed'⟩ :
        (∃ r ∈ (longDb longCitation).entries.rows, typeIsCloser r.artifactType = true ∧
          rawCitation parseLong (longDb longCitation) r = some (longIntentHash ++ text "00")) ∧
        (chainVerifySessionLocked longCrypto parseLong handle readEnv (longDb longCitation)
          (text "s1")).valid = true ∧
        (chainVerifySessionLocked longCrypto parseLong handle readEnv (longDb longCitation)
          (text "s1")).executionsClosed = 1 := by
      decide +kernel
    refine ⟨⟨r, hr, countedFor_iff.mpr ⟨ht, by decide +kernel, _, hraw, by decide +kernel⟩, ?_⟩,
      hvalid', hclosed'⟩
    rw [hraw]
    decide +kernel

end Virp
