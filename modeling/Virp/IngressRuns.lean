import Virp.Ingress
import Virp.ChainCompleteness

/-! # What clients can put on the chain

The gates look at one request at a time; this file follows what they let through.  Every
entry that landed is traced to the request it came from, and every stored body to the
request that brought it.

The two need not be the same request: bodies are stored under the artifact id and hash
alone, whoever comes first, and readers find the body of an entry by them.  A body whose
type vouches for less than the type of the entry was never held to what the entry is.
-/
namespace Virp

open Machine List Store

variable {C : Crypto} {V : ObservationChecks} {parse : Bytes → Option Json}

/-- What the gates have checked of a request by itself. -/
structure GatesPassed (C : Crypto) (V : ObservationChecks) (c : IngressCall) : Prop where
  allowed : c.daemon.typeAllowed c.request.uid c.request.artifactType.bytes = true
  unreserved : typeIsDaemonReserved c.request.artifactType.bytes = false
  external : typeIsExternalAllowed c.request.artifactType.bytes = true
  bound : c.request.artifactContent.bytes ≠ [] →
    typeIsIndirect c.request.artifactType.bytes = false →
    artifactDigest C c.request.artifactContent.bytes = some c.request.artifactHash.bytes
  signed : c.request.artifactContent.bytes ≠ [] →
    typeIsObservation c.request.artifactType.bytes = true →
    chainAppendVerifyObservation V c.daemon c.env.nowNs c.request.artifactContent.bytes = .ok ()

/-- What an outcome cites, and the row that backs it. -/
structure Backed (parse : Bytes → Option Json) (r : IngressRequest) (row : EntryRow)
    (cite : FedCitation) : Prop where
  cited : fedOutcomeCitation parse r.artifactContent.bytes = some cite
  body : r.artifactContent.bytes ≠ []
  honest : cite.kind = .error → cite.executed = false
  type : row.artifactType ∈ cite.kind.types
  hash : row.artifactHash = cite.hash

theorem direct_of_observation {t : Bytes} (h : typeIsObservation t = true) :
    typeIsIndirect t = false := by
  simp only [typeIsObservation, Bool.or_eq_true, beq_iff_eq] at h
  rcases h with rfl | rfl <;> decide +kernel

variable {r : IngressRequest} {db : Db}

variable {env : IngressEnv} {u : Unit} {c : IngressCall} {h : Handle} {s : Bytes} {e : Entry}
  {st st' : Store} {row : EntryRow}

theorem bodyGate_ok {D : IngressDaemon} (h : bodyGate C V D env r = .ok u)
    (hbody : r.artifactContent.bytes ≠ []) (hdirect : typeIsIndirect r.artifactType.bytes = false) :
    artifactDigest C r.artifactContent.bytes = some r.artifactHash.bytes ∧
      (typeIsObservation r.artifactType.bytes = true →
        chainAppendVerifyObservation V D env.nowNs r.artifactContent.bytes = .ok ()) := by
  unfold bodyGate at h
  rw [if_neg hbody, if_neg (by simp [hdirect])] at h
  split at h
  · cases h
  rename_i digest hdigest
  obtain ⟨_, hmatch, h⟩ := bind_ok.mp h
  have hmatch : digest = r.artifactHash.bytes := by simpa using failIf_ok hmatch
  refine ⟨by rw [hdigest, hmatch], fun hobs => ?_⟩
  rw [if_pos hobs] at h
  exact h

theorem outcomeGate_ok (h : outcomeGate parse db env r = .ok u)
    (htype : r.artifactType.bytes = text "fed_outcome") :
    ∃ row ∈ db.entries.rows, ∃ cite, Backed parse r row cite := by
  unfold outcomeGate at h
  rw [if_pos htype] at h
  split at h
  · cases h
  rename_i cite hcite
  split at hcite
  · cases hcite
  rename_i hbody
  obtain ⟨_, hhonest, h⟩ := bind_ok.mp h
  obtain ⟨_, -, h⟩ := bind_ok.mp h
  have hcommit := failIf_ok h
  simp only [citationCommitted, Bool.not_eq_false', any_eq_true, Bool.and_eq_true,
    beq_iff_eq, contains_iff_mem] at hcommit
  obtain ⟨row, hrow, hhash, htypes⟩ := hcommit
  have hhonest := failIf_ok hhonest
  refine ⟨row, hrow, cite, hcite, hbody, fun hk => ?_, htypes, hhash⟩
  simpa [hk] using hhonest

theorem ingressGates_ok (h : ingressGates C V parse c.daemon c.env db c.request = .ok u) :
    GatesPassed C V c ∧ (c.request.artifactType.bytes = text "fed_outcome" →
      ∃ row ∈ db.entries.rows, ∃ cite, Backed parse c.request row cite) := by
  unfold ingressGates at h
  obtain ⟨_, -, h⟩ := bind_ok.mp h
  obtain ⟨_, -, h⟩ := bind_ok.mp h
  obtain ⟨_, hallowed, h⟩ := bind_ok.mp h
  obtain ⟨_, -, h⟩ := bind_ok.mp h
  obtain ⟨_, hreserved, h⟩ := bind_ok.mp h
  obtain ⟨_, hexternal, h⟩ := bind_ok.mp h
  obtain ⟨_, hbody, h⟩ := bind_ok.mp h
  refine ⟨⟨by simpa using failIf_ok hallowed, failIf_ok hreserved, by simpa using failIf_ok hexternal,
    fun hc hd => (bodyGate_ok hbody hc hd).1, fun hc ho => ?_⟩, outcomeGate_ok h⟩
  exact (bodyGate_ok hbody hc (direct_of_observation ho)).2 ho

/-- The row carries what the request named. -/
structure CarriedBy (r : IngressRequest) (row : EntryRow) : Prop where
  type : row.artifactType = r.artifactType.bytes
  id : row.artifactId = r.artifactId.bytes
  hash : row.artifactHash = r.artifactHash.bytes

/-- A stored body is the one the request brought. -/
structure BroughtBy (r : IngressRequest) (a : ArtifactRow) : Prop where
  type : a.artifactType = r.artifactType.bytes
  id : a.artifactId = r.artifactId.bytes
  hash : a.artifactHash = r.artifactHash.bytes
  content : a.artifactContent = r.artifactContent.bytes
  nonempty : r.artifactContent.bytes ≠ []

/-- What a step that lands does to the two tables. -/
structure Lands (C : Crypto) (V : ObservationChecks) (parse : Bytes → Option Json) (st st' : Store)
    (c : IngressCall) (row : EntryRow) : Prop where
  passed : GatesPassed C V c
  outcome : c.request.artifactType.bytes = text "fed_outcome" →
    ∃ r ∈ st.committed.entries.rows, ∃ cite, Backed parse c.request r cite
  carried : CarriedBy c.request row
  entries : st'.committed.entries.rows = st.committed.entries.rows ++ [row]
  /-- a body is stored if it is given and none is under its id and hash -/
  artifacts : st'.committed.artifacts = st.committed.artifacts ∨
    ∃ a, BroughtBy c.request a ∧
      (∀ b ∈ st.committed.artifacts.rows, ¬(b.artifactId = a.artifactId ∧ b.artifactHash = a.artifactHash)) ∧
      st'.committed.artifacts.rows = st.committed.artifacts.rows ++ [a]

theorem RowDone.carried {env : Env} {db' : Db} (D : RowDone C h env r.call s db db' e)
    (signed : Bool) (n : Nat) : CarriedBy r (insertRow signed n e) := by
  have htype : e.artifactType = .copy 16 r.artifactType.bytes := congrArg Entry.artifactType D.core_eq
  have hid : e.artifactId = .copy 128 r.artifactId.bytes := congrArg Entry.artifactId D.core_eq
  have hhash : e.artifactHash = .copy 65 r.artifactHash.bytes := congrArg Entry.artifactHash D.core_eq
  refine ⟨?_, ?_, ?_⟩
  · simp only [insertRow, htype]
    exact snprintfS_eq_self r.artifactType.zero_notMem r.artifactType.length_lt
  · simp only [insertRow, hid]
    exact snprintfS_eq_self r.artifactId.zero_notMem r.artifactId.length_lt
  · simp only [insertRow, hhash]
    exact snprintfS_eq_self r.artifactHash.zero_notMem r.artifactHash.length_lt

theorem stored_of_artifactStore {env : Env} {t : Table ArtifactRow ArtifactRow.clash}
    (h : artifactStore env db r.call s = .ok { db with artifacts := t }) :
    t = db.artifacts ∨ ∃ a, BroughtBy r a ∧
      (∀ b ∈ db.artifacts.rows, ¬(b.artifactId = a.artifactId ∧ b.artifactHash = a.artifactHash)) ∧
      t.rows = db.artifacts.rows ++ [a] := by
  have hcontent : cstr (r.call.artifactContent.getD []) = r.artifactContent.bytes := by
    by_cases hb : r.artifactContent.bytes = []
    · simp [IngressRequest.call, hb, cstr]
    · simp only [IngressRequest.call, hb, if_false, Option.getD_some]
      exact cstr_eq_self r.artifactContent.zero_notMem
  unfold artifactStore at h
  rw [hcontent] at h
  split at h
  · exact .inl (congrArg Db.artifacts (Except.ok.inj h)).symm
  rename_i b body hb
  split at h
  · cases h
  have ht := congrArg Db.artifacts (Except.ok.inj h)
  simp only at ht
  rw [← ht, ← hb, Table.insertOrIgnore]
  cases hi : db.artifacts.insert ⟨r.call.artifactId, r.call.artifactType, r.artifactContent.bytes,
      r.call.artifactHash, s, toColumn 64 env.wallNs.toNat⟩ with
  | none => exact .inl rfl
  | some u =>
    obtain ⟨hfree, hrows⟩ := Table.insert_eq_some hi
    refine .inr ⟨_, ⟨rfl, rfl, rfl, rfl, by rw [hb]; simp⟩, ?_, hrows⟩
    rintro a ha ⟨hid, hhash⟩
    have := hfree a ha
    simp [ArtifactRow.clash, hid, hhash] at this

/-- **A step**: nothing is committed, or an entry lands. -/
theorem ingressStep_cases (st : Store) (e : IngressEvent) :
    ((ingressStep C V parse st e).1.committed = st.committed ∧
      ∀ row, (ingressStep C V parse st e).2 ≠ .landed row) ∨
    ∃ c row, e = .submit c ∧ (ingressStep C V parse st e).2 = .landed row ∧
      Lands C V parse st (ingressStep C V parse st e).1 c row := by
  cases e with
  | reopen => exact .inl ⟨rfl, fun _ h => by cases h⟩
  | submit c =>
    simp only [ingressStep]
    split
    · exact .inl ⟨rfl, fun _ h => by cases h⟩
    rename_i hgates
    rcases chainAppend_cases C c.daemon.handle c.env.append st c.request.call with
      ⟨hnone, hstore, err, hres⟩ | ⟨db', entry, hl⟩
    · rw [hnone, hres]
      exact .inl ⟨hstore, fun _ h => by cases h⟩
    rw [hl.idle, Option.getD_none] at hgates
    obtain ⟨hpassed, houtcome⟩ := ingressGates_ok hgates
    simp only [hl.landed, hl.store_eq]
    refine .inr ⟨c, _, rfl, rfl, hpassed, houtcome, hl.row.carried _ _, ?_, ?_⟩
    · rw [afterCommit_eq]
      exact hl.row.entries_eq
    · rw [afterCommit_eq]
      exact hl.row.artifacts_cases.elim .inl stored_of_artifactStore

/-! ## Whole runs -/

abbrev IngressPast := List (IngressEvent × IngressAnswer)

/-- Where a row comes from: a request that passed the gates, and, if it is an outcome, cited
an entry that stands before it. -/
def RowOrigin (C : Crypto) (V : ObservationChecks) (parse : Bytes → Option Json) (past : IngressPast)
    (rows : List EntryRow) (row : EntryRow) : Prop :=
  ∃ c, (.submit c, .landed row) ∈ past ∧ CarriedBy c.request row ∧ GatesPassed C V c ∧
    (row.artifactType = text "fed_outcome" →
      ∃ r cite, Backed parse c.request r cite ∧ [r, row].Sublist rows)

/-- Where a stored body comes from. -/
def BodyOrigin (C : Crypto) (V : ObservationChecks) (past : IngressPast) (a : ArtifactRow) : Prop :=
  ∃ c row, (.submit c, .landed row) ∈ past ∧ BroughtBy c.request a ∧ GatesPassed C V c

/-- A body submitted with one type vouches for an entry of another: an indirect entry asks
nothing of it, an observation asks for a signature, any other that it has been hashed. -/
def vouches (stored entry : Bytes) : Bool :=
  typeIsIndirect entry ||
    if typeIsObservation entry then typeIsObservation stored else !typeIsIndirect stored

/-- The request is for that artifact id and hash. -/
def IngressRequest.Names (r : IngressRequest) (id hash : Bytes) : Prop :=
  id = r.artifactId.bytes ∧ hash = r.artifactHash.bytes

instance (r : IngressRequest) (id hash : Bytes) : Decidable (r.Names id hash) :=
  inferInstanceAs (Decidable (_ ∧ _))

/-- The body under an artifact id and hash, stored already or brought now, vouches for the
entries under them. -/
def BodyVouches (st : Store) : IngressEvent → Prop
  | .reopen => True
  | .submit c =>
    (∀ a ∈ st.committed.artifacts.rows, c.request.Names a.artifactId a.artifactHash →
      vouches a.artifactType c.request.artifactType.bytes = true) ∧
    ((∀ a ∈ st.committed.artifacts.rows, ¬c.request.Names a.artifactId a.artifactHash) →
      c.request.artifactContent.bytes ≠ [] →
      ∀ row ∈ st.committed.entries.rows, c.request.Names row.artifactId row.artifactHash →
        vouches c.request.artifactType.bytes row.artifactType = true)

instance (st : Store) (e : IngressEvent) : Decidable (BodyVouches st e) := by
  cases e <;> unfold BodyVouches <;> infer_instance

theorem vouches_self (t : Bytes) : vouches t t = true := by
  unfold vouches
  by_cases hi : typeIsIndirect t = true
  · simp [hi]
  · cases ho : typeIsObservation t <;> simp [hi]

/-- **The invariant.** -/
structure Ingested (C : Crypto) (V : ObservationChecks) (parse : Bytes → Option Json) (st : Store)
    (past : IngressPast) : Prop where
  rows : ∀ row ∈ st.committed.entries.rows,
    RowOrigin C V parse past st.committed.entries.rows row
  bodies : ∀ a ∈ st.committed.artifacts.rows, BodyOrigin C V past a
  vouched : ∀ row ∈ st.committed.entries.rows, ∀ a ∈ st.committed.artifacts.rows,
    a.artifactId = row.artifactId → a.artifactHash = row.artifactHash →
    vouches a.artifactType row.artifactType = true

variable {past : IngressPast}

theorem RowOrigin.extend {rows more : List EntryRow} (h : RowOrigin C V parse past rows row)
    (x : IngressEvent × IngressAnswer) : RowOrigin C V parse (past ++ [x]) (rows ++ more) row := by
  obtain ⟨c, hc, hcar, hp, hout⟩ := h
  refine ⟨c, mem_append_left _ hc, hcar, hp, fun ht => ?_⟩
  obtain ⟨r, cite, hb, hl⟩ := hout ht
  exact ⟨r, cite, hb, hl.trans (sublist_append_left _ _)⟩

theorem BodyOrigin.extend {a : ArtifactRow} (h : BodyOrigin C V past a)
    (x : IngressEvent × IngressAnswer) : BodyOrigin C V (past ++ [x]) a := by
  obtain ⟨c, row, hc, hrest⟩ := h
  exact ⟨c, row, mem_append_left _ hc, hrest⟩

/-- An entry that lands keeps the invariant. -/
theorem ingested_lands (h : Ingested C V parse st past) (hl : Lands C V parse st st' c row)
    (hok : BodyVouches st (.submit c)) :
    Ingested C V parse st' (past ++ [(.submit c, .landed row)]) := by
  have hmem : (IngressEvent.submit c, IngressAnswer.landed row) ∈
      past ++ [(.submit c, .landed row)] := mem_append_right _ (mem_singleton.mpr rfl)
  obtain ⟨hstored, hbrought⟩ := hok
  refine ⟨?_, ?_, ?_⟩
  · intro r hr
    rw [hl.entries] at hr ⊢
    rcases mem_append.mp hr with hr | hr
    · exact (h.rows r hr).extend _
    obtain rfl := mem_singleton.mp hr
    refine ⟨c, hmem, hl.carried, hl.passed, fun ht => ?_⟩
    obtain ⟨p, hp, cite, hb⟩ := hl.outcome (hl.carried.type ▸ ht)
    exact ⟨p, cite, hb, (singleton_sublist.mpr hp).append (Sublist.refl _)⟩
  · intro a ha
    rcases hl.artifacts with hsame | ⟨b, hb, -, hrows⟩
    · exact (h.bodies a (hsame ▸ ha)).extend _
    rw [hrows] at ha
    rcases mem_append.mp ha with ha | ha
    · exact (h.bodies a ha).extend _
    · obtain rfl := mem_singleton.mp ha
      exact ⟨c, row, hmem, hb, hl.passed⟩
  · intro r hr a ha hid hhash
    -- the four cases: entry old or new, body old or new
    have old_body (ha : a ∈ st.committed.artifacts.rows) :
        vouches a.artifactType r.artifactType = true := by
      rw [hl.entries] at hr
      rcases mem_append.mp hr with hr | hr
      · exact h.vouched r hr a ha hid hhash
      · obtain rfl := mem_singleton.mp hr
        rw [hl.carried.type]
        exact hstored a ha ⟨hid.trans hl.carried.id, hhash.trans hl.carried.hash⟩
    rcases hl.artifacts with hsame | ⟨b, hb, hfree, hrows⟩
    · exact old_body (hsame ▸ ha)
    rw [hrows] at ha
    rcases mem_append.mp ha with ha | ha
    · exact old_body ha
    obtain rfl := mem_singleton.mp ha
    have hnone : ∀ x ∈ st.committed.artifacts.rows,
        ¬c.request.Names x.artifactId x.artifactHash := by
      unfold IngressRequest.Names
      rw [← hb.id, ← hb.hash]
      exact hfree
    rw [hb.type]
    rw [hl.entries] at hr
    rcases mem_append.mp hr with hr | hr
    · exact hbrought hnone hb.nonempty r hr ⟨hid.symm.trans hb.id, hhash.symm.trans hb.hash⟩
    · obtain rfl := mem_singleton.mp hr
      rw [hl.carried.type]
      exact vouches_self _

theorem ingested_step (st : Store) (past : IngressPast) (e : IngressEvent)
    (h : Ingested C V parse st past) (hok : BodyVouches st e) :
    Ingested C V parse (ingressStep C V parse st e).1
      (past ++ [(e, (ingressStep C V parse st e).2)]) := by
  rcases @ingressStep_cases C V parse st e with ⟨hsame, -⟩ | ⟨c, row, rfl, hans, hl⟩
  · obtain ⟨h1, h2, h3⟩ := h
    rw [← hsame] at h1 h2 h3
    refine ⟨fun row hrow => ?_, fun a ha => (h2 a ha).extend _, h3⟩
    have hkept : RowOrigin C V parse (past ++ [(e, (ingressStep C V parse st e).2)])
        ((ingressStep C V parse st e).1.committed.entries.rows ++ []) row := (h1 row hrow).extend _
    simpa using hkept
  · rw [hans]
    exact ingested_lands h hl hok

/-- **Client appends over any run** in which the body under an artifact id and hash vouches
for the entries under them.  Every entry has a type its submitter may append, and not one
of the daemon's own; a body found for an entry that commits directly hashes to what the
entry commits to, and one found for an observation passed the check of its signature; and
an outcome stands after an entry of the kind it cites, with the hash it cites. -/
theorem client_appends_of_run (events : List IngressEvent)
    (hok : Steps (ingressStep C V parse) BodyVouches Store.empty events) :
    let db := (final (ingressStep C V parse) empty events).committed
    let past := trace (ingressStep C V parse) empty events
    ∀ row ∈ db.entries.rows, ∃ c, (IngressEvent.submit c, IngressAnswer.landed row) ∈ past ∧
      CarriedBy c.request row ∧
      c.daemon.typeAllowed c.request.uid row.artifactType = true ∧
      typeIsDaemonReserved row.artifactType = false ∧
      (∀ body, db.bodyOf row = some body →
        (typeIsIndirect row.artifactType = false →
          artifactDigest C body = some row.artifactHash) ∧
        (typeIsObservation row.artifactType = true → ∃ c' row',
          (IngressEvent.submit c', IngressAnswer.landed row') ∈ past ∧
          chainAppendVerifyObservation V c'.daemon c'.env.nowNs body = .ok ())) ∧
      (row.artifactType = text "fed_outcome" →
        artifactDigest C c.request.artifactContent.bytes = some row.artifactHash ∧
        ∃ cite r, fedOutcomeCitation parse c.request.artifactContent.bytes = some cite ∧
          r.artifactType ∈ cite.kind.types ∧ r.artifactHash = cite.hash ∧
          [r, row].Sublist db.entries.rows) := by
  intro db past row hrow
  have hinv : Ingested C V parse (final (ingressStep C V parse) empty events) past :=
    invariant_of_steps (I := Ingested C V parse)
      ⟨fun _ hr => (nomatch hr), fun _ ha => (nomatch ha), fun _ hr => (nomatch hr)⟩
      ingested_step hok
  obtain ⟨c, hc, hcar, hpassed, hout⟩ := hinv.rows row hrow
  refine ⟨c, hc, hcar, hcar.type ▸ hpassed.allowed, hcar.type ▸ hpassed.unreserved, ?_, ?_⟩
  · intro body hbody
    obtain ⟨a, ha, rfl⟩ := Option.map_eq_some_iff.mp hbody
    have hkey := List.find?_some ha
    simp only [Bool.and_eq_true, beq_iff_eq] at hkey
    have hmem := mem_of_find?_eq_some ha
    have hv := hinv.vouched row hrow a hmem hkey.1 hkey.2
    obtain ⟨c', row', hc', hb, hpassed'⟩ := hinv.bodies a hmem
    have hnonempty := hb.nonempty
    refine ⟨fun hdirect => ?_, fun hobs => ⟨c', row', hc', ?_⟩⟩
    · rw [hb.content, ← hkey.2, hb.hash]
      refine hpassed'.bound hnonempty ?_
      rw [← hb.type]
      unfold vouches at hv
      rw [hdirect, Bool.false_or] at hv
      split at hv
      · exact direct_of_observation hv
      · simpa using hv
    · rw [hb.content]
      refine hpassed'.signed hnonempty ?_
      rw [← hb.type]
      simpa [vouches, direct_of_observation hobs, hobs] using hv
  · intro ht
    obtain ⟨r, cite, hb, hl⟩ := hout ht
    refine ⟨?_, cite, r, hb.cited, hb.type, hb.hash, hl⟩
    rw [hcar.hash]
    refine hpassed.bound hb.body ?_
    rw [← hcar.type, ht]
    decide +kernel

/-! ## Two runs -/

namespace IngressSample

def genesis : Bytes := text "b69b9b416ba67d25af95f0bfed4e27de6c896f8b6511bd749be7cd215ee11495"

/-- The hash of "interface up". -/
def bodyHash : Bytes := text "88a5b5b1e93e19c27bb3342d44284184bfbdce2038663c8383bfbed5c2f2e4f8"

/-- The hash of the message `03 00 01`. -/
def messageHash : Bytes := text "0f868d5011ab91a7f352a06a03be083abca12213ca27ab79cd4792a6a8ea0518"

/-- An outcome that cites the message. -/
def outcomeBody : Bytes := text "\x7b\"observation_sha256\":\"" ++ messageHash ++ text "\"\x7d"

def outcomeHash : Bytes := text "ee1f7043a0aa467aee31554760daacd20fe7357e48853b7c09b79d1a735edf96"

def request (type id hash content : Bytes) : IngressRequest :=
  ⟨1000, .copy 64 (text "s1"), .copy 16 type, .copy 128 id, .copy 65 hash, .copy _ content⟩

def verdict : IngressRequest :=
  request (text "comparator_verd") (text "o1") bodyHash (text "verdict")

def evidence : IngressRequest :=
  request (text "evidence_item") (text "o1") bodyHash (text "interface up")

/-- An observation whose body is kept by the client. -/
def commitment : IngressRequest := request (text "observation") (text "o1") bodyHash []

def message : IngressRequest :=
  request (text "observation") (text "o1") messageHash (text "base64:AwAB")

def outcome : IngressRequest := request (text "fed_outcome") (text "f1") outcomeHash outcomeBody

/-- The canonical text of an entry of the session. -/
def entryText (r : IngressRequest) (seq : Int) (prev : Bytes) : Bytes :=
  buildCanonicalJson (populateEntry Sample.handle Sample.env r.call (text "s1") (seq, prev))

def firstVerdict : Bytes := text "c6bdd92a077860366c6f385e12d303536d3eb3621dbef0c700e2f73ff62ccaf8"

def secondEvidence : Bytes := text "faa99616932a72dea568dfc27b125bbf44e54219c76a5f26a10c2d4a558834e1"

def firstMessage : Bytes := text "5cc99ceda7513e777ca9f470780cdd4ee848de26126a9d653251df240b38a010"

/-- SHA-256 on the texts and bodies of both runs. -/
def crypto : Crypto := .known
  [(genesisText (text "s1"), genesis), (text "interface up", bodyHash), ([3, 0, 1], messageHash),
   (outcomeBody, outcomeHash), (entryText verdict 0 genesis, firstVerdict),
   (entryText evidence 1 firstVerdict, secondEvidence),
   (entryText commitment 2 secondEvidence,
    text "04f78a2a8950742483a9401c737752c8e759fe59ae910b08dc419fc71e2c7766"),
   (entryText message 0 genesis, firstMessage),
   (entryText outcome 1 firstMessage,
    text "a8e39b6a0d1ab48f6d70adef6c5f37387183f6794029003f79b44848e7d3e2c8")]
  [] [] []

/-- A daemon that accepts every v3 message, and nothing else. -/
def checks : ObservationChecks :=
  ⟨fun _ _ => .error .hmacFailed, fun _ => .error .invalidLength, fun _ _ => .error .hmacFailed,
    fun _ _ => .ok ()⟩

def parseBody (body : Bytes) : Option Json :=
  if body = outcomeBody then some (.object [(text "observation_sha256", .string messageHash)])
  else none

def daemon : IngressDaemon :=
  ⟨Sample.handle, true, [(1001, [.copy 16 (text "fed_request")])], [], none, none, some []⟩

def submit (r : IngressRequest) : IngressEvent := .submit ⟨daemon, ⟨Sample.env, 0, false⟩, r⟩

/-- An observation, and an outcome that cites it. -/
def backed : List IngressEvent := [submit message, submit outcome]

/-- A verdict, an item of evidence and an observation, under one id and hash. -/
def poisoned : List IngressEvent := [submit verdict, submit evidence, submit commitment]

end IngressSample

open IngressSample

theorem client_appends_of_run_backed :
    ∃ r row, [r, row].Sublist
        (final (ingressStep crypto checks parseBody) Store.empty backed).committed.entries.rows ∧
      r.artifactType = text "observation" ∧ row.artifactType = text "fed_outcome" ∧
      r.artifactHash = messageHash := by
  have hok : Steps (ingressStep crypto checks parseBody) BodyVouches empty backed := by
    decide +kernel
  have hlast : ((final (ingressStep crypto checks parseBody) empty
      backed).committed.entries.rows.map (·.artifactType)).getLast? = some (text "fed_outcome") := by
    decide +kernel
  have hall : ∀ r ∈ (final (ingressStep crypto checks parseBody) empty
      backed).committed.entries.rows, r.artifactType = text "observation" ∧
        r.artifactHash = messageHash ∨ r.artifactType = text "fed_outcome" := by
    decide +kernel
  obtain ⟨row, hrow, htype⟩ := mem_map.mp (mem_of_getLast? hlast)
  obtain ⟨c, -, -, -, -, -, hout⟩ := client_appends_of_run backed hok row hrow
  obtain ⟨-, cite, r, -, hkind, -, hl⟩ := hout htype
  refine ⟨r, row, hl, ?_⟩
  rcases hall r (hl.subset mem_cons_self) with ⟨ht, hh⟩ | ht
  · exact ⟨ht, htype, hh⟩
  · -- an outcome backs nothing
    rw [ht] at hkind
    have hnone : ∀ kind : FedCiteKind, text "fed_outcome" ∉ kind.types := by
      rintro (_ | _) <;> decide +kernel
    exact absurd hkind (hnone cite.kind)

/-- The body of the verdict is found for the item of evidence, whose hash it does not
have, and for the observation, as which it was never checked. -/
theorem verdict_body_found_for_evidence :
    let db := (final (ingressStep crypto checks parseBody) empty poisoned).committed
    db.entries.rows.map (fun r => (r.artifactType, db.bodyOf r)) =
      [(text "comparator_verd", some (text "verdict")), (text "evidence_item", some (text "verdict")),
       (text "observation", some (text "verdict"))] ∧
    typeIsIndirect (text "evidence_item") = false ∧
    (∀ r ∈ db.entries.rows, artifactDigest crypto (text "verdict") ≠ some r.artifactHash) ∧
    chainAppendVerifyObservation checks daemon 0 (text "verdict") ≠ .ok () := by
  refine ⟨?_, ?_, ?_, ?_⟩
  · decide +kernel
  · decide +kernel
  · decide +kernel
  · intro h
    cases h

end Virp
