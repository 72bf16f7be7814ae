import Virp.ChainColumns
import Virp.RequestFields
import Mathlib.Data.List.Dedup

/-! # The nightly chain walk

Once a night the autopilot has the daemon verify the sessions of the chain, and chains a summary of
how many failed.  It finds the sessions by their entry rows, so a session of which only the head row
is left is never asked for (`chainwalk_sound_iff`).
-/
namespace Virp

/-- The sessions with an entry, in the order of their ids. -/
def sessionIds (db : Db) : List Bytes :=
  (db.entries.rows.map (·.sessionId)).dedup.insertionSort fun a b => strcmp a b ≠ .gt

theorem mem_sessionIds {db : Db} {s : Bytes} :
    s ∈ sessionIds db ↔ ∃ r ∈ db.entries.rows, r.sessionId = s := by
  rw [sessionIds, List.mem_insertionSort, List.mem_dedup, List.mem_map]

/-- `chain_sessions`: the sessions with an entry, and the highest number each of them shows. -/
def chainSessions (db : Db) : List (Bytes × Int) :=
  (sessionIds db).map fun s => (s, ((db.getLast s).map (·.sequence)).getD 0)

/-- A session that an entry or a head row names. -/
def SessionNamed (db : Db) (s : Bytes) : Prop :=
  (∃ r ∈ db.entries.rows, r.sessionId = s) ∨ ∃ h ∈ db.heads.rows, h.sessionId = s

/-- The walk's request for a session, as the daemon's parser reads it. -/
def chainwalkRequest (sid : Bytes) : Json :=
  .object [(text "action", .string (text "chain_verify_session")), (text "session_id", .string sid)]

/-- The summary that is signed and chained. -/
structure ChainwalkSummary where
  sessions : Nat
  entriesChecked : Int
  failures : Nat
deriving DecidableEq

section
variable (C : Crypto) (parse : Bytes → Option Json) (v : Handle) (env : ReadEnv) (db : Db)

/-- The daemon on `chain_verify_session`; `none` is an error frame. -/
def chainVerifySessionAnswer (sid : Bytes) : Option VerifyResult :=
  -- a text with an encoded NUL is refused before the request is parsed
  if 0 ∈ sid then none
  else
    match requestFields (chainwalkRequest sid) with
    | none => none
    | some req =>
      if req.sessionId.bytes = [] then none
      else
        let r := chainVerifySessionLocked C parse v env db req.sessionId.bytes
        if r.rc = none then some r else none

-- `verified` says of which answers the signature checks
variable (verified : Bytes → Bool)

/-- The walk's verdict on a session: the head must reach as far as the entries the walk sees. -/
def chainwalkValid (p : Bytes × Int) : Bool :=
  match chainVerifySessionAnswer C parse v env db p.1 with
  | none => false
  | some r => r.valid && verified p.1 && decide (p.2 ≤ r.toSequence)

/-- The loop of `run_chainwalk`, with its alerts, entries and failures. -/
def chainwalkLoop : List (Bytes × Int) → Nat × Int × Nat → Nat × Int × Nat
  | [], counts => counts
  | p :: rest, (alerts, entries, failures) =>
    let checked := ((chainVerifySessionAnswer C parse v env db p.1).map (·.entriesChecked)).getD 0
    chainwalkLoop rest
      (if chainwalkValid C parse v env db verified p then (alerts, entries + checked, failures)
      else (alerts + 1, entries + checked, failures + 1))

/-- `run_chainwalk`: the summary and the number of alerts.  `signed` says whether the daemon signed
the summary. -/
def runChainwalk (signed : Bool) : ChainwalkSummary × Nat :=
  let (alerts, entries, failures) :=
    chainwalkLoop C parse v env db verified (chainSessions db) (0, 0, 0)
  (⟨(chainSessions db).length, entries, failures⟩, if signed then alerts else alerts + 1)

end

variable {C : Crypto} {parse : Bytes → Option Json} {v : Handle} {env : ReadEnv} {db : Db}
  {verified : Bytes → Bool} {s : Bytes}

/-- The daemon answers for the session it was asked for. -/
theorem chainVerifySessionAnswer_eq {r : VerifyResult}
    (h : chainVerifySessionAnswer C parse v env db s = some r) :
    r = chainVerifySessionLocked C parse v env db s := by
  unfold chainVerifySessionAnswer at h
  split_ifs at h with h0
  cases hreq : requestFields (chainwalkRequest s) with
  | none => simp [hreq] at h
  | some req =>
    have hsid : req.sessionId.bytes = s :=
      @checkedField_eq _ (chainwalkRequest s) (text "session_id") _ rfl h0 _ _
        (requestFields_eq hreq).1.sessionId
    simp only [hreq, hsid] at h
    split_ifs at h
    exact (Option.some.inj h).symm

theorem valid_of_chainwalkValid {p : Bytes × Int}
    (h : chainwalkValid C parse v env db verified p = true) :
    (chainVerifySessionLocked C parse v env db p.1).valid = true := by
  unfold chainwalkValid at h
  cases ha : chainVerifySessionAnswer C parse v env db p.1 with
  | none => simp [ha] at h
  | some r =>
    simp only [ha, Bool.and_eq_true] at h
    exact chainVerifySessionAnswer_eq ha ▸ h.1.1

/-- No failure is counted exactly when every session of the loop passes. -/
theorem chainwalkLoop_failures {l : List (Bytes × Int)} {counts : Nat × Int × Nat} :
    (chainwalkLoop C parse v env db verified l counts).2.2 = 0 ↔
      counts.2.2 = 0 ∧ ∀ p ∈ l, chainwalkValid C parse v env db verified p = true := by
  induction l generalizing counts with
  | nil => simp [chainwalkLoop]
  | cons p rest ih =>
    obtain ⟨alerts, entries, failures⟩ := counts
    rw [chainwalkLoop, ih, List.forall_mem_cons]
    by_cases hp : chainwalkValid C parse v env db verified p = true
    · simp [hp]
    · simp [hp]

/-- A session that is reported valid has an entry. -/
theorem exists_entry_of_valid (h : (chainVerifySessionLocked C parse v env db s).valid = true) :
    ∃ r ∈ db.entries.rows, r.sessionId = s := by
  obtain ⟨row, hs⟩ := valid_iff.mp h
  have hlen := hs.complete
  have h0 := hs.nonneg
  obtain ⟨e, he⟩ := List.exists_mem_of_length_pos (l := entriesRead v db s 0 row.lastSequence)
    (by omega)
  obtain ⟨r, hr, hrs, -⟩ := mem_entriesRead he
  exact ⟨r, hr, hrs⟩

/-- **What a walk without failures says.**  Every session that an entry or a head row names was
reported valid exactly when no head row stands without an entry of its session. -/
theorem chainwalk_sound_iff {signed : Bool}
    (h : (runChainwalk C parse v env db verified signed).1.failures = 0) :
    (∀ s, SessionNamed db s → (chainVerifySessionLocked C parse v env db s).valid = true) ↔
      ∀ head ∈ db.heads.rows, ∃ r ∈ db.entries.rows, r.sessionId = head.sessionId := by
  have hwalk := (chainwalkLoop_failures.mp h).2
  constructor
  · intro hall head hhead
    exact exists_entry_of_valid (hall head.sessionId (.inr ⟨head, hhead, rfl⟩))
  · intro hheads s hs
    have hentry : ∃ r ∈ db.entries.rows, r.sessionId = s := by
      rcases hs with hs | ⟨head, hhead, rfl⟩
      · exact hs
      · exact hheads head hhead
    have hmem : (s, ((db.getLast s).map (·.sequence)).getD 0) ∈ chainSessions db :=
      List.mem_map_of_mem (mem_sessionIds.mpr hentry)
    exact valid_of_chainwalkValid (hwalk _ hmem)

namespace Sample

def interfaceDown : AppendCall where
  sessionId := text "s1"
  artifactType := text "observation"
  artifactId := text "o2"
  artifactHash := text "8cc548bb592c2e4c3102f3cd38be38cdffbc4df3013dad2f0d3a741c1efa98ef"
  artifactContent := some (text "interface down")

/-- The canonical text of the second observation. -/
def interfaceDownText : Bytes :=
  buildCanonicalJson
    (populateEntry handle Sample.env interfaceDown (text "s1") (1, observationHash))

def interfaceDownHash : Bytes :=
  text "4f48f269120fe3e230fca63ce05e90fc3f6506afa77dc2af37378ba80bd05e4b"

/-- SHA-256 and HMAC on the texts of the observations. -/
def walkCrypto : Crypto := .known
  [(genesisText (text "s1"), genesis),
   (text "interface up", observation.artifactHash),
   (text "interface down", interfaceDown.artifactHash),
   (firstText observation, observationHash),
   (interfaceDownText, interfaceDownHash)]
  [((handle.chainKey, firstText observation),
    text "26e7bc543a2a41002b956e6e1928cc168e57c264ce1990c034e011128d74df99"),
   ((handle.chainKey, headCanonical (text "s1") 0 observationHash),
    text "5215a2ec33f8d514454a123b9c92fbf239ab0ab5081e69b57328d01da144435e"),
   ((handle.chainKey, interfaceDownText),
    text "53dfe99227156368eb37d0eb0a77c84f914c57bb10649fbf6f0717dea50d3bd7"),
   ((handle.chainKey, headCanonical (text "s1") 1 interfaceDownHash),
    text "9c10a4aa8027c820fdac8c7d89c89380d97b24db78578400953a02b6fdfbd743")]
  [] []

/-- The chain of the two observations. -/
def twoObservations : Db :=
  (run walkCrypto [.append handle Sample.env observation,
    .append handle Sample.env interfaceDown]).store.committed

/-- The database without its first `n` entries. -/
def withoutFirst (n : Nat) (db : Db) : Db :=
  { db with entries := ⟨db.entries.rows.drop n, db.entries.apart.sublist (List.drop_sublist n _)⟩ }

/-- The daemon's verdict on `s1`. -/
def daemonVerdict (db : Db) : Bool :=
  (chainVerifySessionLocked walkCrypto (fun _ => none) handle readEnv db (text "s1")).valid

/-- The walk of a night on which the transport works. -/
def nightlyWalk (db : Db) : ChainwalkSummary × Nat :=
  runChainwalk walkCrypto (fun _ => none) handle readEnv db (fun _ => true) true

end Sample

open Sample in
theorem chainwalk_sound_two :
    (nightlyWalk twoObservations).1.failures = 0 ∧
    ((∀ s, SessionNamed twoObservations s →
        (chainVerifySessionLocked walkCrypto (fun _ => none) handle readEnv twoObservations
          s).valid = true) ↔
      ∀ head ∈ twoObservations.heads.rows, ∃ r ∈ twoObservations.entries.rows,
        r.sessionId = head.sessionId) := by
  have h : (nightlyWalk twoObservations).1.failures = 0 := by decide +kernel
  unfold nightlyWalk at h ⊢
  exact ⟨h, chainwalk_sound_iff h⟩

open Sample in
/-- **The head that is left.**  Once both entries of the session are gone the daemon reports it
invalid, but the walk asks for no session and has no failure and no alert. -/
theorem chainwalk_misses_head :
    SessionNamed (withoutFirst 2 twoObservations) (text "s1") ∧
    daemonVerdict (withoutFirst 2 twoObservations) = false ∧
    nightlyWalk (withoutFirst 2 twoObservations) = (⟨0, 0, 0⟩, 0) := by
  unfold SessionNamed
  decide +kernel

end Virp
