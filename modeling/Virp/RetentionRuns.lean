import Virp.Retention

/-! # Runs of retention passes

What a run of passes declares and removes, whatever the directory holds and wherever a pass
is cut short.  A file is unlinked only after a delivered record lists it, but it is listed
with the bytes it held at the scan; so the result is for runs in which nobody changes a file
that a pending journal names.  And an artifact id carries the camera, the tier, the time of
the scan and a chunk number that starts anew for every group of files; so the result is for
runs in which no camera is declared by two groups at one time.
-/
namespace Virp

open RetentionState Machine List

variable {C : Crypto} {J : PyJson} {K : ProducerKey} {s s' : RetentionState} {e : RetentionEvent}
  {past : RetentionPast} {job : RetentionJob}

/-! ## What the submitter makes of a record -/

/-- What the scan puts into `removed`. -/
def RetentionItem.Sound (i : RetentionItem) : Prop :=
  isHexOf 64 i.sha256 = true ∧ i.kind ∈ retentionKindNames

theorem sound_retentionItem (path : PyStr) (data : Bytes) : (retentionItem C path data).Sound :=
  ⟨isHexOf_hexStr (C.sha256 data).length_eq, retentionKind_mem _⟩

variable (x : RetentionItem)

theorem RetentionItem.nodup_keys : ([("sha256".toList, PyValue.str x.sha256),
    ("kind".toList, .str x.kind), ("byte_len".toList, .int x.byteLen)].map Prod.fst).Nodup := by
  change ["sha256".toList, "kind".toList, "byte_len".toList].Nodup
  decide +kernel

/-- The entry as the submitter reads it. -/
theorem RetentionItem.get_sortKeys (key : PyStr) :
    x.value.sortKeys.get key = (x.value.get key).map PyValue.sortKeys :=
  PyValue.get_sortKeys x.nodup_keys key

theorem RetentionItem.hasFields_value : x.value.sortKeys.hasFields retentionItemFields = true :=
  PyValue.hasFields_sortKeys _ _

theorem RetentionItem.get_sha256 : x.value.sortKeys.get "sha256".toList = some (.str x.sha256) :=
  x.get_sortKeys _

theorem RetentionItem.get_kind : x.value.sortKeys.get "kind".toList = some (.str x.kind) :=
  x.get_sortKeys _

theorem RetentionItem.get_byteLen : x.value.sortKeys.get "byte_len".toList = some (.int x.byteLen) :=
  x.get_sortKeys _

theorem retentionItemDefect_value {x : RetentionItem} (h : x.Sound) (i : Nat) :
    retentionItemDefect J i x.value.sortKeys = .ok x.byteLen := by
  have hkind : retentionKindNames.any (PyValue.str x.kind).isStr = true :=
    any_eq_true.mpr ⟨x.kind, h.2, by simp [PyValue.isStr]⟩
  unfold retentionItemDefect
  rw [if_neg (by rw [x.hasFields_value]; decide), x.get_sha256, x.get_kind, x.get_byteLen]
  dsimp only
  rw [if_neg (by simp [PyValue.asStr, h.1]), if_neg (by rw [hkind]; decide)]
  simp [PyValue.asInt]

theorem retentionItemsDefect_values {items : List RetentionItem} (h : ∀ x ∈ items, x.Sound)
    (i : Nat) (total : Int) :
    retentionItemsDefect J i total (items.map fun x => x.value.sortKeys) =
      .ok (total + (items.map (·.byteLen)).sum) := by
  induction items generalizing i total with
  | nil => simp [retentionItemsDefect]
  | cons x items ih =>
    rw [map_cons, retentionItemsDefect, retentionItemDefect_value (h x mem_cons_self)]
    dsimp only
    rw [ih (fun y hy => h y (mem_cons_of_mem _ hy))]
    rw [map_cons, sum_cons, Int.natCast_add, Int.add_assoc]

/-- What is needed of a record for it to pass the check. -/
structure RetentionRecord.Sound (r : RetentionRecord) : Prop where
  cameraId : r.cameraId ≠ []
  policyDays : 0 < r.policyDays
  deletedAtNs : 0 < r.deletedAtNs
  removed : r.removed ≠ []
  items : ∀ x ∈ r.removed, x.Sound

/-- The signed record as the submitter reads it: the keys are sorted, and under each is what was
signed. -/
theorem RetentionRecord.get_sortKeys (r : RetentionRecord) (key : PyStr) :
    (r.signed C J K).sortKeys.get key = ((r.signed C J K).get key).map PyValue.sortKeys := by
  refine PyValue.get_sortKeys ?_ key
  change ["schema".toList, "camera_id".toList, "tier".toList, "policy_days".toList,
    "deleted_at_utc_ns".toList, "removed".toList, "removed_count".toList, "removed_bytes".toList,
    "producer_key_id".toList, "producer_sig".toList].Nodup
  decide +kernel

/-- The fields by which a record is told apart. -/
theorem RetentionRecord.get_signed (r : RetentionRecord) :
    (r.signed C J K).sortKeys.get "schema".toList = some (.str schemaRetention) ∧
      (r.signed C J K).sortKeys.get "tier".toList = some (.str r.tier.name) ∧
      (r.signed C J K).sortKeys.get "deleted_at_utc_ns".toList = some (.int r.deletedAtNs) ∧
      (r.signed C J K).sortKeys.get "camera_id".toList = some (.str r.cameraId) :=
  ⟨r.get_sortKeys _, r.get_sortKeys _, r.get_sortKeys _, r.get_sortKeys _⟩

variable {r : RetentionRecord} {cameraId token : PyStr} {nowNs : Nat} {c : RetentionChunk}
  {act : RetentionAct} {j : RetentionJournal}

theorem retentionDefect_signed (h : r.Sound) :
    retentionDefect J (r.signed C J K).sortKeys = none := by
  have hitems := retentionItemsDefect_values (J := J) h.items 0 0
  obtain ⟨x, xs, hx⟩ := exists_cons_of_ne_nil h.removed
  -- the fields of the body, read back one by one
  have hdict : ∃ items, (r.signed C J K).sortKeys = .dict items := ⟨_, rfl⟩
  obtain ⟨items, hi⟩ := hdict
  obtain ⟨hschema, htier, hat, hcamera⟩ := r.get_signed (C := C) (J := J) (K := K)
  have hfields : (r.signed C J K).sortKeys.hasFields retentionFields = true :=
    PyValue.hasFields_sortKeys _ _
  have hdays : (r.signed C J K).sortKeys.get "policy_days".toList = some (.int r.policyDays) :=
    r.get_sortKeys _
  have hremoved : (r.signed C J K).sortKeys.get "removed".toList =
      some (.list (r.removed.map fun x => x.value.sortKeys)) := by
    rw [r.get_sortKeys]
    change some (PyValue.list (sortItems (r.removed.map RetentionItem.value))) = _
    rw [sortItems_eq_map, map_map]
    rfl
  have hcount : (r.signed C J K).sortKeys.get "removed_count".toList =
      some (.int r.removed.length) := r.get_sortKeys _
  have hbytes : (r.signed C J K).sortKeys.get "removed_bytes".toList =
      some (.int ((r.removed.map (·.byteLen)).sum : Nat)) := r.get_sortKeys _
  have hname : retentionTiers.any (PyValue.str r.tier.name).isStr = true := by
    cases r.tier <;> rfl
  rw [hi] at hschema hfields htier hdays hat hcamera hremoved hcount hbytes ⊢
  rw [hx] at hitems hremoved hcount hbytes
  rw [map_cons] at hitems hremoved
  simp only [retentionDefect, hschema, hfields, htier, hdays, hat, hcamera, hremoved, hcount,
    hbytes, hname, hitems, Option.getD_some]
  simp [PyValue.isStr, PyValue.isInt, PyValue.asInt, PyValue.asStr, h.policyDays, h.deletedAtNs,
    h.cameraId]

/-- The id under which the submitter appends the record of a job. -/
theorem submitRecordOnly_signed (h : r.Sound) (name : PyStr)
    (hj : J.loadsBytes (r.bytes C J K) = some (r.signed C J K).sortKeys) :
    submitRecordOnly J name (r.bytes C J K) =
      .ok (retentionArtifactId r.cameraId r.tier.name r.deletedAtNs (jobChunk name)) := by
  obtain ⟨hschema, htier, hat, hcamera⟩ := r.get_signed (C := C) (J := J) (K := K)
  simp only [submitRecordOnly, hj, hschema, retentionDefect_signed h, htier, hat, hcamera]
  simp [PyValue.isStr]

variable {name path : PyStr} {chunk : Nat} {cameras : List (PyStr × PyStr)}

/-- What the submitter appends a record under, if it accepts it. -/
theorem eq_of_submitRecordOnly {id : PyStr} (hj : J.loadsBytes (r.bytes C J K) = some (r.signed C J K).sortKeys)
    (h : submitRecordOnly J name (r.bytes C J K) = .ok id) :
    id = retentionArtifactId r.cameraId r.tier.name r.deletedAtNs (jobChunk name) := by
  obtain ⟨-, htier, hat, hcamera⟩ := r.get_signed (C := C) (J := J) (K := K)
  simp only [submitRecordOnly, hj, htier, hat, hcamera] at h
  split at h
  · exact nomatch h
  split at h
  · exact nomatch h
  · exact (Except.ok.inj h).symm

theorem spoolCameraToken_eq_some (h : spoolCameraToken cameraId = some token) :
    token = cameraId ∧ cameraId ≠ [] ∧ ∀ c ∈ cameraId, spoolCameraOk c = true := by
  cases cameraId with
  | nil => exact nomatch h
  | cons c cs =>
    simp only [spoolCameraToken] at h
    split at h
    · exact nomatch h
    rename_i hok
    push Not at hok
    refine ⟨(Option.some.inj h).symm, cons_ne_nil _ _, ?_⟩
    exact all_eq_true.mp (by simpa using hok.2.2)

theorem dot_notMem (h : ∀ c ∈ cameraId, spoolCameraOk c = true) :
    '.' ∉ cameraId := fun hm => absurd (h _ hm) (by decide)

theorem colon_notMem (h : ∀ c ∈ cameraId, spoolCameraOk c = true) :
    ':' ∉ cameraId := fun hm => absurd (h _ hm) (by decide)

theorem jobChunk_retentionJobName {deletedAtNs : Nat}
    (h : retentionJobName cameraId deletedAtNs chunk = some name) : jobChunk name = chunk := by
  obtain ⟨token, ht, rfl⟩ := Option.map_eq_some_iff.mp h
  obtain ⟨rfl, -, hok⟩ := spoolCameraToken_eq_some ht
  have hsplit : (['.'].intercalate [token, "retention".toList, decimalStr deletedAtNs,
      decimalStr chunk]).splitOn '.' =
        [token, "retention".toList, decimalStr deletedAtNs, decimalStr chunk] := by
    refine splitOn_intercalate '.' ?_ (by simp)
    simp only [mem_cons, not_mem_nil, or_false, forall_eq_or_imp, forall_eq]
    exact ⟨dot_notMem hok, by decide, notMem_decimalStr (by decide) _,
      notMem_decimalStr (by decide) _⟩
  have hdigits : ∀ n, (decimalStr n).all Char.isDigit = true := fun n =>
    all_eq_true.mpr fun _ hc => isDigit_of_mem_decimalStr hc
  have hne : ∀ n, decimalStr n ≠ [] := fun n => Nat.toDigits_ne_nil
  unfold jobChunk
  rw [hsplit]
  exact (if_pos ⟨rfl, hne _, hdigits _, hne _, hdigits _⟩).trans Nat.ofDigitChars_ten_toDigits

theorem RetentionTier.name_injective : Function.Injective RetentionTier.name := by
  intro a b h
  cases a <;> cases b <;> first | rfl | exact absurd h (by decide)

/-- An id names the camera, the tier, the time and the chunk. -/
theorem retentionArtifactId_inj {cam cam' : PyStr} {tier tier' : RetentionTier} {at_ at_' : Nat}
    {chunk' : Nat} (hc : ∀ c ∈ cam, spoolCameraOk c = true)
    (hc' : ∀ c ∈ cam', spoolCameraOk c = true)
    (h : retentionArtifactId cam tier.name at_ chunk = retentionArtifactId cam' tier'.name at_' chunk') :
    cam = cam' ∧ tier = tier' ∧ at_ = at_' ∧ chunk = chunk' := by
  have hsplit : ∀ {cam : PyStr} (tier : RetentionTier) (at_ chunk : Nat),
      (∀ c ∈ cam, spoolCameraOk c = true) →
      (retentionArtifactId cam tier.name at_ chunk).splitOn ':' =
        ["camret".toList, cam, tier.name, decimalStr at_, decimalStr chunk] := by
    intro cam tier at_ chunk hok
    refine splitOn_intercalate ':' ?_ (by simp)
    simp only [mem_cons, not_mem_nil, or_false, forall_eq_or_imp, forall_eq]
    exact ⟨by decide, colon_notMem hok, by cases tier <;> decide, notMem_decimalStr (by decide) _,
      notMem_decimalStr (by decide) _⟩
  have heq := congrArg (splitOn ':') h
  rw [hsplit tier at_ chunk hc, hsplit tier' at_' chunk' hc'] at heq
  simp only [cons.injEq, true_and, and_true] at heq
  exact ⟨heq.1, RetentionTier.name_injective heq.2.1, decimalStr_injective heq.2.2.1,
    decimalStr_injective heq.2.2.2⟩

theorem mem_retentionChunksFrom {limit : Nat} {cur rest chunk : List (PyStr × RetentionItem)}
    {curLen : Nat} (h : chunk ∈ retentionChunksFrom J limit cur curLen rest) :
    chunk ≠ [] ∧ ∀ x ∈ chunk, x ∈ cur ∨ x ∈ rest := by
  induction rest generalizing cur curLen with
  | nil =>
    rw [retentionChunksFrom] at h
    split at h
    · exact absurd h not_mem_nil
    rename_i hcur
    rw [mem_singleton.mp h]
    exact ⟨hcur, fun x hx => .inl hx⟩
  | cons y rest ih =>
    rw [retentionChunksFrom] at h
    split at h
    · rename_i hcur
      rcases mem_cons.mp h with rfl | h
      · exact ⟨hcur.1, fun x hx => .inl hx⟩
      obtain ⟨hne, hmem⟩ := ih h
      refine ⟨hne, fun x hx => .inr ?_⟩
      rcases hmem x hx with hx | hx
      · exact mem_singleton.mp hx ▸ mem_cons_self
      · exact mem_cons_of_mem _ hx
    · obtain ⟨hne, hmem⟩ := ih h
      refine ⟨hne, fun x hx => ?_⟩
      rcases hmem x hx with hx | hx
      · rcases mem_append.mp hx with hx | hx
        · exact .inl hx
        · exact .inr (mem_singleton.mp hx ▸ mem_cons_self)
      · exact .inr (mem_cons_of_mem _ hx)

/-- A chunk says what the files it names hold. -/
structure RetentionChunk.Declares (C : Crypto) (c : RetentionChunk) (files : FileTree) : Prop where
  removed : c.removed ≠ []
  items : ∀ x ∈ c.removed, x.Sound
  holds : ∀ p ∈ c.files, ∀ f, files p = some f → retentionItem C p f.data ∈ c.removed

theorem mem_groupFiles {cfg : RetentionConfig} {files : FileTree} {names : List PyStr}
    {x : PyStr × RetentionItem} (h : x ∈ groupFiles C cfg files nowNs names token) :
    ∃ f, files x.1 = some f ∧ x.2 = retentionItem C x.1 f.data := by
  obtain ⟨⟨t, p, data⟩, hmem, rfl⟩ := mem_map.mp h
  obtain ⟨n, -, hn⟩ := mem_filterMap.mp (mem_filter.mp hmem).1
  obtain ⟨f, hf, hn⟩ := Option.bind_eq_some_iff.mp hn
  split at hn
  · exact nomatch hn
  obtain ⟨-, rfl, rfl⟩ : _ ∧ _ ∧ _ := by simpa using hn
  exact ⟨f, hf, rfl⟩

theorem mem_groupChunks {cfg : RetentionConfig} {files : FileTree} {names : List PyStr}
    (h : c ∈ groupChunks C J cfg files nowNs names token cameraId) :
    c.cameraId = cameraId ∧ c.deletedAtNs = nowNs ∧ c.Declares C files ∧
      (groupChunks C J cfg files nowNs names token cameraId)[c.chunk]? = some c := by
  obtain ⟨i, hi, rfl⟩ := mem_mapIdx.mp h
  obtain ⟨hne, hmem⟩ := mem_retentionChunksFrom (getElem_mem hi)
  have hitem : ∀ x ∈ (retentionChunks J (groupFiles C cfg files nowNs names token)
      artifactLimit)[i], ∃ f, files x.1 = some f ∧ x.2 = retentionItem C x.1 f.data := by
    intro x hx
    exact mem_groupFiles ((hmem x hx).resolve_left not_mem_nil)
  refine ⟨rfl, rfl, ⟨?_, ?_, ?_⟩, ?_⟩
  · simpa using hne
  · intro y hy
    obtain ⟨x, hx, rfl⟩ := mem_map.mp hy
    obtain ⟨f, -, hx⟩ := hitem x hx
    rw [hx]
    exact sound_retentionItem _ _
  · intro p hp f hf
    obtain ⟨x, hx, rfl⟩ := mem_map.mp hp
    obtain ⟨f', hf', hitem⟩ := hitem x hx
    obtain rfl : f' = f := Option.mem_unique hf' hf
    exact mem_map.mpr ⟨x, hx, hitem⟩
  · rw [groupChunks, getElem?_mapIdx, getElem?_eq_getElem hi]
    rfl

/-- If every camera is declared by one group, a chunk is told by its camera and number. -/
theorem scanChunks_inj {cfg : RetentionConfig} {files : FileTree} {names : List PyStr}
    (hnd : (cameras.map (·.2)).Nodup) {d : RetentionChunk}
    (hc : c ∈ scanChunks C J cfg files nowNs names cameras)
    (hd : d ∈ scanChunks C J cfg files nowNs names cameras) (hcam : c.cameraId = d.cameraId)
    (hchunk : c.chunk = d.chunk) : c = d := by
  obtain ⟨t, ht, hct⟩ := mem_flatMap.mp hc
  obtain ⟨u, hu, hdu⟩ := mem_flatMap.mp hd
  obtain ⟨hc1, -, -, hc2⟩ := mem_groupChunks hct
  obtain ⟨hd1, -, -, hd2⟩ := mem_groupChunks hdu
  obtain rfl : t = u := inj_on_of_nodup_map hnd ht hu (hc1.symm.trans (hcam.trans hd1))
  rw [hchunk] at hc2
  exact Option.mem_unique hc2 hd2

/-- The steps of a run: what each starts from, leaves and shows. -/
inductive RetentionMove (C : Crypto) (J : PyJson) (K : ProducerKey) (s : RetentionState) :
    RetentionEvent → RetentionState → RetentionAct → Prop
  | write path file : RetentionMove C J K s (.write path file) (s.setFile path file) .nothing
  | stay e : RetentionMove C J K s e s .nothing
  | stop e : RetentionMove C J K s e { s with pass := none } .nothing
  | resume cfg nowNs names (hpass : s.pass = none) (hj : s.journal.isSome = true) :
      RetentionMove C J K s (.start cfg nowNs names) { s with pass := some ⟨cfg.tier, none⟩ }
        .nothing
  | scan cfg nowNs names cameras (hpass : s.pass = none) (hj : s.journal = none) :
      RetentionMove C J K s (.start cfg nowNs names)
        { s with
            journal := some ⟨cfg.tier, cfg.policyDays,
              scanChunks C J cfg s.files nowNs names cameras⟩
            pass := some ⟨cfg.tier, none⟩ }
        (.scanned cfg.tier nowNs (cameras.map (·.2)))
  | deliver d pass j c rest job pass' (hpass : s.pass = some pass)
      (hj : s.journal = some j) (hc : j.chunks = c :: rest)
      (hjob : outgoing C J K pass.channel j c = some job)
      (hpass' : pass' = none ∨ pass' = some { pass with unlinking := some c.files }) :
      RetentionMove C J K s (.next d) { s with pass := pass' } (.delivered job)
  | unlink d pass path rest act (hpass : s.pass = some pass)
      (hu : pass.unlinking = some (path :: rest))
      (hact : (∃ f, s.files path = some f ∧ act = .removed path f.data) ∨ act = .nothing) :
      RetentionMove C J K s (.next d)
        { s.setFile path none with pass := some { pass with unlinking := some rest } } act
  | save d pass j (hpass : s.pass = some pass) (hj : s.journal = some j) :
      RetentionMove C J K s (.next d)
        { s with
            journal := some { j with chunks := j.chunks.tail }
            pass := some { pass with unlinking := none } } .saved
  | finish d j (hj : s.journal = some j) (hc : j.chunks = []) :
      RetentionMove C J K s (.next d) { s with journal := none, pass := none } .nothing

theorem move_start (s : RetentionState) (cfg : RetentionConfig) (nowNs : Nat)
    (names : List PyStr) :
    RetentionMove C J K s (.start cfg nowNs names) (s.start C J cfg nowNs names).1
      (s.start C J cfg nowNs names).2 := by
  unfold RetentionState.start
  split
  · exact .stay _
  · rename_i hpass hj
    split
    · exact .stay _
    · exact .resume _ _ _ hpass (by rw [hj]; rfl)
  · rename_i hpass hj
    split
    · exact .stay _
    · split
      · exact .stay _
      · exact .scan _ _ _ _ hpass hj

theorem move_next (s : RetentionState) (d : Delivery) :
    RetentionMove C J K s (.next d) (s.next C J K d).1 (s.next C J K d).2 := by
  unfold RetentionState.next
  split
  · rename_i pass j hpass hj
    split
    · rename_i hc
      exact .finish _ _ hj hc
    · rename_i c rest _ hc
      unfold RetentionState.deliver
      split
      · exact .stop _
      rename_i job hjob
      split
      · exact .deliver _ _ _ _ _ _ _ hpass hj hc hjob (.inr rfl)
      · exact .deliver _ _ _ _ _ _ _ hpass hj hc hjob (.inl rfl)
      · exact .stop _
    · rename_i p ps hu
      unfold RetentionState.unlink
      dsimp only
      split
      · rename_i f hf
        exact .unlink _ _ _ _ _ hpass hu (.inl ⟨f, hf, rfl⟩)
      · exact .unlink _ _ _ _ _ hpass hu (.inr rfl)
    · exact .save _ _ _ hpass hj
  · exact .stay _

/-- Every step is one of the moves. -/
theorem move_step (s : RetentionState) (e : RetentionEvent) :
    RetentionMove C J K s e (step C J K s e).1 (step C J K s e).2 := by
  cases e with
  | write path file => exact .write _ _
  | start cfg nowNs names => exact move_start _ _ _ _
  | next d => exact move_next _ _
  | crash => exact .stop _

abbrev RetentionPast := List (RetentionEvent × RetentionAct)

/-- The jobs that were delivered. -/
def deliveries (past : RetentionPast) : List RetentionJob :=
  past.filterMap fun x =>
    match x.2 with
    | .delivered job => some job
    | _ => none

/-- The cameras that were declared, each with the tier and the time of the scan, once for
every group of files. -/
def declaredCameras (past : RetentionPast) : List (RetentionTier × Nat × PyStr) :=
  past.flatMap fun x =>
    match x.2 with
    | .scanned tier nowNs cameras => cameras.map fun camera => (tier, nowNs, camera)
    | _ => []

/-- The job was delivered, and since then no chunk was taken off the journal. -/
def Unsaved (past : RetentionPast) (job : RetentionJob) : Prop :=
  ∃ before e after, past = before ++ (e, .delivered job) :: after ∧ ∀ x ∈ after, x.2 ≠ .saved

theorem mem_deliveries_concat :
    job ∈ deliveries (past ++ [(e, act)]) ↔ job ∈ deliveries past ∨ act = .delivered job := by
  simp only [deliveries, filterMap_append, mem_append]
  cases act <;> simp [eq_comm]

theorem unsaved_concat (h : Unsaved (past ++ [(e, act)]) job) :
    act = .delivered job ∨ (Unsaved past job ∧ act ≠ .saved) := by
  obtain ⟨before, e', after, heq, hafter⟩ := h
  rcases eq_nil_or_concat after with rfl | ⟨after, last, rfl⟩
  · have hlast := (append_inj' heq rfl).2
    simp only [cons.injEq, Prod.mk.injEq, and_true] at hlast
    exact .inl hlast.2
  · rw [concat_eq_append, ← cons_append, ← append_assoc] at heq
    obtain ⟨hpast, hlast⟩ := append_inj' heq rfl
    obtain rfl : (e, act) = last := (cons.inj hlast).1
    refine .inr ⟨⟨before, e', after, hpast, fun x hx => hafter x (by simp [hx])⟩, ?_⟩
    exact hafter (e, act) (by simp)

/-- The files a pending journal names. -/
def pendingFiles (s : RetentionState) : List PyStr :=
  match s.journal with
  | some j => j.chunks.flatMap (·.files)
  | none => []

/-- What the check asks of the numbers of a journal's records. -/
def RetentionJournal.Positive (j : RetentionJournal) : Prop :=
  0 < j.policyDays ∧ ∀ c ∈ j.chunks, 0 < c.deletedAtNs
deriving Decidable

/-- Nobody changes what a file holds while a journal names it, though it may be removed; and a
pass that ships its records works on a journal whose days and time are positive. -/
def Careful (C : Crypto) (J : PyJson) (s : RetentionState) : RetentionEvent → Prop
  | .write path file => path ∈ pendingFiles s →
      file = none ∨ file.map (·.data) = (s.files path).map (·.data)
  | .start cfg nowNs names => cfg.tier = .captureHost →
      ∀ j ∈ (s.start C J cfg nowNs names).1.journal, j.Positive
  | .next _ => True
  | .crash => True

instance (s : RetentionState) (e : RetentionEvent) : Decidable (Careful C J s e) :=
  match e with
  | .write path file => inferInstanceAs (Decidable (path ∈ pendingFiles s →
      file = none ∨ file.map (·.data) = (s.files path).map (·.data)))
  | .start cfg nowNs names => inferInstanceAs (Decidable (cfg.tier = .captureHost →
      ∀ j ∈ (s.start C J cfg nowNs names).1.journal, j.Positive))
  | .next _ => .isTrue trivial
  | .crash => .isTrue trivial

theorem RetentionChunk.Declares.setFile {file : Option StoredFile} (h : c.Declares C s.files)
    (hfile : path ∈ c.files → file = none ∨ file.map (·.data) = (s.files path).map (·.data)) :
    c.Declares C (s.setFile path file).files := by
  refine ⟨h.removed, h.items, fun p hp f hf => ?_⟩
  simp only [RetentionState.setFile] at hf
  split at hf
  · subst p
    rcases hfile hp with hnone | hsame
    · exact absurd (hnone.symm.trans hf) (by simp)
    rw [hf, Option.map_some, eq_comm, Option.map_eq_some_iff] at hsame
    obtain ⟨old, hold, hdata⟩ := hsame
    exact hdata ▸ h.holds path hp old hold
  · exact h.holds p hp f hf

def JournalDeclares (C : Crypto) (s : RetentionState) : Prop :=
  ∀ j, s.journal = some j → ∀ c ∈ j.chunks, c.Declares C s.files

theorem JournalDeclares.move (h : JournalDeclares C s) (hm : RetentionMove C J K s e s' act)
    (hok : Careful C J s e) : JournalDeclares C s' := by
  cases hm with
  | write path file =>
    intro j hj c hc
    refine (h j hj c hc).setFile fun hp => hok ?_
    simp only [pendingFiles, show s.journal = some j from hj]
    exact mem_flatMap.mpr ⟨c, hc, hp⟩
  | stay => exact h
  | stop => exact h
  | resume => exact h
  | scan cfg nowNs names cameras =>
    intro j hj c hc
    cases hj
    obtain ⟨t, -, hct⟩ := mem_flatMap.mp hc
    exact (mem_groupChunks hct).2.2.1
  | deliver => exact h
  | unlink d pass path rest act =>
    exact fun j hj c hc => (h j hj c hc).setFile fun _ => .inl rfl
  | save d pass j hpass hj =>
    intro j' hj' c hc
    cases hj'
    exact h j hj c (mem_of_mem_tail hc)
  | finish => exact fun j hj => nomatch hj

def ShipsPositive (s : RetentionState) : Prop :=
  ∀ pass j, s.pass = some pass → pass.channel = .captureHost → s.journal = some j → j.Positive

theorem RetentionJournal.Positive.tail (h : j.Positive) :
    RetentionJournal.Positive { j with chunks := j.chunks.tail } :=
  ⟨h.1, fun c hc => h.2 c (mem_of_mem_tail hc)⟩

theorem ShipsPositive.step (h : ShipsPositive s) (hok : Careful C J s e) :
    ShipsPositive (step C J K s e).1 := by
  have hm := move_step (C := C) (J := J) (K := K) s e
  generalize hs' : (RetentionState.step C J K s e).1 = s' at hm
  generalize (RetentionState.step C J K s e).2 = act at hm
  intro pass' j' hpass' hch hj'
  -- a pass that begins works on the journal the condition is about
  have hstart : ∀ cfg nowNs names, e = .start cfg nowNs names → pass'.channel = cfg.tier →
      j'.Positive := by
    rintro cfg nowNs names rfl hc
    exact hok (hc.symm.trans hch) j' (by rw [← hs'] at hj'; exact hj')
  cases hm with
  | write path file => exact h pass' j' hpass' hch hj'
  | stay => exact h pass' j' hpass' hch hj'
  | stop => exact nomatch hpass'
  | resume cfg nowNs names =>
    exact hstart cfg nowNs names rfl (by obtain rfl := Option.some.inj hpass'; rfl)
  | scan cfg nowNs names cameras =>
    exact hstart cfg nowNs names rfl (by obtain rfl := Option.some.inj hpass'; rfl)
  | deliver d pass j c rest job pass'' hpass hj hc hjob hpass'' =>
    rcases hpass'' with rfl | rfl
    · exact nomatch hpass'
    cases hpass'
    exact h pass j' hpass hch hj'
  | unlink d pass path rest act hpass =>
    cases hpass'
    exact h pass j' hpass hch hj'
  | save d pass j hpass hj =>
    cases hpass'
    cases hj'
    exact (h pass j hpass hch hj).tail
  | finish => exact nomatch hj'

/-- The job of the first chunk of the journal. -/
def HeadJob (s : RetentionState) (c : RetentionChunk) (job : RetentionJob) : Prop :=
  ∃ j rest, s.journal = some j ∧ j.chunks = c :: rest ∧ jobOf j c = some job

theorem jobOf_of_outgoing {channel : RetentionTier} (h : outgoing C J K channel j c = some job) :
    jobOf j c = some job ∧ job.record = recordOf j c ∧
      (job.record.bytes C J K).length < artifactLimit ∧
      (channel = .spool → (submitRecordOnly J job.name (job.record.bytes C J K)).isOk = true) := by
  unfold outgoing at h
  split at h
  · exact nomatch h
  rename_i hlen
  obtain ⟨hjob, hch⟩ := Option.filter_eq_some_iff.mp h
  obtain ⟨name, -, rfl⟩ := Option.map_eq_some_iff.mp hjob
  refine ⟨hjob, rfl, not_le.mp hlen, ?_⟩
  rintro rfl
  exact hch

/-- What the state knows of the deliveries so far. -/
structure DeliveryPast (s : RetentionState) (past : RetentionPast) : Prop where
  /-- files are unlinked after the record of their chunk was delivered -/
  unlinking : ∀ pass paths, s.pass = some pass → pass.unlinking = some paths →
    ∃ c job, HeadJob s c job ∧ paths ⊆ c.files ∧ job ∈ deliveries past
  /-- a job is delivered again until its chunk is taken off the journal -/
  unsaved : ∀ job, Unsaved past job → ∃ c, HeadJob s c job

theorem DeliveryPast.move (h : DeliveryPast s past) (hm : RetentionMove C J K s e s' act) :
    DeliveryPast s' (past ++ [(e, act)]) := by
  -- steps that leave the journal alone and deliver nothing
  have hkeep : ∀ {s' : RetentionState} {act : RetentionAct}, s'.journal = s.journal →
      (∀ job, act ≠ .delivered job) →
      (∀ pass paths, s'.pass = some pass → pass.unlinking = some paths →
        ∃ pass' paths', s.pass = some pass' ∧ pass'.unlinking = some paths' ∧ paths ⊆ paths') →
      DeliveryPast s' (past ++ [(e, act)]) := by
    intro s' act hj hact hpass
    have hhead : ∀ c job, HeadJob s c job → HeadJob s' c job := by
      rintro c job ⟨j, rest, hsj, hrest⟩
      exact ⟨j, rest, hj.trans hsj, hrest⟩
    constructor
    · intro pass paths hp hu
      obtain ⟨pass', paths', hp', hu', hsub⟩ := hpass pass paths hp hu
      obtain ⟨c, job, hc, hfiles, hjob⟩ := h.unlinking pass' paths' hp' hu'
      exact ⟨c, job, hhead c job hc, List.Subset.trans hsub hfiles, mem_deliveries_concat.mpr (.inl hjob)⟩
    · intro job hjob
      rcases unsaved_concat hjob with hd | ⟨hu, -⟩
      · exact absurd hd (hact job)
      obtain ⟨c, hc⟩ := h.unsaved job hu
      exact ⟨c, hhead c job hc⟩
  cases hm with
  | write path file =>
    exact hkeep rfl nofun fun pass paths hp hu => ⟨pass, paths, hp, hu, Subset.refl _⟩
  | stay => exact hkeep rfl nofun fun pass paths hp hu => ⟨pass, paths, hp, hu, Subset.refl _⟩
  | stop => exact hkeep rfl nofun fun _ _ hp => nomatch hp
  | resume cfg nowNs names =>
    refine hkeep rfl nofun fun pass paths hp hu => ?_
    cases hp
    exact nomatch hu
  | scan cfg nowNs names cameras hpass hj =>
    constructor
    · intro pass paths hp hu
      cases hp
      exact nomatch hu
    intro job hjob
    -- without a journal nothing is left unsaved
    rcases unsaved_concat hjob with hd | ⟨hu, -⟩
    · exact nomatch hd
    obtain ⟨c, j, rest, hsj, -⟩ := h.unsaved job hu
    exact absurd (hj.symm.trans hsj) (by simp)
  | deliver d pass j c rest job pass' hpass hj hc hjob hpass' =>
    have hhead : HeadJob { s with pass := pass' } c job :=
      ⟨j, rest, hj, hc, (jobOf_of_outgoing hjob).1⟩
    constructor
    · intro pass'' paths hp hu
      rcases hpass' with rfl | rfl
      · exact nomatch hp
      cases hp
      cases hu
      exact ⟨c, job, hhead, Subset.refl _, mem_deliveries_concat.mpr (.inr rfl)⟩
    · intro job' hjob'
      rcases unsaved_concat hjob' with hd | ⟨hu, -⟩
      · cases hd
        exact ⟨c, hhead⟩
      obtain ⟨c', j', rest', hj', hrest'⟩ := h.unsaved job' hu
      exact ⟨c', j', rest', hj', hrest'⟩
  | unlink d pass path rest act hpass hu hact =>
    refine hkeep rfl ?_ ?_
    · rintro job rfl
      rcases hact with ⟨f, -, hact⟩ | hact <;> exact nomatch hact
    · intro pass' paths hp hu'
      cases hp
      cases hu'
      exact ⟨pass, path :: rest, hpass, hu, subset_cons_self _ _⟩
  | save d pass j hpass hj =>
    constructor
    · intro pass' paths hp hu
      cases hp
      exact nomatch hu
    · intro job hjob
      rcases unsaved_concat hjob with hd | ⟨-, hs⟩
      · exact nomatch hd
      · exact absurd rfl hs
  | finish d j hj hc =>
    constructor
    · intro pass paths hp
      exact nomatch hp
    intro job hjob
    -- an unsaved job belongs to a chunk, and there is none
    rcases unsaved_concat hjob with hd | ⟨hu, -⟩
    · exact nomatch hd
    obtain ⟨c, j', rest, hj', hc', -⟩ := h.unsaved job hu
    obtain rfl := Option.mem_unique hj hj'
    exact absurd (hc.symm.trans hc') (by simp)

/-- What is known of a job when it leaves the host. -/
structure RetentionJob.Shipped (C : Crypto) (J : PyJson) (K : ProducerKey) (job : RetentionJob) :
    Prop where
  size : (job.record.bytes C J K).length < artifactLimit
  camera : ∀ c ∈ job.record.cameraId, spoolCameraOk c = true
  passes : job.record.Sound ∨
    (submitRecordOnly J job.name (job.record.bytes C J K)).isOk = true

theorem shipped_of_move (hd : JournalDeclares C s) (hp : ShipsPositive s)
    (hm : RetentionMove C J K s e s' (.delivered job)) : job.Shipped C J K := by
  generalize hact : RetentionAct.delivered job = act at hm
  cases hm with
  | deliver d pass j c rest job' pass' hpass hj hc hjob =>
    cases hact
    have hmem : c ∈ j.chunks := hc ▸ mem_cons_self
    obtain ⟨hjo, hrec, hsize, hspool⟩ := jobOf_of_outgoing hjob
    obtain ⟨name, hname, -⟩ := Option.map_eq_some_iff.mp hjo
    obtain ⟨token, htoken, -⟩ := Option.map_eq_some_iff.mp hname
    obtain ⟨-, hne, hok⟩ := spoolCameraToken_eq_some htoken
    refine ⟨hsize, by rw [hrec]; exact hok, ?_⟩
    cases hch : pass.channel with
    | captureHost =>
      obtain ⟨hdays, hat⟩ := hp pass j hpass hch hj
      refine .inl ?_
      rw [hrec]
      exact ⟨hne, hdays, hat c hmem, (hd j hj c hmem).removed, (hd j hj c hmem).items⟩
    | spool => exact .inr (hspool hch)
  | unlink d pass path rest act hpass hu hact' =>
    rcases hact' with ⟨f, -, rfl⟩ | rfl <;> exact nomatch hact
  | _ => exact nomatch hact

/-- The submitter accepts what was shipped, under the id of its camera, tier, time and
chunk. -/
theorem RetentionJob.Shipped.submit (h : job.Shipped C J K)
    (hj : J.loadsBytes (job.record.bytes C J K) = some (job.record.signed C J K).sortKeys) :
    submitRecordOnly J job.name (job.record.bytes C J K) =
      .ok (retentionArtifactId job.record.cameraId job.record.tier.name job.record.deletedAtNs
        (jobChunk job.name)) := by
  rcases h.passes with hs | hok
  · exact submitRecordOnly_signed hs _ hj
  · cases hid : submitRecordOnly J job.name (job.record.bytes C J K) with
    | error e => rw [hid] at hok; exact nomatch hok
    | ok id => rw [eq_of_submitRecordOnly hj hid]

/-- What an artifact id is formed from. -/
def RetentionJob.idParts (job : RetentionJob) : (RetentionTier × Nat × PyStr) × Nat :=
  ((job.record.tier, job.record.deletedAtNs, job.record.cameraId), jobChunk job.name)

/-- The job was delivered, or belongs to a chunk of the journal. -/
def KnownJob (s : RetentionState) (past : RetentionPast) (job : RetentionJob) : Prop :=
  job ∈ deliveries past ∨ ∃ j c, s.journal = some j ∧ c ∈ j.chunks ∧ jobOf j c = some job

/-- A known job was declared by a scan, and is told by the parts of its id if every camera is
declared once. -/
structure IdsPast (s : RetentionState) (past : RetentionPast) : Prop where
  declared : ∀ job, KnownJob s past job → job.idParts.1 ∈ declaredCameras past
  agree : (declaredCameras past).Nodup →
    ∀ a b, KnownJob s past a → KnownJob s past b → a.idParts = b.idParts → a = b

theorem idParts_jobOf (h : jobOf j c = some job) :
    job.idParts = ((j.tier, c.deletedAtNs, c.cameraId), c.chunk) := by
  obtain ⟨name, hname, rfl⟩ := Option.map_eq_some_iff.mp h
  simp only [RetentionJob.idParts, recordOf, jobChunk_retentionJobName hname]

theorem declaredCameras_concat (past : RetentionPast)
    (h : ∀ tier nowNs cameras, act ≠ .scanned tier nowNs cameras) :
    declaredCameras (past ++ [(e, act)]) = declaredCameras past := by
  simp only [declaredCameras, flatMap_append]
  cases act <;> simp_all

theorem declaredCameras_scanned (past : RetentionPast) (e : RetentionEvent) (tier : RetentionTier)
    (nowNs : Nat) (cameras : List PyStr) :
    declaredCameras (past ++ [(e, .scanned tier nowNs cameras)]) =
      declaredCameras past ++ cameras.map fun camera => (tier, nowNs, camera) := by
  simp [declaredCameras]

/-- A scan, when there is no journal. -/
theorem IdsPast.scan (h : IdsPast s past) (e : RetentionEvent) {cfg : RetentionConfig}
    {names : List PyStr} (hs' : s'.journal = some ⟨cfg.tier, cfg.policyDays,
      scanChunks C J cfg s.files nowNs names cameras⟩) :
    IdsPast s' (past ++ [(e, .scanned cfg.tier nowNs (cameras.map (·.2)))]) := by
  -- what is known now was delivered, or belongs to a chunk of this scan
  have hknown : ∀ job, KnownJob s' (past ++ [(e, .scanned cfg.tier nowNs (cameras.map (·.2)))]) job →
      job ∈ deliveries past ∨ ∃ c ∈ scanChunks C J cfg s.files nowNs names cameras,
        jobOf ⟨cfg.tier, cfg.policyDays, scanChunks C J cfg s.files nowNs names cameras⟩ c =
            some job ∧
          job.idParts.1 ∈ (cameras.map (·.2)).map fun camera => (cfg.tier, nowNs, camera) := by
    rintro job (hjob | ⟨j, c, hj, hc, hjob⟩)
    · exact .inl ((mem_deliveries_concat.mp hjob).resolve_right nofun)
    · obtain rfl := Option.mem_unique hs' hj
      refine .inr ⟨c, hc, hjob, ?_⟩
      obtain ⟨t, ht, hct⟩ := mem_flatMap.mp hc
      obtain ⟨hcam, hat, -, -⟩ := mem_groupChunks hct
      rw [idParts_jobOf hjob, hcam, hat]
      exact mem_map_of_mem (mem_map_of_mem ht)
  constructor
  · intro job hjob
    rw [declaredCameras_scanned, mem_append]
    rcases hknown job hjob with hd | ⟨c, -, -, hmem⟩
    · exact .inl (h.declared job (.inl hd))
    · exact .inr hmem
  · intro hnd a b ha hb hab
    rw [declaredCameras_scanned, nodup_append] at hnd
    obtain ⟨hold, hnew, hdisj⟩ := hnd
    have hnew' : (cameras.map (·.2)).Nodup := List.Nodup.of_map _ hnew
    rcases hknown a ha with hda | ⟨c, hc, hjc, hma⟩ <;> rcases hknown b hb with hdb | ⟨d, hd, hjd, hmb⟩
    · exact h.agree hold a b (.inl hda) (.inl hdb) hab
    · exact absurd (congrArg Prod.fst hab) (hdisj _ (h.declared a (.inl hda)) _ hmb)
    · exact absurd (congrArg Prod.fst hab).symm (hdisj _ (h.declared b (.inl hdb)) _ hma)
    · rw [idParts_jobOf hjc, idParts_jobOf hjd] at hab
      simp only [Prod.mk.injEq, true_and] at hab
      obtain rfl := scanChunks_inj hnew' hc hd hab.1.2 hab.2
      exact Option.mem_unique hjc hjd

theorem IdsPast.move (h : IdsPast s past) (hm : RetentionMove C J K s e s' act) :
    IdsPast s' (past ++ [(e, act)]) := by
  -- every step but a scan knows no new job
  have hkeep : ∀ {s' : RetentionState} {act : RetentionAct},
      (∀ tier nowNs cameras, act ≠ .scanned tier nowNs cameras) →
      (∀ job, act = .delivered job → KnownJob s past job) →
      (∀ j c, s'.journal = some j → c ∈ j.chunks → ∃ j', s.journal = some j' ∧ c ∈ j'.chunks ∧
        jobOf j' c = jobOf j c) → IdsPast s' (past ++ [(e, act)]) := by
    intro s' act hscan hdel hj
    have hknown : ∀ job, KnownJob s' (past ++ [(e, act)]) job → KnownJob s past job := by
      rintro job (hjob | ⟨j, c, hsj, hc, hjob⟩)
      · rcases mem_deliveries_concat.mp hjob with hjob | hjob
        · exact .inl hjob
        · exact hdel job hjob
      · obtain ⟨j', hsj', hc', heq⟩ := hj j c hsj hc
        exact .inr ⟨j', c, hsj', hc', heq.trans hjob⟩
    refine ⟨fun job hjob => ?_, fun hnd a b ha hb => ?_⟩
    · rw [declaredCameras_concat past hscan]
      exact h.declared job (hknown job hjob)
    · rw [declaredCameras_concat past hscan] at hnd
      exact h.agree hnd a b (hknown a ha) (hknown b hb)
  cases hm with
  | scan => exact h.scan _ rfl
  | deliver d pass j c rest job pass' hpass hj hc hjob =>
    refine hkeep nofun (fun job' heq => ?_) fun j' c' hj' hc' => ⟨j', hj', hc', rfl⟩
    cases heq
    exact .inr ⟨j, c, hj, hc ▸ mem_cons_self, (jobOf_of_outgoing hjob).1⟩
  | unlink d pass path rest act hpass hu hact =>
    refine hkeep ?_ ?_ fun j c hj hc => ⟨j, hj, hc, rfl⟩
    · rintro _ _ _ rfl
      rcases hact with ⟨f, -, hact⟩ | hact <;> exact nomatch hact
    · rintro _ rfl
      rcases hact with ⟨f, -, hact⟩ | hact <;> exact nomatch hact
  | save d pass j hpass hj =>
    refine hkeep nofun nofun fun j' c hj' hc => ⟨j, hj, ?_, ?_⟩
    · cases hj'
      exact mem_of_mem_tail hc
    cases hj'
    rfl
  | finish => exact hkeep nofun nofun nofun
  | _ => exact hkeep nofun nofun fun j c hj hc => ⟨j, hj, hc, rfl⟩

/-- Everything that is kept along a run. -/
structure RetentionRun (C : Crypto) (J : PyJson) (K : ProducerKey) (s : RetentionState)
    (past : RetentionPast) : Prop where
  declares : JournalDeclares C s
  positive : ShipsPositive s
  delivery : DeliveryPast s past
  shipped : ∀ job ∈ deliveries past, job.Shipped C J K
  ids : IdsPast s past

theorem RetentionRun.init (files : FileTree) : RetentionRun C J K (.init files) [] where
  declares _ hj := nomatch hj
  positive _ _ hp := nomatch hp
  delivery := by
    refine ⟨fun _ _ hp => (nomatch hp), ?_⟩
    rintro job ⟨before, e, after, heq, -⟩
    exact absurd heq (by simp)
  shipped _ hjob := absurd hjob (by simp [deliveries])
  ids := by
    have hnone : ∀ job, ¬ KnownJob (.init files) [] job := by
      rintro job (hjob | ⟨j, c, hj, -⟩)
      · exact absurd hjob (by simp [deliveries])
      · exact nomatch hj
    exact ⟨fun job hjob => absurd hjob (hnone job), fun _ a _ ha => absurd ha (hnone a)⟩

theorem RetentionRun.step (h : RetentionRun C J K s past) (hok : Careful C J s e) :
    RetentionRun C J K (step C J K s e).1 (past ++ [(e, (step C J K s e).2)]) where
  declares := h.declares.move (move_step s e) hok
  positive := h.positive.step hok
  delivery := h.delivery.move (move_step s e)
  shipped := by
    intro job hjob
    rcases mem_deliveries_concat.mp hjob with hjob | hact
    · exact h.shipped job hjob
    · have hm := move_step (C := C) (J := J) (K := K) s e
      rw [hact] at hm
      exact shipped_of_move h.declares h.positive hm
  ids := h.ids.move (move_step s e)

/-- What is unlinked was declared by a delivered record. -/
theorem RetentionRun.declared (h : RetentionRun C J K s past) {data : Bytes}
    (hact : (RetentionState.step C J K s e).2 = .removed path data) :
    ∃ job ∈ deliveries past, retentionItem C path data ∈ job.record.removed := by
  have hm := move_step (C := C) (J := J) (K := K) s e
  rw [hact] at hm
  generalize hr : RetentionAct.removed path data = act at hm
  generalize (RetentionState.step C J K s e).1 = s' at hm
  cases hm with
  | unlink d pass path' rest act hpass hu hact' =>
    rcases hact' with ⟨f, hf, rfl⟩ | rfl
    · cases hr
      obtain ⟨c, job, ⟨j, rest', hj, hc, hjob⟩, hsub, hmem⟩ := h.delivery.unlinking pass _ hpass hu
      refine ⟨job, hmem, ?_⟩
      obtain ⟨name, -, rfl⟩ := Option.map_eq_some_iff.mp hjob
      exact (h.declares j hj c (hc ▸ mem_cons_self)).holds path (hsub mem_cons_self) f hf
    · exact nomatch hr
  | _ => exact nomatch hr

/-- A chunk that was delivered and not taken off the journal is delivered as the same job. -/
theorem RetentionRun.redelivered (h : RetentionRun C J K s past) {job' : RetentionJob}
    (hu : Unsaved past job) (hact : (RetentionState.step C J K s e).2 = .delivered job') :
    job' = job := by
  have hm := move_step (C := C) (J := J) (K := K) s e
  rw [hact] at hm
  generalize hr : RetentionAct.delivered job' = act at hm
  generalize (RetentionState.step C J K s e).1 = s' at hm
  cases hm with
  | deliver d pass j c rest job'' pass' hpass hj hc hjob =>
    cases hr
    obtain ⟨c', j', rest', hj', hc', hjob'⟩ := h.delivery.unsaved job hu
    obtain rfl := Option.mem_unique hj hj'
    obtain ⟨rfl, rfl⟩ := cons.inj (hc.symm.trans hc')
    exact Option.some.inj ((jobOf_of_outgoing hjob).1.symm.trans hjob')
  | unlink d pass path rest act hpass hu hact' =>
    rcases hact' with ⟨f, -, rfl⟩ | rfl <;> exact nomatch hr
  | _ => exact nomatch hr

/-- **Runs of retention passes.**  In a run in which no file is changed while a journal names
it, no camera is declared by two groups of files at one time, and the days and times of shipped
records are positive: what is unlinked is listed, with the digest and the length of what it
holds, in a record delivered before; the submitter accepts every delivered record, which is
below the size limit; a chunk delivered again is delivered as the same job, with the same
bytes; and jobs appended under one id are the same. -/
theorem retention_of_run (C : Crypto) (J : PyJson) (K : ProducerKey) (files : FileTree)
    (events : List RetentionEvent)
    (hok : Steps (step C J K) (Careful C J) (.init files) events)
    (hnd : (declaredCameras (trace (step C J K) (.init files) events)).Nodup)
    (hjson : ∀ job ∈ deliveries (trace (step C J K) (.init files) events),
      J.loadsBytes (job.record.bytes C J K) = some (job.record.signed C J K).sortKeys) :
    let s := final (step C J K) (.init files) events
    let past := trace (step C J K) (.init files) events
    (∀ e path data, (step C J K s e).2 = .removed path data →
      ∃ job ∈ deliveries past, ∃ item ∈ job.record.removed,
        item.sha256 = hexStr (C.sha256 data).bytes ∧ item.byteLen = data.length) ∧
    (∀ job ∈ deliveries past,
      (∃ id, submitRecordOnly J job.name (job.record.bytes C J K) = .ok id) ∧
        (job.record.bytes C J K).length < artifactLimit) ∧
    (∀ job e job', Unsaved past job → (step C J K s e).2 = .delivered job' → job' = job) ∧
    (∀ a ∈ deliveries past, ∀ b ∈ deliveries past, ∀ id,
      submitRecordOnly J a.name (a.record.bytes C J K) = .ok id →
      submitRecordOnly J b.name (b.record.bytes C J K) = .ok id → a = b) := by
  intro s past
  have hrun : RetentionRun C J K s past :=
    invariant_of_steps (I := RetentionRun C J K) (RetentionRun.init files)
      (fun _ _ _ h hok => h.step hok) hok
  refine ⟨?_, ?_, ?_, ?_⟩
  · intro e path data hact
    obtain ⟨job, hjob, hitem⟩ := hrun.declared hact
    exact ⟨job, hjob, _, hitem, rfl, rfl⟩
  · intro job hjob
    have hship := hrun.shipped job hjob
    exact ⟨⟨_, hship.submit (hjson job hjob)⟩, hship.size⟩
  · exact fun job e job' hu hact => hrun.redelivered hu hact
  · intro a ha b hb id hida hidb
    have hsa := hrun.shipped a ha
    have hsb := hrun.shipped b hb
    have hid := Except.ok.inj ((hsa.submit (hjson a ha)).symm.trans
      (hida.trans (hidb.symm.trans (hsb.submit (hjson b hb)))))
    obtain ⟨hcam, htier, hat, hchunk⟩ := retentionArtifactId_inj hsa.camera hsb.camera hid
    refine hrun.ids.agree hnd a b (.inl ha) (.inl hb) ?_
    rw [RetentionJob.idParts, RetentionJob.idParts, hcam, htier, hat, hchunk]

/-! ## A directory -/

namespace RetentionSample

def crypto : Crypto :=
  .known
    [(text "aaaa", text "61be55a8e2f6b4e172338bddf184d6dbee29c98853e0a0485ecee7f27b9af0b4"),
     (text "bbb", text "3e744b9dc39389baf0c5a0660589b8402f3dbb49b89b3e75f2c9355852a3c677")]
    [] [] []

def key : ProducerKey := ⟨[], "producer".toList⟩

def front : PyStr := "/spool/done/front.000001.mp4".toList

def rear : PyStr := "/spool/done/rear.000001.mp4".toList

/-- Two old segments. -/
def files : FileTree := fun p =>
  if p = front then some ⟨text "aaaa", 10⟩ else if p = rear then some ⟨text "bbb", 10⟩ else none

def names : List PyStr := ["rear.000001.mp4".toList, "front.000001.mp4".toList]

def day : Nat := 86400 * 10 ^ 9

def cfg (cameraId : Option PyStr) : RetentionConfig :=
  ⟨"/spool/done".toList, .captureHost, 1, cameraId, false⟩

def recordFor (cameraId path : PyStr) (data : Bytes) : RetentionRecord :=
  ⟨cameraId, .captureHost, 1, 2 * day, [retentionItem crypto path data]⟩

def jobFor (cameraId path : PyStr) (data : Bytes) : RetentionJob :=
  ⟨cameraId ++ ".retention.172800000000000.0".toList, recordFor cameraId path data⟩

/-- A pass whose first delivery fails although the job arrives, and a pass that finishes the
work. -/
def resumed : List RetentionEvent :=
  [.start (cfg none) (2 * day) names, .next (.failed true), .start (cfg none) (3 * day) names,
   .next .accepted, .next .accepted, .next .accepted, .next .accepted]

/-- A pass for one camera that both files belong to. -/
def oneCamera : List RetentionEvent :=
  [.start (cfg (some "yard".toList)) (2 * day) names, .next .accepted, .next .accepted,
   .next .accepted, .next .accepted]

/-- A pass during which a file is written. -/
def rewritten : List RetentionEvent :=
  [.start (cfg none) (2 * day) names, .write front (some ⟨text "bbb", 5⟩), .next .accepted,
   .next .accepted]

end RetentionSample

open RetentionSample

/-- The second file of the interrupted pass is removed after its record, and all records are
accepted. -/
theorem retention_of_run_resumed :
    let a := jobFor "front".toList front (text "aaaa")
    let b := jobFor "rear".toList rear (text "bbb")
    let past := trace (step crypto .plain key) (.init files) resumed
    deliveries past = [a, a, b] ∧
    (∀ job ∈ deliveries past,
      ∃ id, submitRecordOnly .plain job.name (job.record.bytes crypto .plain key) = .ok id) ∧
    ∃ job ∈ deliveries past, ∃ item ∈ job.record.removed,
      item.sha256 = hexStr (crypto.sha256 (text "bbb")).bytes ∧
        item.byteLen = (text "bbb").length := by
  intro a b past
  have hread : ∀ job, job = a ∨ job = b →
      PyJson.plain.loadsBytes (job.record.bytes crypto .plain key) =
        some (job.record.signed crypto .plain key).sortKeys := by
    have hsame : ∀ job, job = a ∨ job = b →
        (PyJson.plain.loadsBytes (job.record.bytes crypto .plain key)).any
          (·.same (job.record.signed crypto .plain key).sortKeys) = true := by
      rintro job (rfl | rfl) <;> decide +kernel
    intro job hjob
    obtain ⟨v, hv, heq⟩ := (Option.any_eq_true _ _).mp (hsame job hjob)
    rw [hv, PyValue.eq_of_same heq]
  have hjobs : deliveries past = [a, a, b] := by decide +kernel
  have hrun := retention_of_run crypto .plain key files resumed (by decide +kernel)
    (by decide +kernel) (by
      intro job hjob
      have hmem : job ∈ [a, a, b] := hjobs ▸ hjob
      exact hread job (by simpa using hmem))
  refine ⟨hjobs, fun job hjob => (hrun.2.1 job hjob).1, ?_⟩
  exact hrun.1 (.next .accepted) rear (text "bbb") (by decide +kernel)

/-- Two groups of files of one camera get two records under one id; and a file that is written
between the scan and its removal is removed although no record lists what it holds. -/
theorem one_id_for_two_groups_and_rewritten_file_removed :
    (let a := jobFor "yard".toList front (text "aaaa")
     let b := jobFor "yard".toList rear (text "bbb")
     let id := "camret:yard:capture-host:172800000000000:0".toList
     deliveries (trace (step crypto .plain key) (.init files) oneCamera) = [a, b] ∧
       a.record ≠ b.record ∧
       (submitRecordOnly .plain a.name (a.record.bytes crypto .plain key)).toOption = some id ∧
       (submitRecordOnly .plain b.name (b.record.bytes crypto .plain key)).toOption = some id) ∧
    (let past := trace (step crypto .plain key) (.init files) rewritten
     past.getLast?.map (·.2) = some (.removed front (text "bbb")) ∧
       ∀ job ∈ deliveries past, ∀ item ∈ job.record.removed,
         item.sha256 ≠ hexStr (crypto.sha256 (text "bbb")).bytes) := by
  decide +kernel

end Virp
