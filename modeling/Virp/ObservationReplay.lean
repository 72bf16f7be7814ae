import Virp.Observation

/-! # An observation is accepted once

What the builder of version 2 returns is accepted by the verifier, and the second time refused as
a replay; a refused observation leaves the store as it was.  The builder does not look at the
tier, which the verifier does, and the store takes an evicted mark with a tick of zero for none.
-/
namespace Virp

open Wire List

variable {C : Crypto} {s : VirpSession} {m : Bytes} {hdr : ObsHeader} {a : ObsArgs} {e : ObsExpected}

/-! ## What is built -/

theorem sessionIdAt_eq {off : Nat} {b : Bytes} {id : SessionId} (h : slice off 16 b = id.bytes) :
    sessionIdAt off b = id := by
  have hlen : (slice off 16 b).length = 16 := by rw [h, id.length_eq]
  rw [sessionIdAt, dif_pos hlen]
  cases id
  congr

@[simp] theorem length_obsHeader_bytes (h : ObsHeader) : h.bytes.length = 88 := by
  simp [ObsHeader.bytes, h.sessionId.length_eq, h.commandHash.length_eq]

theorem obsHeaderDeserialize_bytes (h : ObsHeader) (rest : Bytes) (hres : h.reserved = 0) :
    obsHeaderDeserialize (h.bytes ++ rest) = .ok h := by
  have hlen : ¬ (h.bytes ++ rest).length < 88 := by
    rw [length_append, length_obsHeader_bytes]
    omega
  have hid : sessionIdAt 28 (h.bytes ++ rest) = h.sessionId := by
    apply sessionIdAt_eq
    simp [ObsHeader.bytes, slice_append, slice_zero h.sessionId.length_eq]
  have hhash : digestAt 52 (h.bytes ++ rest) = h.commandHash := by
    apply digestAt_eq
    simp [ObsHeader.bytes, slice_append, h.sessionId.length_eq, slice_zero h.commandHash.length_eq]
  rw [obsHeaderDeserialize, if_neg hlen, hid, hhash]
  obtain ⟨version, channel, tier, reserved, nodeId, timestampNs, seqNum, sessionId, deviceId,
    commandHash, payloadLen⟩ := h
  subst hres
  simp [ObsHeader.bytes, byteAt, u64At, u32At, slice_append, slice_zero, sessionId.length_eq,
    commandHash.length_eq]

/-- The bytes of an observation of version 2. -/
def observationBytes (C : Crypto) (key : Bytes) (h : ObsHeader) (payload : Bytes) : Bytes :=
  h.bytes ++ (payload ++ (C.hmac key (h.bytes ++ payload)).bytes)

theorem noteActivity_ok {s' : VirpSession} {now : UInt64} (h : noteActivity s now = .ok s') :
    s.state = .active ∧ s.sessionKeyValid = true ∧ s' = { s with lastActivityNs := now } := by
  obtain ⟨hactive, h⟩ := guard_ok.mp h
  obtain ⟨hkey, h⟩ := guard_ok.mp h
  exact ⟨not_not.mp hactive, Bool.not_eq_false _ ▸ hkey, (Except.ok.inj h).symm⟩

variable {version : UInt8} {outBufLen : Nat} {saved : Bool} {st : SeqState}

theorem obsHeader_ok {stamp : UInt64} (h : obsHeader C version s stamp a = .ok hdr) :
    ∃ hash, commandHash C a.command a.typedProfile = some hash ∧
      hdr = ⟨version, channelOc, a.tier, 0, a.nodeId, stamp, a.seqNum, s.sessionId, a.deviceId, hash,
        .ofNat a.payload.length⟩ := by
  unfold obsHeader at h
  split at h
  · cases h
  rename_i hash hhash
  exact ⟨hash, hhash, (Except.ok.inj h).symm⟩

variable {h : ObsHeader} {t : ObsTimes}

theorem obsHeaderSerialize_ok {bufLen : Nat} {head : Bytes}
    (hok : obsHeaderSerialize h bufLen = .ok head) : head = h.bytes := by
  obtain ⟨-, hok⟩ := guard_ok.mp hok
  obtain ⟨-, hok⟩ := guard_ok.mp hok
  exact (Except.ok.inj hok).symm

theorem signObservationV2_ok {sig : Digest} (h : (signObservationV2 C s t a).2 = .ok (hdr, sig)) :
    s.state = .active ∧ s.sessionKeyValid = true ∧
    (signObservationV2 C s t a).1 = { s with lastActivityNs := t.activity } ∧
    obsHeader C 2 s t.stamp a = .ok hdr ∧
    sig = C.hmac s.sessionKey.bytes (hdr.bytes ++ a.payload) := by
  unfold signObservationV2 at h ⊢
  split at h
  · cases h
  rename_i hsize
  rw [if_neg hsize]
  split at h
  · cases h
  rename_i s' hnote
  obtain ⟨hactive, hkey, rfl⟩ := noteActivity_ok hnote
  obtain ⟨hdr', hhdr, h⟩ := bind_ok.mp h
  obtain ⟨-, h⟩ := guard_ok.mp h
  obtain ⟨head, hhead, h⟩ := bind_ok.mp h
  obtain ⟨rfl, rfl⟩ := Prod.mk.inj (Except.ok.inj h)
  rw [obsHeaderSerialize_ok hhead]
  exact ⟨hactive, hkey, rfl, hhdr, rfl⟩

/-- What the builder of version 2 does when it returns OK. -/
theorem buildObservationV2_ok (h : (buildObservationV2 C s t a outBufLen).2 = .ok m) :
    s.state = .active ∧ s.sessionKeyValid = true ∧ 120 + a.payload.length ≤ maxMessageSize ∧
    (buildObservationV2 C s t a outBufLen).1 = { s with lastActivityNs := t.activity } ∧
    ∃ hash, commandHash C a.command a.typedProfile = some hash ∧
      m = observationBytes C s.sessionKey.bytes ⟨2, channelOc, a.tier, 0, a.nodeId, t.stamp,
        a.seqNum, s.sessionId, a.deviceId, hash, .ofNat a.payload.length⟩ a.payload := by
  unfold buildObservationV2 at h ⊢
  simp only at h ⊢
  split at h
  · cases h
  rename_i hsize
  rw [if_neg hsize]
  split at h
  · cases h
  rename_i htotal
  rw [if_neg htotal]
  split at h
  · cases h
  rename_i hbuf
  rw [if_neg hbuf]
  obtain ⟨⟨hdr, sig⟩, hsign, h⟩ := bind_ok.mp h
  obtain ⟨head, hhead, h⟩ := bind_ok.mp h
  obtain ⟨hactive, hkey, hsession, hhdr, rfl⟩ := signObservationV2_ok hsign
  obtain ⟨hash, hhash, rfl⟩ := obsHeader_ok hhdr
  obtain rfl := obsHeaderSerialize_ok hhead
  exact ⟨hactive, hkey, by omega, hsession, hash, hhash, (Except.ok.inj h).symm⟩

theorem obsHeaderSanity_ok_iff {msgLen trailerLen : Nat} :
    obsHeaderSanity h version msgLen trailerLen = .ok () ↔
      88 + trailerLen ≤ msgLen ∧ h.version = version ∧ h.channel = channelOc ∧ h.tier ≤ tierRed ∧
        h.reserved = 0 ∧ h.payloadLen.toNat = msgLen - 88 - trailerLen := by
  simp only [obsHeaderSanity, guard_ok, not_not, Nat.not_lt, and_true]
  rw [← tier_le_red_iff]
  tauto

/-- Header and HMAC of a built observation. -/
theorem checkObservationV2_bytes (C : Crypto) (key : Bytes) {payload : Bytes}
    (hres : h.reserved = 0) : checkObservationV2 C key (observationBytes C key h payload) =
      (obsHeaderSanity h 2 (120 + payload.length) 32 >>= fun _ => .ok h) := by
  have hlen : (observationBytes C key h payload).length = 120 + payload.length := by
    simp only [observationBytes, length_append, length_obsHeader_bytes,
      (C.hmac key (h.bytes ++ payload)).length_eq]
    omega
  have hsplit : observationBytes C key h payload =
      (h.bytes ++ payload) ++ (C.hmac key (h.bytes ++ payload)).bytes := (append_assoc ..).symm
  have hsigned : (h.bytes ++ payload).length = 120 + payload.length - 32 := by
    rw [length_append, length_obsHeader_bytes]
    omega
  have hhdr : obsHeaderDeserialize (observationBytes C key h payload) = .ok h :=
    obsHeaderDeserialize_bytes h _ hres
  rw [checkObservationV2, hhdr, hlen, hsplit, drop_left' hsigned, take_left' hsigned]
  exact if_neg (not_not.mpr rfl)

/-- The caller asks for what was observed, in time. -/
structure ObsExpected.Fits (e : ObsExpected) (t : ObsTimes) (a : ObsArgs) : Prop where
  deviceId : e.deviceId = a.deviceId
  command : e.command = a.command
  typedProfile : e.typedProfile = a.typedProfile
  fresh : skew e.now t.stamp ≤ 300 * 1000000000

/-- **What was built passes the checks** if its tier does. -/
theorem checkObservationFor_built (h : (buildObservationV2 C s t a outBufLen).2 = .ok m) :
    ∃ hdr : ObsHeader, hdr.sessionId = s.sessionId ∧ hdr.nodeId = a.nodeId ∧ hdr.seqNum = a.seqNum ∧
      ∀ e : ObsExpected, e.Fits t a →
        (checkObservationFor C (buildObservationV2 C s t a outBufLen).1 e m = .ok hdr ∧
          a.tier ≤ tierRed) ∨
        ((∃ err, checkObservationFor C (buildObservationV2 C s t a outBufLen).1 e m = .error err) ∧
          ¬ a.tier ≤ tierRed) := by
  obtain ⟨hactive, hkey, hsize, hsession, hash, hhash, rfl⟩ := buildObservationV2_ok h
  refine ⟨⟨2, channelOc, a.tier, 0, a.nodeId, t.stamp, a.seqNum, s.sessionId, a.deviceId, hash,
    .ofNat a.payload.length⟩, rfl, rfl, rfl, fun e he => ?_⟩
  generalize hh : (⟨2, channelOc, a.tier, 0, a.nodeId, t.stamp, a.seqNum, s.sessionId, a.deviceId,
    hash, .ofNat a.payload.length⟩ : ObsHeader) = hdr
  have hlen : (observationBytes C s.sessionKey.bytes hdr a.payload).length =
      120 + a.payload.length := by
    simp only [observationBytes, length_append, length_obsHeader_bytes,
      (C.hmac s.sessionKey.bytes (hdr.bytes ++ a.payload)).length_eq]
    omega
  have hpayload : hdr.payloadLen.toNat = 120 + a.payload.length - 88 - 32 := by
    rw [← hh]
    show (UInt32.ofNat a.payload.length).toNat = _
    rw [UInt32.toNat_ofNat_of_lt' (by simp only [maxMessageSize, UInt32.size] at *; omega)]
    omega
  have hcheck : checkObservationV2 C s.sessionKey.bytes
      (observationBytes C s.sessionKey.bytes hdr a.payload) =
        (obsHeaderSanity hdr 2 (120 + a.payload.length) 32 >>= fun _ => .ok hdr) :=
    checkObservationV2_bytes C _ (by rw [← hh])
  rw [hsession, checkObservationFor, hlen, if_neg (by omega), if_neg (by omega),
    if_neg (not_not.mpr hactive), if_neg (by simp [hkey]), hcheck]
  by_cases htier : a.tier ≤ tierRed
  · have hsane : obsHeaderSanity hdr 2 (120 + a.payload.length) 32 = .ok () := by
      refine obsHeaderSanity_ok_iff.mpr ⟨by omega, ?_, ?_, ?_, ?_, hpayload⟩
      all_goals rw [← hh]
      exact htier
    refine .inl ⟨?_, htier⟩
    rw [hsane, he.command, he.typedProfile, hhash]
    show (if _ then _ else if _ then _ else if _ then _ else if _ then _ else _) = _
    rw [if_neg (by rw [← hh]; exact not_not.mpr rfl), if_neg (by rw [← hh, he.deviceId]; simp),
      if_neg (by rw [← hh]; simp), if_neg (by rw [← hh]; exact UInt64.not_lt.mpr he.fresh)]
  · refine .inr ⟨?_, htier⟩
    cases hsane : obsHeaderSanity hdr 2 (120 + a.payload.length) 32 with
    | error err => exact ⟨err, rfl⟩
    | ok _ =>
      have hle := (obsHeaderSanity_ok_iff.mp hsane).2.2.2.1
      rw [← hh] at hle
      exact absurd hle htier

/-! ## Once -/

/-- The store takes the number of an observation. -/
def TakesNumber (st : SeqState) (key : SeqKey) (seq : UInt64) : Prop :=
  ∃ r, acceptTable st.store key seq = .ok r

/-- What the verifier does with an observation that passes its checks. -/
theorem virpVerifyObservationV2_of_check (h : checkObservationFor C s e m = .ok hdr) (saved : Bool)
    (st : SeqState) : ((∃ r, (virpVerifyObservationV2 C s e m saved st).2 = .ok r) ↔
      TakesNumber st (hdr.sessionId, hdr.nodeId) hdr.seqNum ∧ saved = true) := by
  rw [virpVerifyObservationV2, h]
  simp only [seqStep, TakesNumber]
  cases ht : acceptTable st.store (hdr.sessionId, hdr.nodeId) hdr.seqNum with
  | error err =>
    constructor
    · rintro ⟨_, hok⟩
      cases hok
    · rintro ⟨⟨_, hok⟩, -⟩
      cases hok
  | ok r =>
    cases saved with
    | true => exact iff_of_true ⟨_, rfl⟩ ⟨⟨r, rfl⟩, rfl⟩
    | false =>
      constructor
      · rintro ⟨_, hok⟩
        cases hok
      · rintro ⟨-, hsaved⟩
        cases hsaved

/-- An observation that was accepted is a replay the next time. -/
theorem virpVerifyObservationV2_again {e' : ObsExpected} (h : checkObservationFor C s e m = .ok hdr)
    (h' : checkObservationFor C s e' m = .ok hdr) (saved' : Bool)
    (hok : ∃ r, (virpVerifyObservationV2 C s e m saved st).2 = .ok r) :
    (virpVerifyObservationV2 C s e' m saved' (virpVerifyObservationV2 C s e m saved st).1).2 =
      .error .replayDetected := by
  obtain ⟨⟨⟨new, back, evicted⟩, ht⟩, rfl⟩ := (virpVerifyObservationV2_of_check h saved st).mp hok
  have hfirst : (virpVerifyObservationV2 C s e m true st).1 =
      ⟨new, some (seqText new.entries)⟩ := by
    rw [virpVerifyObservationV2, h]
    simp only [seqStep, ht, if_true]
  rw [hfirst, virpVerifyObservationV2, h']
  simp only [seqStep, acceptTable_again ht]

/-- A refused observation changes the store only if a mark with a tick of zero had to make room
and the save failed. -/
theorem virpVerifyObservationV2_unchanged_iff {err : VirpError}
    (h : (virpVerifyObservationV2 C s e m saved st).2 = .error err) :
    ((virpVerifyObservationV2 C s e m saved st).1.store.entries = st.store.entries ∧
        (virpVerifyObservationV2 C s e m saved st).1.file = st.file) ↔
      (saved = false → ∀ hdr, checkObservationFor C s e m = .ok hdr → ∀ new back mark,
        acceptTable st.store (hdr.sessionId, hdr.nodeId) hdr.seqNum = .ok (new, back, some mark) →
          mark.touched ≠ 0) := by
  rw [virpVerifyObservationV2] at h ⊢
  cases hc : checkObservationFor C s e m with
  | error err' => exact iff_of_true ⟨rfl, rfl⟩ (fun _ _ h => nomatch h)
  | ok hdr =>
    rw [hc] at h
    simp only [seqStep] at h ⊢
    cases ht : acceptTable st.store (hdr.sessionId, hdr.nodeId) hdr.seqNum with
    | error err' =>
      refine iff_of_true ⟨rfl, rfl⟩ ?_
      rintro - _ ⟨⟩ new back mark hmark
      rw [ht] at hmark
      cases hmark
    | ok r =>
      obtain ⟨new, back, evicted⟩ := r
      rw [ht] at h
      cases saved with
      | true => cases h
      | false =>
        simp only [Bool.false_eq_true, if_false, and_true, forall_const, acceptTable_back_iff ht]
        constructor
        · rintro hall _ ⟨⟩ _ _ mark hmark
          rw [ht] at hmark
          cases hmark
          exact hall mark rfl
        · rintro hall mark rfl
          exact hall hdr rfl new back mark ht

/-- **Accepted once, and refused without a trace.**  An observation that was built is accepted
for the same session, device and command within the freshness window, and refused as a replay the
second time, exactly if its tier is not above RED and the store takes its number and saves it.
Whatever is refused leaves the marks and the file as they were, unless a mark with a tick of zero
was to make room and the save failed. -/
theorem observationV2_replay_iff (C : Crypto) :
    (∀ (s : VirpSession) (t : ObsTimes) (a : ObsArgs) (outBufLen : Nat) (m : Bytes),
      (buildObservationV2 C s t a outBufLen).2 = .ok m →
      ∀ (e e' : ObsExpected), e.Fits t a → e'.Fits t a → ∀ (saved saved' : Bool) (st : SeqState),
      let s' := (buildObservationV2 C s t a outBufLen).1
      ((∃ r, (virpVerifyObservationV2 C s' e m saved st).2 = .ok r) ∧
        (virpVerifyObservationV2 C s' e' m saved' (virpVerifyObservationV2 C s' e m saved st).1).2 =
          .error .replayDetected) ↔
      a.tier ≤ tierRed ∧ TakesNumber st (s.sessionId, a.nodeId) a.seqNum ∧ saved = true) ∧
    (∀ (s : VirpSession) (e : ObsExpected) (m : Bytes) (saved : Bool) (st : SeqState)
      (err : VirpError), (virpVerifyObservationV2 C s e m saved st).2 = .error err →
      (((virpVerifyObservationV2 C s e m saved st).1.store.entries = st.store.entries ∧
          (virpVerifyObservationV2 C s e m saved st).1.file = st.file) ↔
        (saved = false → ∀ hdr, checkObservationFor C s e m = .ok hdr → ∀ new back mark,
          acceptTable st.store (hdr.sessionId, hdr.nodeId) hdr.seqNum =
            .ok (new, back, some mark) → mark.touched ≠ 0))) := by
  refine ⟨?_, fun _ _ _ _ _ _ => virpVerifyObservationV2_unchanged_iff⟩
  intro s t a outBufLen m h e e' he he' saved saved' st s'
  obtain ⟨hdr, hid, hnode, hseq, hcheck⟩ := checkObservationFor_built h
  rw [← hid, ← hnode, ← hseq]
  rcases hcheck e he with ⟨hok, htier⟩ | ⟨⟨err, herr⟩, htier⟩
  · have hok' : checkObservationFor C s' e' m = .ok hdr :=
      ((hcheck e' he').resolve_right (fun h => h.2 htier)).1
    rw [virpVerifyObservationV2_of_check hok saved st]
    refine ⟨fun hr => ⟨htier, hr.1⟩, fun hr => ⟨hr.2, ?_⟩⟩
    exact virpVerifyObservationV2_again hok hok' saved'
      ((virpVerifyObservationV2_of_check hok saved st).mpr hr.2)
  · refine iff_of_false ?_ (fun hr => htier hr.1)
    rintro ⟨⟨r, hr⟩, -⟩
    rw [virpVerifyObservationV2, herr] at hr
    cases hr

namespace ObservationSample

/-- An active session. -/
def session : VirpSession :=
  { sessionInit (text "node") with
    state := .active
    sessionKeyValid := true
    sessionId := .fill 16 5 }

/-- The output of a command. -/
def args (tier : UInt8) : ObsArgs := ⟨7, 9, tier, 1, text "show version", none, text "up"⟩

def times : ObsTimes := ⟨1999, 2000⟩

def expected : ObsExpected := ⟨9, text "show version", none, 3000, 0⟩

def commandDigest : Bytes :=
  text "000ed199c85567b4592fdb330ba588887166a2eb9b93fe500b86698aa7913be6"

/-- The signed bytes of the observation. -/
def signed (tier : UInt8) : Bytes :=
  (ObsHeader.mk 2 1 tier 0 7 2000 1 (.fill 16 5) 9 (digestOfHex commandDigest) 2).bytes ++ text "up"

/-- The hash of the command, and the HMACs of the observation with tiers 1 and 255. -/
def crypto : Crypto := .known [(text "show version", commandDigest)]
  [((zeroDigest.bytes, signed 1),
      text "080d1cf8961ae4b2153ccecf6a41f6c8d42de485638bbc21864ef389826c3ebb"),
   ((zeroDigest.bytes, signed 255),
      text "ff737f74d1e3cf8b38093551740a7c468ef70825f60f3d07f3355889023875e9")]
  [] []

/-- The message. -/
def message (tier : UInt8) : Bytes :=
  ((buildObservationV2 crypto session times (args tier) 65536).2.toOption).getD []

/-- A full store whose marks are of another session, one of them with a tick of zero. -/
def worn : SeqState :=
  ⟨⟨(List.range 128).map (fun i => ⟨.fill 16 4, .ofNat i, 1, .ofNat i⟩), 0⟩, none⟩

end ObservationSample

section
open ObservationSample

/-- A green observation and an empty store. -/
theorem observationV2_replay_iff_green :
    (buildObservationV2 crypto session times (args 1) 65536).2 = .ok (message 1) ∧
    (∃ r, (virpVerifyObservationV2 crypto (buildObservationV2 crypto session times (args 1) 65536).1
      expected (message 1) true .empty).2 = .ok r) := by
  have hbuilt : (buildObservationV2 crypto session times (args 1) 65536).2 = .ok (message 1) := by
    decide +kernel
  have hfits : expected.Fits times (args 1) := ⟨rfl, rfl, rfl, by decide⟩
  have hiff := (observationV2_replay_iff crypto).1 session times (args 1) 65536 (message 1) hbuilt
    expected expected hfits hfits true true .empty
  exact ⟨hbuilt, (hiff.mpr ⟨by decide, ⟨_, rfl⟩, rfl⟩).1⟩

/-- An observation of tier BLACK is built and refused; and a refused observation takes a mark
out of a store in which one has a tick of zero. -/
theorem observationV2_black_refused :
    (buildObservationV2 crypto session times (args 255) 65536).2 = .ok (message 255) ∧
    (virpVerifyObservationV2 crypto (buildObservationV2 crypto session times (args 255) 65536).1
      expected (message 255) true .empty).2 = .error .tierViolation ∧
    (virpVerifyObservationV2 crypto (buildObservationV2 crypto session times (args 1) 65536).1
      expected (message 1) false worn).2 = .error .chainDb ∧
    (virpVerifyObservationV2 crypto (buildObservationV2 crypto session times (args 1) 65536).1
      expected (message 1) false worn).1.store.entries.length = 127 := by
  refine ⟨?_, ?_, ?_, ?_⟩ <;> decide +kernel

end

end Virp
