import Virp.MessageBuffers

/-! # What is built is accepted and read back

The builders take more than the validator accepts and the parsers return.  The tier of an
observation is compared with BLACK only, and the channel of a teardown not at all; a proposal
drops data with a null pointer, and its parser hands out the references in the byte order of the
wire.  On all other arguments a message is accepted and its fields come back.
-/
namespace Virp

open Wire List

variable (C : Crypto)

/-- The message is accepted, with these header fields. -/
def AcceptedAs (m : Bytes) (sk : SigningKey) (type channel tier : UInt8) (nodeId seqNum : UInt32) :
    Prop :=
  ∃ hdr, validateMessage C m sk = .ok hdr ∧ hdr.type = type ∧ hdr.channel = channel ∧
    hdr.tier = tier ∧ hdr.nodeId = nodeId ∧ hdr.seqNum = seqNum

theorem headerValidate_eq_ok_iff {h : Header} : headerValidate h = .ok () ↔
    h.version = 1 ∧ h.type ∈ [msgObservation, msgHello, msgProposal, msgApproval, msgIntentAdv,
      msgIntentWd, msgHeartbeat, msgTeardown] ∧ (h.channel = channelOc ∨ h.channel = channelIc) ∧
    h.tier ≤ tierRed ∧ h.reserved = 0 ∧ 56 ≤ h.length.toNat := by
  simp only [headerValidate, guard_ok, not_not, Decidable.not_and_iff_not_or_not, Nat.not_lt,
    and_true]
  rw [← tier_le_red_iff]
  tauto

variable {channel type tier : UInt8} {bufLen : Nat} {nodeId seqNum : UInt32} {now : UInt64}
  {sk : SigningKey}

/-- The types that have a channel are the valid ones. -/
theorem valid_of_checkChannelType (h : checkChannelType channel type = .ok ()) :
    type ∈ [msgObservation, msgHello, msgProposal, msgApproval, msgIntentAdv, msgIntentWd,
      msgHeartbeat, msgTeardown] := by
  simp only [checkChannelType, mem_cons, not_mem_nil, or_false] at h ⊢
  split_ifs at h <;> tauto

/-- **When a built message is accepted**: its type is on its channel, and its tier is one. -/
theorem acceptedAs_iff {payload m : Bytes}
    (h : buildAndSign C bufLen type channel tier nodeId seqNum now payload sk = .ok m) :
    AcceptedAs C m sk type channel tier nodeId seqNum ↔
      (channel = channelOc ∨ channel = channelIc) ∧ tier ≤ tierRed ∧
        checkChannelType channel type = .ok () := by
  obtain ⟨⟨hfit, -⟩, -⟩ := (buildAndSign_eq_ok_iff C).mp h
  have hlen : 56 ≤ (UInt16.ofNat (56 + payload.length)).toNat := by
    rw [UInt16.toNat_ofNat_of_lt' (by rw [UInt16.size]; omega)]
    omega
  rw [AcceptedAs, (validateMessage_built C h).2]
  constructor
  · rintro ⟨hdr, hok, -⟩
    obtain ⟨_, hvalid, hok⟩ := bind_ok.mp hok
    obtain ⟨_, htype, -⟩ := bind_ok.mp hok
    obtain ⟨-, -, hchannel, htier, -⟩ := headerValidate_eq_ok_iff.mp hvalid
    exact ⟨hchannel, htier, htype⟩
  · rintro ⟨hchannel, htier, htype⟩
    have hvalid : headerValidate (sentHeader C type channel tier nodeId seqNum now payload sk) =
        .ok () := headerValidate_eq_ok_iff.mpr
        ⟨rfl, valid_of_checkChannelType htype, hchannel, htier, rfl, hlen⟩
    rw [hvalid, htype]
    exact ⟨_, rfl, rfl, rfl, rfl, rfl, rfl⟩

variable (order : ByteOrder) (r : ObsRef)

/-- A reference as the host reads it where it stands in the message. -/
def ByteOrder.read : ObsRef :=
  ⟨order.u32 (be32 r.nodeId), order.u32 (be32 r.seqNum)⟩

/-- The bytes of both numbers are the same from either end. -/
def ObsRef.Palindrome : Prop :=
  (be32 r.nodeId).reverse = be32 r.nodeId ∧ (be32 r.seqNum).reverse = be32 r.seqNum

theorem little_u32_eq_iff (x : UInt32) :
    ByteOrder.little.u32 (be32 x) = x ↔ (be32 x).reverse = be32 x := by
  have hlt : leValue (be32 x) < 2 ^ 32 := by
    have := beValue_lt (be32 x).reverse
    rwa [length_reverse, length_be32] at this
  rw [← UInt32.toNat_inj, ByteOrder.u32, UInt32.toNat_ofNat_of_lt' hlt]
  exact leValue_be_eq_iff x.toNat_lt

theorem ByteOrder.read_eq_iff : order.read r = r ↔ order = .big ∨ r.Palindrome := by
  cases order with
  | big => simp [read, u32]
  | little =>
    obtain ⟨nodeId, seqNum⟩ := r
    simp only [read, ObsRef.mk.injEq, little_u32_eq_iff, ObsRef.Palindrome, reduceCtorEq, false_or]

/-- The references of a payload, read one after the other. -/
theorem map_range_refs (front rest : Bytes) (refs : List ObsRef) :
    (List.range refs.length).map (fun i => (⟨
        order.u32 (slice (front.length + 8 * i) 4 (front ++ (refs.flatMap ObsRef.bytes ++ rest))),
        order.u32 (slice (front.length + 4 + 8 * i) 4
          (front ++ (refs.flatMap ObsRef.bytes ++ rest)))⟩ : ObsRef)) = refs.map order.read := by
  induction refs generalizing front with
  | nil => rfl
  | cons r refs ih =>
    have hfront : (front ++ r.bytes).length = front.length + 8 := by
      simp [ObsRef.bytes]
    have hmsg : front ++ ((r :: refs).flatMap ObsRef.bytes ++ rest) =
        front ++ r.bytes ++ (refs.flatMap ObsRef.bytes ++ rest) := by
      simp
    have hhere : order.read r = ⟨order.u32 (slice front.length 4
          (front ++ ((r :: refs).flatMap ObsRef.bytes ++ rest))),
        order.u32 (slice (front.length + 4) 4
          (front ++ ((r :: refs).flatMap ObsRef.bytes ++ rest)))⟩ := by
      simp [ByteOrder.read, ObsRef.bytes, slice_append, slice_zero]
    have hindex (i : Nat) : front.length + 8 * (i + 1) = front.length + 8 + 8 * i ∧
        front.length + 4 + 8 * (i + 1) = front.length + 8 + 4 + 8 * i := by
      omega
    rw [length_cons, range_succ_eq_map, map_cons, map_map, map_cons,
      ← ih (front ++ r.bytes), hhere, hfront, ← hmsg]
    refine congrArg₂ List.cons rfl (map_congr_left fun i _ => ?_)
    simp only [Function.comp_apply, Nat.succ_eq_add_one, hindex i]

theorem parseObservation_built (obsType obsScope : UInt8) {data : DataArg}
    (hlen : data.given.length = data.len.toNat) :
    parseObservation ([obsType] ++ ([obsScope] ++ (be16 data.len ++ data.given))) =
      .ok (⟨obsType, obsScope, data.len⟩, if 0 < data.len then some data.given else none,
        data.len) := by
  have hhead : u16At 2 ([obsType] ++ ([obsScope] ++ (be16 data.len ++ data.given))) = data.len := by
    simp [u16At, slice_zero]
  have hdata : slice 4 data.len.toNat ([obsType] ++ ([obsScope] ++ (be16 data.len ++ data.given))) =
      data.given := by
    simp [slice_append, slice_self hlen]
  have hsize : ([obsType] ++ ([obsScope] ++ (be16 data.len ++ data.given))).length =
      4 + data.len.toNat := by
    simp only [length_append, length_singleton, length_be16, hlen]
    omega
  rw [parseObservation, hsize, if_neg (by omega)]
  simp only [hhead, hdata]
  rw [if_neg (by omega)]
  simp [byteAt]

theorem toNat_count (refs : RefsArg) : refs.count.toNat = refs.refs.length :=
  UInt32.toNat_ofNat_of_lt' refs.length_lt

theorem parseProposal_built (id : UInt32) (kind : UInt8) (third : UInt16) {refs : RefsArg}
    {data : DataArg} (hsome : refs.refs.length ≠ 0) (hmax : refs.refs.length ≤ 64)
    (hfit : data.given.length < 65536) :
    parseProposal order (evidenceBytes id kind 0x01 third refs data) =
      .ok (⟨id, kind, 0x01, third, refs.count⟩, refs.refs.map order.read,
        if data.given = [] then none else some data.given, .ofNat data.given.length) := by
  set m := evidenceBytes id kind 0x01 third refs data with hm
  obtain ⟨front, hfront, hpayload⟩ : ∃ front : Bytes, front.length = 12 ∧
      m = front ++ (refs.refs.flatMap ObsRef.bytes ++ data.given) :=
    ⟨be32 id ++ ([kind] ++ ([0x01] ++ (be16 third ++ be32 refs.count))), by simp,
      by simp [hm, evidenceBytes]⟩
  have hcount : u32At 8 m = refs.count := by
    simp [hm, evidenceBytes, u32At, slice_append, slice_zero]
  have hhead : (⟨u32At 0 m, byteAt 4 m, byteAt 5 m, u16At 6 m, refs.count⟩ : ProposalHead) =
      ⟨id, kind, 0x01, third, refs.count⟩ := by
    simp [hm, evidenceBytes, u32At, byteAt, u16At, slice_append, slice_zero]
  have hrefs : (List.range refs.refs.length).map (fun i =>
      (⟨order.u32 (slice (12 + 8 * i) 4 m), order.u32 (slice (16 + 8 * i) 4 m)⟩ : ObsRef)) =
        refs.refs.map order.read := by
    have h := map_range_refs order front data.given refs.refs
    rwa [hfront, ← hpayload] at h
  have hdata : slice (12 + 8 * refs.refs.length) data.given.length m = data.given := by
    rw [hpayload, slice_append (by omega), hfront, slice_append (by rw [length_flatMap_bytes]; omega),
      length_flatMap_bytes, Nat.add_sub_cancel_left, Nat.sub_self, slice_self rfl]
  have hlen : m.length = _ := length_evidenceBytes id kind 0x01 third refs data
  have hmore : 12 + 8 * refs.refs.length < 12 + 8 * refs.refs.length + data.given.length ↔
      ¬ data.given = [] := by
    rw [← length_eq_zero_iff]
    omega
  rw [parseProposal]
  simp only [hcount, hhead, toNat_count, hrefs, hlen]
  rw [if_neg (by omega), if_neg hsome, if_neg (Nat.not_lt.mpr hmax), if_neg (by omega)]
  simp only [hmore, Nat.add_sub_cancel_left]
  by_cases hnil : data.given = []
  · simp [hnil]
  · have hsize : (UInt16.ofNat data.given.length).toNat = data.given.length :=
      UInt16.toNat_ofNat_of_lt' hfit
    simp only [hnil, not_false_eq_true, if_true, if_false, hsize, hdata]

theorem parseApproval_built (proposalId approverNodeId : UInt32)
    (approvalType approverClass : UInt8) :
    parseApproval (be32 proposalId ++ (be32 approverNodeId ++ [approvalType, approverClass, 0, 0])) =
      .ok ⟨proposalId, approverNodeId, approvalType, approverClass⟩ := by
  simp [parseApproval, u32At, byteAt, slice_append, slice_zero]

theorem parseHeartbeat_built (uptimeSeconds : UInt32) (onodeOk rnodeOk : UInt8)
    (activeObservations : UInt16) (activeProposals : UInt32) :
    parseHeartbeat (be32 uptimeSeconds ++ ([onodeOk, rnodeOk] ++
        (be16 activeObservations ++ be32 activeProposals))) =
      .ok ⟨uptimeSeconds, onodeOk, rnodeOk, activeObservations, activeProposals⟩ := by
  simp [parseHeartbeat, u32At, u16At, byteAt, slice_append, slice_zero, slice_self]

theorem parseHello_built (magic nodeId : UInt32) (nodeType maxTier : UInt8) (okey rkey : Digest) :
    parseHello (be32 magic ++ ([1, nodeType, maxTier, 0] ++ (be32 nodeId ++
        (okey.bytes ++ rkey.bytes)))) =
      .ok ⟨magic, 1, nodeType, maxTier, 0, nodeId, okey, rkey⟩ := by
  have hokey : digestAt 12 (be32 magic ++ ([1, nodeType, maxTier, 0] ++ (be32 nodeId ++
      (okey.bytes ++ rkey.bytes)))) = okey := by
    apply digestAt_eq
    simp [slice_append, slice_zero okey.length_eq]
  have hrkey : digestAt 44 (be32 magic ++ ([1, nodeType, maxTier, 0] ++ (be32 nodeId ++
      (okey.bytes ++ rkey.bytes)))) = rkey := by
    apply digestAt_eq
    simp [slice_append, okey.length_eq, slice_self rkey.length_eq]
  rw [parseHello, hokey, hrkey, if_neg (by simp [okey.length_eq, rkey.length_eq])]
  simp [u32At, byteAt, slice_append, slice_zero]

/-! ## The round trip -/

/-- A call of a builder. -/
inductive BuildCall where
  | observation (obsType obsScope : UInt8) (data : DataArg) (sk : SigningKey)
  | observationTiered (obsType obsScope tier : UInt8) (data : DataArg) (sk : SigningKey)
  | proposal (proposalId : UInt32) (propType : UInt8) (blastRadius : UInt16) (refs : RefsArg)
      (data : DataArg) (sk : SigningKey)
  | approval (proposalId approverNodeId : UInt32) (approvalType approverClass : UInt8)
      (sk : SigningKey)
  | intentAdvertise (intentId : UInt32) (intentType priority : UInt8) (ttlSeconds : UInt16)
      (proofs : RefsArg) (data : DataArg) (sk : SigningKey)
  | intentWithdraw (intentId : UInt32) (sk : SigningKey)
  | heartbeat (uptimeSeconds : UInt32) (onodeOk rnodeOk : Bool) (activeObservations : UInt16)
      (activeProposals : UInt32) (sk : SigningKey)
  | hello (nodeType maxTier : UInt8) (okey : SigningKey) (rkey : Option SigningKey)
  | teardown (channel : UInt8) (reason : Option Bytes) (sk : SigningKey)

namespace BuildCall

/-- What the builder does. -/
def build (bufLen : Nat) (now : UInt64) (nodeId seqNum : UInt32) :
    BuildCall → Except BuildFault Bytes
  | observation obsType obsScope data sk =>
    (buildObservation C bufLen now nodeId seqNum obsType obsScope data sk).mapError .refused
  | observationTiered obsType obsScope tier data sk =>
    (buildObservationTiered C bufLen now nodeId seqNum obsType obsScope tier data sk).mapError
      .refused
  | proposal proposalId propType blastRadius refs data sk =>
    buildProposal C bufLen now nodeId seqNum proposalId propType blastRadius refs data sk
  | approval proposalId approverNodeId approvalType approverClass sk =>
    (buildApproval C bufLen now nodeId seqNum proposalId approverNodeId approvalType approverClass
      sk).mapError .refused
  | intentAdvertise intentId intentType priority ttlSeconds proofs data sk =>
    buildIntentAdvertise C bufLen now nodeId seqNum intentId intentType priority ttlSeconds proofs
      data sk
  | intentWithdraw intentId sk =>
    (buildIntentWithdraw C bufLen now nodeId seqNum intentId sk).mapError .refused
  | heartbeat uptimeSeconds onodeOk rnodeOk activeObservations activeProposals sk =>
    (buildHeartbeat C bufLen now nodeId seqNum uptimeSeconds onodeOk rnodeOk activeObservations
      activeProposals sk).mapError .refused
  | hello nodeType maxTier okey rkey =>
    (buildHello C bufLen now nodeId seqNum nodeType maxTier okey rkey).mapError .refused
  | teardown channel reason sk =>
    (buildTeardown C bufLen now nodeId seqNum channel reason sk).mapError .refused

/-- The key a message is signed with. -/
def key : BuildCall → SigningKey
  | observation _ _ _ sk | observationTiered _ _ _ _ sk | proposal _ _ _ _ _ sk
  | approval _ _ _ _ sk | intentAdvertise _ _ _ _ _ _ sk | intentWithdraw _ sk
  | heartbeat _ _ _ _ _ sk | hello _ _ sk _ | teardown _ _ sk => sk

/-- The type, channel and tier in the header. -/
def head : BuildCall → UInt8 × UInt8 × UInt8
  | observation .. => (msgObservation, channelOc, tierGreen)
  | observationTiered _ _ tier _ _ => (msgObservation, channelOc, tier)
  | proposal .. => (msgProposal, channelIc, tierYellow)
  | approval .. => (msgApproval, channelIc, tierYellow)
  | intentAdvertise .. => (msgIntentAdv, channelIc, tierYellow)
  | intentWithdraw .. => (msgIntentWd, channelIc, tierYellow)
  | heartbeat .. => (msgHeartbeat, channelOc, tierGreen)
  | hello .. => (msgHello, channelOc, tierGreen)
  | teardown channel _ _ => (msgTeardown, channel, tierGreen)

/-- The parser of the message returns the fields that were given; intents and teardowns have no
parser. -/
def ReadBack (nodeId : UInt32) (payload : Bytes) : BuildCall → Prop
  | observation obsType obsScope data _ | observationTiered obsType obsScope _ data _ =>
    ∃ bytes, parseObservation payload = .ok (⟨obsType, obsScope, data.len⟩, bytes, data.len) ∧
      bytes.getD [] = data.given
  | proposal proposalId propType blastRadius refs data _ =>
    ∃ bytes, parseProposal order payload = .ok (⟨proposalId, propType, 0x01, blastRadius,
      refs.count⟩, refs.refs, bytes, data.len) ∧ bytes.getD [] = data.given
  | approval proposalId approverNodeId approvalType approverClass _ =>
    parseApproval payload = .ok ⟨proposalId, approverNodeId, approvalType, approverClass⟩
  | heartbeat uptimeSeconds onodeOk rnodeOk activeObservations activeProposals _ =>
    parseHeartbeat payload = .ok ⟨uptimeSeconds, if onodeOk then 1 else 0,
      if rnodeOk then 1 else 0, activeObservations, activeProposals⟩
  | hello nodeType maxTier okey rkey =>
    parseHello payload = .ok ⟨0x56495250, 1, nodeType, maxTier, 0, nodeId, okey.fingerprint,
      rkeyFingerprint rkey⟩
  | intentAdvertise .. | intentWithdraw .. | teardown .. => True

/-- The message is accepted under the key it was signed with, and read back. -/
def RoundTrips (nodeId seqNum : UInt32) (m : Bytes) (call : BuildCall) : Prop :=
  AcceptedAs C m call.key call.head.1 call.head.2.1 call.head.2.2 nodeId seqNum ∧
    call.ReadBack order nodeId (m.drop 56)

/-- The arguments a message survives with. -/
def Transmittable : BuildCall → Prop
  | observationTiered _ _ tier _ _ => tier ≤ tierRed
  | proposal _ _ _ refs data _ =>
    (order = .big ∨ ∀ r ∈ refs.refs, r.Palindrome) ∧ (data.bytes = none → data.len = 0)
  | teardown channel _ _ => channel = channelOc ∨ channel = channelIc
  | _ => True

end BuildCall

theorem mapError_ok {ε ε' α : Type} {f : ε → ε'} {x : Except ε α} {a : α} :
    x.mapError f = .ok a ↔ x = .ok a := by
  cases x with
  | error e => exact iff_of_false nofun nofun
  | ok b => simp only [Except.mapError, Except.ok.injEq]

/-- The type is on its channel, and the tier is one. -/
def ValidHead (head : UInt8 × UInt8 × UInt8) : Prop :=
  (head.2.1 = channelOc ∨ head.2.1 = channelIc) ∧ head.2.2 ≤ tierRed ∧
    checkChannelType head.2.1 head.1 = .ok ()
deriving Decidable

/-- A built message, by its header and its payload. -/
theorem roundTrips_built {call : BuildCall} {payload m : Bytes}
    (h : buildAndSign C bufLen type channel tier nodeId seqNum now payload sk = .ok m)
    (hhead : call.head = (type, channel, tier)) (hkey : call.key = sk) :
    call.RoundTrips C order nodeId seqNum m ↔
      ValidHead (type, channel, tier) ∧ call.ReadBack order nodeId payload := by
  rw [BuildCall.RoundTrips, hhead, hkey, acceptedAs_iff C h, (validateMessage_built C h).1]
  rfl

/-- Data that is there has its length. -/
theorem DataArg.length_given {data : DataArg} (h : data.bytes = none → data.len = 0) :
    data.given.length = data.len.toNat := by
  rw [given]
  cases hb : data.bytes with
  | none => rw [h hb]; rfl
  | some b => exact data.length_eq b hb

theorem readBack_observation (nodeId : UInt32) (obsType obsScope : UInt8) {data : DataArg}
    (sk : SigningKey) (h : data.bytes = none → data.len = 0) :
    (BuildCall.observation obsType obsScope data sk).ReadBack order nodeId
      ([obsType] ++ ([obsScope] ++ (be16 data.len ++ data.given))) := by
  have hlen := data.length_given h
  refine ⟨_, parseObservation_built obsType obsScope hlen, ?_⟩
  split
  · rfl
  · rename_i hzero
    have := UInt16.le_iff_toNat_le.mp (UInt16.not_lt.mp hzero)
    exact (length_eq_zero_iff.mp (by simpa [hlen] using this)).symm

theorem buildObservationTiered_ok {C : Crypto} {obsType obsScope : UInt8} {data : DataArg}
    {m : Bytes}
    (h : buildObservationTiered C bufLen now nodeId seqNum obsType obsScope tier data sk = .ok m) :
    (data.bytes = none → data.len = 0) ∧
      buildAndSign C bufLen msgObservation channelOc tier nodeId seqNum now
        ([obsType] ++ ([obsScope] ++ (be16 data.len ++ data.given))) sk = .ok m := by
  obtain ⟨-, h⟩ := guard_ok.mp h
  obtain ⟨hnull, h⟩ := guard_ok.mp h
  exact ⟨fun hnone => not_not.mp (fun hlen => hnull ⟨hlen, hnone⟩), h⟩

/-- What a proposal is read back as. -/
theorem readBack_proposal_iff (nodeId proposalId : UInt32) (kind : UInt8) (third : UInt16)
    {refs : RefsArg} {data : DataArg} (sk : SigningKey) (hsome : refs.refs.length ≠ 0)
    (hmax : refs.refs.length ≤ 64) (hfit : data.given.length < 65536) :
    (BuildCall.proposal proposalId kind third refs data sk).ReadBack order nodeId
        (evidenceBytes proposalId kind 0x01 third refs data) ↔
      (BuildCall.proposal proposalId kind third refs data sk).Transmittable order := by
  have hparse := parseProposal_built order proposalId kind third hsome hmax hfit
  have hrefs : refs.refs.map order.read = refs.refs ↔
      (order = .big ∨ ∀ r ∈ refs.refs, r.Palindrome) := by
    have hself : refs.refs.map order.read = refs.refs ↔ ∀ r ∈ refs.refs, order.read r = r := by
      have h := map_inj_left (f := order.read) (g := id) (l := refs.refs)
      rwa [map_id] at h
    simp only [hself, order.read_eq_iff]
    exact ⟨fun h => (em (order = .big)).imp id (fun hne r hr => (h r hr).resolve_left hne),
      fun h r hr => h.imp id (fun hall => hall r hr)⟩
  have hdata : UInt16.ofNat data.given.length = data.len ↔ (data.bytes = none → data.len = 0) := by
    refine ⟨fun h hnone => ?_, fun h => ?_⟩
    · rw [← h, DataArg.given, hnone]
      rfl
    · rw [data.length_given h, UInt16.ofNat_toNat]
  have hbytes : (if data.given = [] then none else some data.given).getD [] = data.given := by
    split
    · rename_i hnil
      exact hnil.symm
    · rfl
  simp only [BuildCall.ReadBack, hparse, Except.ok.injEq, Prod.mk.injEq, true_and]
  constructor
  · rintro ⟨bytes, ⟨hr, -, hd⟩, -⟩
    exact ⟨hrefs.mp hr, hdata.mp hd⟩
  · rintro ⟨hr, hd⟩
    exact ⟨_, ⟨hrefs.mpr hr, rfl, hdata.mpr hd⟩, hbytes⟩

/-- **The round trip.**  A message that was built is accepted under the same key, and its fields
are read back, exactly if the tier of an observation is not above RED, the channel of a teardown
is one of the two, and the data of a proposal is there and its references look the same in the
byte order of the host. -/
theorem roundTrips_iff {bufLen : Nat} {now : UInt64} {nodeId seqNum : UInt32} {call : BuildCall}
    {m : Bytes} (h : call.build C bufLen now nodeId seqNum = .ok m) :
    call.RoundTrips C order nodeId seqNum m ↔ call.Transmittable order := by
  cases call with
  | observation obsType obsScope data sk =>
    obtain ⟨hnull, hb⟩ := buildObservationTiered_ok (mapError_ok.mp h)
    refine (roundTrips_built C order hb rfl rfl).trans ?_
    exact iff_of_true ⟨by decide, readBack_observation order nodeId obsType obsScope sk hnull⟩ trivial
  | observationTiered obsType obsScope tier data sk =>
    obtain ⟨hnull, hb⟩ := buildObservationTiered_ok (mapError_ok.mp h)
    refine (roundTrips_built C order hb rfl rfl).trans ?_
    exact ⟨fun hr => hr.1.2.1, fun htier => ⟨⟨.inl rfl, htier, rfl⟩,
      readBack_observation order nodeId obsType obsScope sk hnull⟩⟩
  | proposal id kind third refs data sk =>
    obtain ⟨hsome, h⟩ := guard_ok.mp h
    obtain ⟨hmax, h⟩ := guard_ok.mp h
    obtain ⟨payload, hput, hb⟩ := bind_ok.mp h
    rw [putEvidence_eq] at hput
    split at hput
    · rename_i hfit
      cases hput
      refine (roundTrips_built C order (mapError_ok.mp hb) rfl rfl).trans ?_
      have hroom : data.given.length < 65536 := by
        simp only [maxPayloadSize, maxMessageSize] at hfit
        omega
      rw [readBack_proposal_iff order nodeId id kind third sk hsome (Nat.not_lt.mp hmax) hroom]
      exact and_iff_right (by decide)
    · cases hput
  | approval proposalId approverNodeId approvalType approverClass sk =>
    refine (roundTrips_built C order (mapError_ok.mp h) rfl rfl).trans ?_
    exact iff_of_true ⟨by decide, parseApproval_built ..⟩ trivial
  | intentAdvertise id kind priority third proofs data sk =>
    obtain ⟨payload, -, hb⟩ := bind_ok.mp h
    refine (roundTrips_built C order (mapError_ok.mp hb) rfl rfl).trans ?_
    exact iff_of_true ⟨by decide, trivial⟩ trivial
  | intentWithdraw id sk =>
    refine (roundTrips_built C order (mapError_ok.mp h) rfl rfl).trans ?_
    exact iff_of_true ⟨by decide, trivial⟩ trivial
  | heartbeat uptime onodeOk rnodeOk observations proposals sk =>
    refine (roundTrips_built C order (mapError_ok.mp h) rfl rfl).trans ?_
    exact iff_of_true ⟨by decide, parseHeartbeat_built ..⟩ trivial
  | hello nodeType maxTier okey rkey =>
    refine (roundTrips_built C order (mapError_ok.mp h) rfl rfl).trans ?_
    exact iff_of_true ⟨by decide, parseHello_built ..⟩ trivial
  | teardown channel reason sk =>
    refine (roundTrips_built C order (mapError_ok.mp h) rfl rfl).trans ?_
    have htier : tierGreen ≤ tierRed := by decide
    exact ⟨fun hr => hr.1.1, fun hchannel => ⟨⟨hchannel, htier, rfl⟩, trivial⟩⟩

section
open MessageSample

/-- An O-Key. -/
def MessageSample.okey : SigningKey := ⟨zeroDigest, true, .okey, zeroDigest⟩

/-- A heartbeat. -/
theorem roundTrips_iff_heartbeat :
    ((BuildCall.heartbeat 3600 true true 15 3 okey).build crypto 256 1000 6 44).toBool = true ∧
    ∀ m, (BuildCall.heartbeat 3600 true true 15 3 okey).build crypto 256 1000 6 44 = .ok m →
      (BuildCall.heartbeat 3600 true true 15 3 okey).RoundTrips crypto .little 6 44 m :=
  ⟨by decide +kernel, fun _ h => (roundTrips_iff crypto .little h).mpr trivial⟩

/-- An observation of tier 4 and a teardown on channel 3 are built and not accepted; the
reference of a proposal to node 7 and observation 1 comes back as another one; and four bytes of
data at a null pointer come back as none. -/
theorem built_not_read_back :
    ((BuildCall.observationTiered 7 1 4 (data 0) okey).build crypto 65536 1000 6 44).toOption.map
      (validateMessage crypto · okey) = some (.error .invalidTier) ∧
    ((BuildCall.teardown 3 (some (text "bye")) okey).build crypto 65536 1000 6 44).toOption.map
      (validateMessage crypto · okey) = some (.error .invalidChannel) ∧
    ((BuildCall.proposal 1001 6 3 (refs 1 (by decide)) (data 0) rkey).build crypto 65536 1000 6
      44).toOption.bind (fun m => (parseProposal .little (m.drop 56)).toOption) =
        some (⟨1001, 6, 1, 3, 1⟩, [⟨0x07000000, 0x01000000⟩], none, 0) ∧
    ((BuildCall.proposal 1001 6 3 (refs 1 (by decide)) ⟨none, 4, nofun⟩ rkey).build crypto 65536
      1000 6 44).toOption.bind (fun m => (parseProposal .big (m.drop 56)).toOption) =
        some (⟨1001, 6, 1, 3, 1⟩, [⟨7, 1⟩], none, 0) := by
  refine ⟨?_, ?_, ?_, ?_⟩ <;> decide +kernel

end

end Virp
