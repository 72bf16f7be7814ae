import Virp.MessageBuilders

/-! # The payload buffers

The builders of proposals and intents write into 65480 bytes.  A proposal may have 64 references
and 65535 bytes of data, and an intent any number of proofs: the parts are checked one by one, if
at all, and their sum only when all has been written.
-/
namespace Virp

open Wire List

variable {cap : Nat}

variable {out : Bytes}

theorem put_nil (h : out.length ≤ cap) : put cap [] out = .ok out := by
  rw [put, length_nil, Nat.add_zero, if_pos h, append_nil]

/-- A write and what follows it are one write, if what follows is one. -/
theorem put_bind {b c : Bytes} {f : Bytes → Except BuildFault Bytes}
    (hf : ∀ o, o.length ≤ cap → f o = put cap c o) :
    (put cap b out >>= f) = put cap (b ++ c) out := by
  by_cases hb : out.length + b.length ≤ cap
  · have hlen : (out ++ b).length ≤ cap := by rwa [length_append]
    rw [put, if_pos hb]
    show f (out ++ b) = _
    rw [hf _ hlen, put, put, length_append, length_append, append_assoc, Nat.add_assoc]
  · have hbc : ¬ out.length + (b ++ c).length ≤ cap := by
      rw [length_append]
      omega
    rw [put, put, if_neg hb, if_neg hbc]
    rfl

/-- A reference on the wire. -/
def ObsRef.bytes (r : ObsRef) : Bytes := be32 r.nodeId ++ be32 r.seqNum

theorem length_flatMap_bytes (refs : List ObsRef) :
    (refs.flatMap ObsRef.bytes).length = 8 * refs.length := by
  induction refs with
  | nil => rfl
  | cons r refs ih =>
    simp only [flatMap_cons, length_append, ih, ObsRef.bytes, length_be32, length_cons]
    omega

theorem putRefs_eq (refs : List ObsRef) (h : out.length ≤ cap) :
    putRefs cap refs out = put cap (refs.flatMap ObsRef.bytes) out := by
  induction refs generalizing out with
  | nil => exact (put_nil h).symm
  | cons r refs ih =>
    rw [putRefs, put_bind (fun o _ => put_bind (fun _ => ih)), flatMap_cons, ObsRef.bytes,
      append_assoc]

theorem putData_eq (data : DataArg) (h : out.length ≤ cap) :
    putData cap data out = put cap data.given out := by
  rw [putData, DataArg.given]
  cases hb : data.bytes with
  | none => exact (put_nil h).symm
  | some b =>
    simp only [Option.getD_some]
    split
    · rfl
    rename_i hzero
    have hlen := data.length_eq b hb
    have hnil : b = [] := by
      have := UInt16.le_iff_toNat_le.mp (UInt16.not_lt.mp hzero)
      exact length_eq_zero_iff.mp (by simpa [hlen] using this)
    rw [hnil, put_nil h]

/-- The payload that is written. -/
def evidenceBytes (id : UInt32) (kind second : UInt8) (third : UInt16) (refs : RefsArg)
    (data : DataArg) : Bytes :=
  be32 id ++ ([kind] ++ ([second] ++ (be16 third ++ (be32 refs.count ++
    (refs.refs.flatMap ObsRef.bytes ++ data.given)))))

theorem length_evidenceBytes (id : UInt32) (kind second : UInt8) (third : UInt16) (refs : RefsArg)
    (data : DataArg) : (evidenceBytes id kind second third refs data).length =
      12 + 8 * refs.refs.length + data.given.length := by
  simp only [evidenceBytes, length_append, length_be32, length_be16, length_singleton,
    length_flatMap_bytes]
  omega

/-- **The writes of a payload** end past the buffer exactly if the whole does. -/
theorem putEvidence_eq (id : UInt32) (kind second : UInt8) (third : UInt16) (refs : RefsArg)
    (data : DataArg) : putEvidence cap id kind second third refs data =
      if 12 + 8 * refs.refs.length + data.given.length ≤ cap then
        .ok (evidenceBytes id kind second third refs data)
      else .error .overrun := by
  have hput : putEvidence cap id kind second third refs data =
      put cap (evidenceBytes id kind second third refs data) [] :=
    put_bind fun _ _ => put_bind fun _ _ => put_bind fun _ _ => put_bind fun _ _ =>
      put_bind fun _ h => by
        rw [putRefs_eq _ h]
        exact put_bind fun _ => putData_eq data
  rw [hput, put, length_evidenceBytes, length_nil, Nat.zero_add]
  rfl

/-- A builder that signs what it has written goes past the buffer exactly if the writes do. -/
theorem bind_refused_ne_overrun {w : Except BuildFault Bytes} {f : Bytes → Except VirpError Bytes} :
    (w >>= fun payload => (f payload).mapError .refused) ≠ .error .overrun ↔
      w ≠ .error .overrun := by
  cases w with
  | error e => exact Iff.rfl
  | ok payload =>
    refine iff_of_true (fun h => ?_) nofun
    change (f payload).mapError BuildFault.refused = .error BuildFault.overrun at h
    cases hf : f payload with
    | error e => rw [hf] at h; cases h
    | ok m => rw [hf] at h; cases h

theorem putEvidence_ne_overrun {id : UInt32} {kind second : UInt8} {third : UInt16}
    {refs : RefsArg} {data : DataArg} :
    putEvidence cap id kind second third refs data ≠ .error .overrun ↔
      12 + 8 * refs.refs.length + data.given.length ≤ cap := by
  rw [putEvidence_eq]
  split_ifs with h
  · exact iff_of_true nofun h
  · exact iff_of_false (fun hne => hne rfl) h

/-- **When the writes stay in the buffer.**  A proposal with an accepted number of references,
and any intent, is written without leaving the payload buffer exactly if 12 bytes, 8 for each
reference and the data are 65480 at most. -/
theorem payload_writes_fit_iff (C : Crypto) (bufLen : Nat) (now : UInt64) (nodeId seqNum : UInt32)
    (sk : SigningKey) (id : UInt32) (kind priority : UInt8) (third : UInt16) (refs : RefsArg)
    (data : DataArg) :
    (refs.refs.length ≠ 0 → refs.refs.length ≤ 64 →
      (buildProposal C bufLen now nodeId seqNum id kind third refs data sk ≠ .error .overrun ↔
        12 + 8 * refs.refs.length + data.given.length ≤ 65480)) ∧
    (buildIntentAdvertise C bufLen now nodeId seqNum id kind priority third refs data sk ≠
        .error .overrun ↔
      12 + 8 * refs.refs.length + data.given.length ≤ 65480) := by
  constructor
  · intro hsome hmax
    rw [buildProposal, if_neg hsome, if_neg (Nat.not_lt.mpr hmax)]
    exact bind_refused_ne_overrun.trans putEvidence_ne_overrun
  · exact bind_refused_ne_overrun.trans putEvidence_ne_overrun

namespace MessageSample

/-- An R-Key. -/
def rkey : SigningKey := ⟨zeroDigest, true, .rkey, zeroDigest⟩

/-- The bytes a hex string spells. -/
def hex (s : String) : Bytes := (hexDecode (text s)).getD []

/-- HMACs under a key of zero bytes: of a heartbeat, an observation, a teardown and a proposal. -/
def macs : List (Bytes × Bytes) :=
  [(hex "0130004400000006010100000000002c00000000000003e800000e100101000f00000003",
     text "08f2f2a77d86e1cdc370131177ab7ce85234aff0e961283cbfaae3d99cc0d81d"),
   (hex "0101003c00000006010400000000002c00000000000003e807010000",
     text "ac44217959e69d231756e7f1bf1de88a498f739c7e161acd89cf8da960503466"),
   (hex "01f0003d00000006030100000000002c00000000000003e80003627965",
     text "77adff9f422e3f209f16e7f8cee508fe3d9b6f4568b89916847a83a4528b918e"),
   (hex ("0110004c00000006020200000000002c00000000000003e8" ++
      "000003e906010003000000010000000700000001"),
     text "991f7002d579292d45f10f816985c189b28c7ae321c9eece9594f002c1dbd234")]

def crypto : Crypto := .known [] (macs.map (fun (t, d) => ((zeroDigest.bytes, t), d))) [] []

/-- References to one observation. -/
def refs (n : Nat) (h : n < 2 ^ 32) : RefsArg :=
  ⟨List.replicate n ⟨7, 1⟩, by rwa [List.length_replicate]⟩

/-- Zero bytes. -/
def data (n : UInt16) : DataArg :=
  ⟨some (List.replicate n.toNat 0), n, by
    rintro b ⟨⟩
    exact List.length_replicate⟩

theorem length_refs (n : Nat) (h : n < 2 ^ 32) : (refs n h).refs.length = n := length_replicate

theorem length_given_data (n : UInt16) : (data n).given.length = n.toNat := length_replicate

end MessageSample

section
open MessageSample

/-- A proposal of one reference and 65460 bytes of data. -/
theorem payload_writes_fit_iff_one :
    (refs 1 (by decide)).refs.length = 1 ∧
    buildProposal crypto 65536 1000 7 1 1001 6 3 (refs 1 (by decide)) (data 65460) rkey ≠
      .error .overrun := by
  have h := payload_writes_fit_iff crypto 65536 1000 7 1 rkey 1001 6 0 3 (refs 1 (by decide))
    (data 65460)
  refine ⟨rfl, (h.1 (by decide) (by decide)).mpr ?_⟩
  rw [length_refs, length_given_data]
  decide

/-- With 64 references 65000 bytes of data are too many, and 8184 proofs are too many without
any data. -/
theorem payload_writes_overrun :
    buildProposal crypto 65536 1000 7 1 1001 6 3 (refs 64 (by decide)) (data 65000) rkey =
      .error .overrun ∧
    buildIntentAdvertise crypto 65536 1000 7 1 1001 1 0 60 (refs 8184 (by decide)) (data 0) rkey =
      .error .overrun := by
  constructor
  · rw [buildProposal, if_neg (by decide), if_neg (by decide), putEvidence_eq, length_refs,
      length_given_data, if_neg (by decide)]
    rfl
  · rw [buildIntentAdvertise, putEvidence_eq, length_refs, length_given_data, if_neg (by decide)]
    rfl

end

end Virp
