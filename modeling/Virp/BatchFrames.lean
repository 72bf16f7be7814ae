import Virp.MessageBuffers

/-! # The answer to a batch

The results of a batch are sent as one frame: their number, and each result behind its length.  A
result with an error is sent as the number of the error, whatever bytes came with it, and so is one
without a response.  The buffer is allocated before anything is written to it, and counts the bytes
by another rule.
-/
namespace Virp

open Wire List

/-- `err`, `resp_buf` and `resp_len` of a `batch_thread_arg_t`; without an error it is
`VIRP_OK`.  The response is in a buffer of the size of a message. -/
structure BatchResult where
  err : Option VirpError
  resp : Bytes
  resp_le : resp.length ≤ maxMessageSize

/-- The results of a batch, with `cmd_count` an `int`. -/
structure BatchResults where
  results : List BatchResult
  length_lt : results.length < 2 ^ 31

/-- `(uint32_t)err`. -/
def errorNumber (err : Option VirpError) : UInt32 := .ofInt ((err.map VirpError.code).getD 0)

/-- The loop that adds up `batch_cap`. -/
def batchCap (results : List BatchResult) : Nat :=
  results.foldl (fun cap r => cap + (4 + if r.err = none then r.resp.length else 4)) 4

/-- The body of the loop that writes the results. -/
def putResult (cap : Nat) (r : BatchResult) (out : Bytes) : Except BuildFault Bytes :=
  if r.err = none ∧ 0 < r.resp.length then do
    let out ← put cap (be32 (.ofNat r.resp.length)) out
    put cap r.resp out
  else do
    let out ← put cap (be32 4) out
    put cap (be32 (errorNumber r.err)) out

def putResults (cap : Nat) : List BatchResult → Bytes → Except BuildFault Bytes
  | [], out => .ok out
  | r :: rs, out => do
    let out ← putResult cap r out
    putResults cap rs out

variable (b : BatchResults)

/-- The frame of `ONODE_ACTION_BATCH_EXECUTE`, as it is handed to `send_framed`. -/
def batchFrame : Except BuildFault Bytes := do
  let cap := batchCap b.results
  let out ← put cap (be32 (.ofNat b.results.length)) []
  putResults cap b.results out

/-! ## What is written -/

variable (r : BatchResult)

/-- What a reader of the frame gets for a result: the response of one without an error, and the
number of the error of any other, whatever bytes came with it. -/
def BatchResult.reply : Bytes :=
  match r.err with
  | none => r.resp
  | some err => be32 (errorNumber (some err))

/-- The result has an error or a response. -/
def BatchResult.Speaks : Prop := r.err = none → r.resp ≠ []

instance : Decidable r.Speaks := inferInstanceAs (Decidable (_ → _))

theorem BatchResult.length_reply : r.reply.length = if r.err = none then r.resp.length else 4 := by
  unfold BatchResult.reply
  cases r.err with
  | none => rw [if_pos rfl]
  | some err => rw [length_be32, if_neg (by simp)]

section
variable {cap : Nat} {r}

/-- The body of the loop, for a result that speaks. -/
theorem putResult_eq (hr : r.Speaks) (out : Bytes) :
    putResult cap r out = put cap (sized r.reply) out := by
  unfold putResult BatchResult.reply sized
  cases herr : r.err with
  | none =>
    have hlen : be32 (.ofNat r.resp.length) = be 4 r.resp.length := by
      have hle : r.resp.length ≤ 65536 := r.resp_le
      rw [be32, UInt32.toNat_ofNat', Nat.mod_eq_of_lt (by omega)]
    rw [if_pos ⟨rfl, length_pos_iff.mpr (hr herr)⟩, put_bind (fun _ _ => rfl), hlen]
  | some err =>
    rw [if_neg (by simp), put_bind (fun _ _ => rfl), length_be32]
    rfl

theorem putResults_eq {rs : List BatchResult} (hrs : ∀ r ∈ rs, r.Speaks) {out : Bytes}
    (h : out.length ≤ cap) :
    putResults cap rs out = put cap ((rs.map BatchResult.reply).flatMap sized) out := by
  induction rs generalizing out with
  | nil => exact (put_nil h).symm
  | cons r rs ih =>
    obtain ⟨hr, hrs⟩ := forall_mem_cons.mp hrs
    rw [putResults, putResult_eq hr, put_bind (fun _ => ih hrs), map_cons, flatMap_cons]

end

/-- What is allocated is what the replies take. -/
theorem batchCap_eq (rs : List BatchResult) :
    batchCap rs = (frame (rs.map BatchResult.reply)).length := by
  have hfold : ∀ cap, rs.foldl (fun cap r => cap + (4 + if r.err = none then r.resp.length else 4))
      cap = cap + ((rs.map BatchResult.reply).flatMap sized).length := by
    induction rs with
    | nil => exact fun _ => rfl
    | cons r rs ih =>
      intro cap
      rw [foldl_cons, ih, map_cons, flatMap_cons, length_append, length_sized, r.length_reply,
        Nat.add_assoc]
  rw [batchCap, hfold, frame, length_append, length_be]

variable {b}

/-- **The frame of a batch** whose results speak fills what was allocated for it. -/
theorem batchFrame_eq (h : ∀ r ∈ b.results, r.Speaks) :
    batchFrame b = .ok (frame (b.results.map BatchResult.reply)) := by
  have hcount : be32 (.ofNat b.results.length) = be 4 (b.results.map BatchResult.reply).length := by
    have hlt := b.length_lt
    rw [be32, UInt32.toNat_ofNat', Nat.mod_eq_of_lt (by omega), length_map]
  rw [batchFrame, put_bind (fun _ => putResults_eq h), hcount, ← frame, put, length_nil,
    Nat.zero_add, nil_append, if_pos (batchCap_eq b.results).ge]

theorem readFrame_batch (b : BatchResults) :
    readFrame (frame (b.results.map BatchResult.reply)) = some (b.results.map BatchResult.reply) := by
  have hlt := b.length_lt
  refine readFrame_frame ?_ ?_
  · rw [length_map]
    omega
  · intro x hx
    obtain ⟨r, -, rfl⟩ := mem_map.mp hx
    have hle : r.resp.length ≤ 65536 := r.resp_le
    rw [r.length_reply]
    split_ifs <;> omega

/-- **The frame of a batch** whose results all have an error or a response is exactly as long as
was allocated for it; a reader of the count and of each length gets the response of every result
without an error and the number of every error, in order; and that is all the frame says: two such
batches have one frame exactly if they have the same replies. -/
theorem batchFrame_reads_back (h : ∀ r ∈ b.results, r.Speaks) :
    (∃ out, batchFrame b = .ok out ∧ out.length = batchCap b.results ∧
      readFrame out = some (b.results.map BatchResult.reply)) ∧
    ∀ b' : BatchResults, (∀ r ∈ b'.results, r.Speaks) →
      (batchFrame b' = batchFrame b ↔
        b'.results.map BatchResult.reply = b.results.map BatchResult.reply) := by
  refine ⟨⟨_, batchFrame_eq h, (batchCap_eq _).symm, readFrame_batch b⟩, fun b' h' => ?_⟩
  rw [batchFrame_eq h, batchFrame_eq h', Except.ok.injEq]
  refine ⟨fun hframe => ?_, fun hreply => by rw [hreply]⟩
  have hread := readFrame_batch b'
  rw [hframe, readFrame_batch b] at hread
  exact (Option.some.inj hread).symm

namespace BatchSample

/-- An error with a byte of a response. -/
def failed : BatchResult := ⟨some .chainDb, [7], by decide⟩

/-- The same error without one. -/
def silent : BatchResult := ⟨some .chainDb, [], by decide⟩

/-- A response that spells out its number. -/
def spelled : BatchResult := ⟨none, be32 (errorNumber (some .chainDb)), by decide⟩

def batch (r : BatchResult) : BatchResults := ⟨[r], by rw [length_singleton]; decide⟩

end BatchSample

open BatchSample

theorem batchFrame_reads_back_failed : ∃ out, batchFrame (batch failed) = .ok out ∧
    out.length = batchCap (batch failed).results ∧
    readFrame out = some [be32 (errorNumber (some .chainDb))] :=
  (batchFrame_reads_back (b := batch failed) (by decide)).1

/-- **One frame for three batches**: an error with bytes, the same error without, and a response
that is the error's number.  And a result that succeeded with nothing to say is written past the end
of the buffer. -/
theorem batchFrame_of_three :
    (failed.resp ≠ silent.resp ∧ failed.err ≠ spelled.err) ∧
    (∃ out, batchFrame (batch failed) = .ok out ∧ batchFrame (batch silent) = .ok out ∧
      batchFrame (batch spelled) = .ok out) ∧
    batchFrame (batch ⟨none, [], by decide⟩) = .error .overrun := by
  refine ⟨by decide, ⟨frame [be32 (errorNumber (some .chainDb))], ?_, ?_, ?_⟩, by decide⟩
  · exact batchFrame_eq (by decide)
  · exact batchFrame_eq (by decide)
  · exact batchFrame_eq (by decide)

end Virp
