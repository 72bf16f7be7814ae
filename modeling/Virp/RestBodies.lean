import Virp.Policy

/-! # What a REST result holds of the response

The drivers for Zammad and Wazuh receive the body of a response chunk by chunk in a buffer that keeps
what fits, and print it as a C string behind a line about the request.
-/
namespace Virp

open List

/-- `ZM_RESPONSE_MAX`, `WZ_RESPONSE_MAX`. -/
def responseMax : Nat := 65536 - 256

/-- `zm_write_cb`, `wz_write_cb`: the bytes in the buffer after a chunk. -/
def writeCb (held chunk : Bytes) : Bytes := held ++ chunk.take (responseMax - held.length - 1)

/-- A request whose transfer succeeded.  Wazuh's buffer starts with what the stack holds. -/
inductive RestCall where
  | zammadGet (path : Bytes)
  | zammadPost (path json : Bytes)
  | wazuhGet (endpoint stack : Bytes)

/-- `virp_exec_result_t`. -/
structure RestResult where
  output : Bytes
  outputLen : Nat
  outputTruncated : Bool
  success : Bool

def zmBodyIsError (body : Bytes) : Bool :=
  let skip := List.dropWhile (fun c => c == 0x20 || c == 0x09 || c == 0x0D || c == 0x0A)
  (skip body).head? == some 0x7B && (text "\"error\"").isPrefixOf (skip ((skip body).drop 1))

namespace RestCall

def bodyIsError (body : Bytes) : RestCall → Bool
  | wazuhGet .. => (strstr body (text "\"error\"")).isSome &&
      (strstr body (text "\"error\":0")).isNone && (strstr body (text "\"error\": 0")).isNone
  | _ => zmBodyIsError body

variable (hostname : Bytes) (code : Int)

/-- What is printed in front of the body. -/
def head : RestCall → Bytes
  | zammadPost path json => hostname ++ text ">POST " ++ path ++ text " [HTTP " ++
      Decimal.signed code ++ text "]\n" ++ json ++ text "\n"
  | zammadGet path | wazuhGet path _ => hostname ++ text ">" ++ path ++ text " [HTTP " ++
      Decimal.signed code ++ text "]\n"

variable (chunks : List Bytes)

/-- The body as `%s` prints it.  The callback writes the terminator, so not before the first byte. -/
def printed : RestCall → Bytes
  | wazuhGet _ stack =>
    let held := chunks.foldl writeCb []
    cstr (if held = [] then stack else held)
  | _ => cstr (chunks.foldl writeCb [])

/-- The typed write. -/
def typed : RestCall → Bool
  | zammadPost .. => true
  | _ => false

variable (call : RestCall)

/-- The ends of `zammad_execute` and `wazuh_execute`.  The typed write sets the length `snprintf`
returned, and never the mark. -/
def result : RestResult :=
  let written := call.head hostname code ++ call.printed chunks
  { output := written.take 65535
    outputLen := if call.typed then written.length else min written.length 65535
    outputTruncated := !call.typed && decide (65536 ≤ written.length)
    success := decide (code < 400) && !call.bodyIsError (call.printed chunks) }

/-- A result reported successful and not truncated is the head with the whole body behind it, and its
length is that of what is stored. -/
def ReportedWhole : Prop :=
  let r := call.result hostname code chunks
  r.success = true → r.outputTruncated = false →
    r.output = call.head hostname code ++ chunks.flatten ∧ r.outputLen = r.output.length

/-- The code and the text printed are no error, and a read fits the output. -/
def Unmarked : Prop :=
  code < 400 ∧ call.bodyIsError (call.printed chunks) = false ∧
    (call.typed = true ∨ (call.head hostname code ++ call.printed chunks).length ≤ 65535)

/-- The body fits its buffer and holds no zero byte; one of Wazuh's that is empty finds an empty
string on the stack. -/
def Kept : Prop :=
  chunks.flatten.length < responseMax ∧ (0 : UInt8) ∉ chunks.flatten ∧
    ∀ endpoint stack, call = wazuhGet endpoint stack → chunks.flatten = [] → cstr stack = []

theorem foldl_writeCb : ∀ held : Bytes,
    chunks.foldl writeCb held = held ++ chunks.flatten.take (responseMax - 1 - held.length) := by
  induction chunks with
  | nil => simp
  | cons chunk chunks ih =>
    intro held
    rw [foldl_cons, ih, writeCb, flatten_cons, take_append, append_assoc,
      Nat.sub_right_comm responseMax, length_append, length_take]
    congr 3
    omega

theorem cstr_take_eq_iff {body : Bytes} {n : Nat} :
    cstr (body.take n) = body ↔ body.length ≤ n ∧ 0 ∉ body := by
  constructor
  · intro h
    have hle : (cstr (body.take n)).length ≤ (body.take n).length :=
      (List.takeWhile_prefix _).length_le
    rw [h, length_take] at hle
    exact ⟨by omega, h ▸ zero_notMem_cstr _⟩
  · rintro ⟨hlen, hzero⟩
    rw [take_of_length_le hlen, cstr_eq_self hzero]

/-- **When the whole body is printed.** -/
theorem printed_eq_iff {chunks : List Bytes} {call : RestCall} :
    call.printed chunks = chunks.flatten ↔ call.Kept chunks := by
  have hheld : chunks.foldl writeCb [] = chunks.flatten.take (responseMax - 1) := foldl_writeCb chunks []
  have hkept : cstr (chunks.foldl writeCb []) = chunks.flatten ↔
      chunks.flatten.length < responseMax ∧ 0 ∉ chunks.flatten := by
    rw [hheld, cstr_take_eq_iff, responseMax, Nat.lt_iff_le_pred (by decide)]
  unfold Kept
  cases call with
  | wazuhGet endpoint stack =>
    have hempty : chunks.foldl writeCb [] = [] ↔ chunks.flatten = [] := by
      rw [hheld, take_eq_nil_iff, or_iff_right (by decide)]
    by_cases hnil : chunks.flatten = []
    · rw [printed, if_pos (hempty.mpr hnil), hnil]
      simp [responseMax]
    · rw [printed, if_neg (hempty.not.mpr hnil), hkept]
      simp [hnil]
  | _ => simp [printed, hkept]

/-- **A result is whole exactly if, unless it is marked, the body is kept and fits behind its head**,
for every body in any chunks. -/
theorem reportedWhole_iff :
    call.ReportedWhole hostname code chunks ↔ (call.Unmarked hostname code chunks →
      call.Kept chunks ∧ (call.head hostname code ++ chunks.flatten).length ≤ 65535) := by
  have hmarks : call.Unmarked hostname code chunks ↔
      (call.result hostname code chunks).success = true ∧
        (call.result hostname code chunks).outputTruncated = false := by
    simp [Unmarked, result, and_assoc, Nat.lt_succ_iff, ← Bool.not_eq_true, imp_iff_not_or]
  have htake : (call.result hostname code chunks).output =
      (call.head hostname code ++ call.printed chunks).take 65535 := rfl
  rw [ReportedWhole, hmarks, and_imp]
  refine forall_congr' fun _ => forall_congr' fun hmark => ?_
  rw [htake, ← printed_eq_iff]
  constructor
  · rintro ⟨hout, hlen⟩
    have hfit : (call.head hostname code ++ call.printed chunks).length ≤ 65535 := by
      rw [length_take] at hlen
      cases call <;> simp [result, typed] at hlen hmark ⊢ <;> omega
    rw [take_of_length_le hfit] at hout
    exact ⟨append_cancel_left hout, hout ▸ hfit⟩
  · rintro ⟨hbody, hfit⟩
    rw [← hbody] at hfit
    rw [take_of_length_le hfit]
    refine ⟨by rw [hbody], ?_⟩
    cases call <;> simp [result, typed] at hfit ⊢ <;> omega

/-- A body of one byte more than the buffer keeps: the last byte is lost, and nothing says so. -/
theorem long_body_cut :
    let r := (zammadGet (text "/api/v1/tickets")).result (text "zammad") 200 [List.replicate 65280 0x5B]
    r.success = true ∧ r.outputTruncated = false ∧
      r.output ≠ (zammadGet (text "/api/v1/tickets")).head (text "zammad") 200 ++
        List.replicate 65280 0x5B := by
  -- the lists are long, so only their lengths and the first byte are looked at
  obtain ⟨body, hbody⟩ : ∃ body, body = List.replicate 65280 (0x5B : UInt8) := ⟨_, rfl⟩
  obtain ⟨n, hn⟩ : ∃ n, n = 65278 := ⟨_, rfl⟩
  have hlength : body.length = 65280 := by rw [hbody, length_replicate]
  have hprinted : (zammadGet (text "/api/v1/tickets")).printed [body] = 0x5B :: List.replicate n 0x5B := by
    rw [printed, foldl_writeCb, flatten_singleton, nil_append, hbody, take_replicate,
      cstr_eq_self (by rw [mem_replicate]; decide), ← replicate_succ, hn]
    · rfl
    · intro _ _ h
      cases h
  have hhead : ((zammadGet (text "/api/v1/tickets")).head (text "zammad") 200).length = 34 := by decide
  rw [← hbody]
  refine ⟨?_, ?_, fun h => ?_⟩
  · simp [result, hprinted, bodyIsError, zmBodyIsError]
  · simp [result, hprinted, hhead]
    omega
  · have hlen := congrArg List.length h
    simp only [result, hprinted, length_take, length_append, length_cons,
      length_replicate, hhead, hlength] at hlen
    omega

end RestCall

end Virp
