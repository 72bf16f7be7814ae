import Virp.ApprovalFlow
import Virp.Library.Machine

/-! # Consuming an approval once

The ids of consumed approvals are the lines of `consumed.list`.  A call reads the whole list, looks
for its id, and replaces the list by one that has the id as a further line.  As long as the list is
read back whole, an id that was consumed stays in it, and is consumed once (`consumed_once_of_run`).
A list that cannot be opened counts as empty, and one that is read in part as the part: what the
call then writes has lost the ids it did not read.
-/
namespace Virp

open List

theorem listLines_append_newline (x y : Bytes) :
    listLines (x ++ 0x0A :: y) = listLines (x ++ [0x0A]) ++ listLines y ∧
      listLines (x ++ [0x0A]) ≠ [] := by
  induction x with
  | nil => simp [listLines]
  | cons c x ih =>
    obtain ⟨hlines, hne⟩ := ih
    by_cases hc : c = 0x0A
    · simp [listLines, hc, hlines]
    · obtain ⟨l, ls, hl⟩ := exists_cons_of_ne_nil hne
      rw [hl] at hlines
      simp [listLines, hc, hlines, hl]

variable {id : Bytes}

theorem listLines_line (hid : 0x0A ∉ id) : listLines (id ++ [0x0A]) = [id] := by
  induction id with
  | nil => rfl
  | cons c id ih =>
    obtain ⟨hc, hid⟩ := not_or.mp (mem_cons.not.mp hid)
    have hne : c ≠ 0x0A := fun h => hc h.symm
    simp [listLines, ih hid, hne]

/-- The text consists of whole lines. -/
def WholeLines (b : Bytes) : Prop := 0 ∉ b ∧ (b = [] ∨ b.getLast? = some 0x0A)

/-- A further line is one more id. -/
theorem WholeLines.lines_append {b : Bytes} (hb : WholeLines b) (hid : 0x0A ∉ id) :
    listLines (b ++ id ++ [0x0A]) = listLines b ++ [id] := by
  rcases hb.2 with rfl | hlast
  · exact listLines_line hid
  obtain ⟨x, rfl⟩ := getLast?_eq_some_iff.mp hlast
  have hsplit := (listLines_append_newline x (id ++ [0x0A])).1
  rw [listLines_line hid] at hsplit
  simpa using hsplit

theorem WholeLines.append {b : Bytes} (hb : WholeLines b) (hid : 0 ∉ id) :
    WholeLines (b ++ id ++ [0x0A]) := by
  refine ⟨?_, .inr (by simp)⟩
  simp only [mem_append, mem_singleton, not_or]
  exact ⟨⟨hb.1, hid⟩, by decide⟩

variable (file : Option Bytes)

/-- The ids a list holds. -/
def consumedIds : List Bytes := listLines (file.getD [])

/-! ## The calls -/

/-- How replacing a file ends. -/
inductive WriteOutcome where
  | done
  /-- An error is reported; it may come after the file was replaced. -/
  | failed (err : VirpError) (replaced : Bool)
deriving DecidableEq

/-- What the machine does during a call. -/
structure ConsumeEnv where
  /-- `fopen` fails although the file may be there. -/
  openError : Option Errno
  /-- The number of bytes after which `fread` stops. -/
  got : Nat
  write : WriteOutcome
deriving DecidableEq

variable (env : ConsumeEnv)

/-- `fopen` and `fread` of the list. -/
def ConsumeEnv.read (file : Option Bytes) : Except Errno Bytes :=
  match env.openError, file with
  | some e, _ => .error e
  | none, some b => .ok (b.take env.got)
  | none, none => .error .noent

/-- Replacing the list. -/
def ConsumeEnv.replace (file : Option Bytes) (content : Bytes) : Option Bytes × Option VirpError :=
  match env.write with
  | .done => (some content, none)
  | .failed err replaced => (if replaced then some content else file, some err)

/-- The operations of a consume call on `consumed.list`. -/
def consumeAct (file : Option Bytes) :
    (o : Daemon.Op) → Option (Option Bytes × Daemon.Res o)
  | .lockConsume => some (file, ())
  | .unlockConsume => some (file, ())
  | .readFile .consumedList => some (file, env.read file)
  | .writeFile .consumedList content => some (env.replace file content)
  | _ => none

/-- A call of `virp_approval_commit_consume` for a proposal. -/
abbrev ConsumeCall := Bytes × ConsumeEnv

/-- One call: the list it leaves, and its error. -/
def consumeStep (call : ConsumeCall) : Option Bytes × Option VirpError :=
  ((virpApprovalCommitConsume call.1).runAlone (consumeAct call.2) file).getD (file, some .chainDb)

/-- What the call finds in its buffer. -/
def ConsumeEnv.buffer (file : Option Bytes) : Bytes := existingList (env.read file)

/-- `consume_once_locked` by itself. -/
theorem runAlone_consumeOnceLocked (file : Option Bytes) (id : Bytes) :
    (consumeOnceLocked id).runAlone (consumeAct env) file = some (
      if (env.buffer file).length = 65535 then (file, some .chainDb)
      else if id ∈ listLines (cstr (env.buffer file)) then (file, some .approvalReused)
      else env.replace file (cstr (env.buffer file) ++ id ++ [0x0A])) := by
  have hread : (Sys.readFile .consumedList).runAlone (consumeAct env) file =
      some (file, env.read file) := Threads.Prog.runAlone_perform _
  have hwrite : ∀ content, (Sys.writeFile .consumedList content).runAlone (consumeAct env) file =
      some (env.replace file content) := fun content => Threads.Prog.runAlone_perform _
  unfold consumeOnceLocked
  rw [Threads.Prog.runAlone_bind, hread, Option.bind_some]
  change (if (env.buffer file).length = 65535 then pure (some VirpError.chainDb)
    else if id ∈ listLines (cstr (env.buffer file)) then pure (some VirpError.approvalReused)
    else Sys.writeFile .consumedList (cstr (env.buffer file) ++ id ++ [0x0A]) :
      DProg (Option VirpError)).runAlone (consumeAct env) file = _
  split_ifs
  · rfl
  · rfl
  · exact hwrite _

/-- **What one call does.** -/
theorem consumeStep_eq (id : Bytes) (env : ConsumeEnv) : consumeStep file (id, env) =
      if proposalIdValid id = false then (file, some .approvalNotFound)
      else if (env.buffer file).length = 65535 then (file, some .chainDb)
      else if id ∈ listLines (cstr (env.buffer file)) then (file, some .approvalReused)
      else env.replace file (cstr (env.buffer file) ++ id ++ [0x0A]) := by
  have hlock : ∀ file, Sys.lockConsume.runAlone (consumeAct env) file = some (file, ()) :=
    fun _ => rfl
  have hunlock : ∀ file, Sys.unlockConsume.runAlone (consumeAct env) file = some (file, ()) :=
    fun _ => rfl
  unfold consumeStep virpApprovalCommitConsume
  by_cases hvalid : proposalIdValid id = false
  · rw [if_pos hvalid, if_pos hvalid]
    rfl
  · rw [if_neg hvalid, if_neg hvalid, Threads.Prog.runAlone_bind, hlock, Option.bind_some,
      Threads.Prog.runAlone_bind, runAlone_consumeOnceLocked, Option.bind_some,
      Threads.Prog.runAlone_bind, hunlock, Option.bind_some, Threads.Prog.runAlone_pure,
      Option.getD_some]

/-! ## Runs -/

/-- The call reads the list, if there is one, as far as its buffer goes. -/
def ReadsWhole (call : ConsumeCall) : Prop :=
  ∀ b ∈ file, call.2.openError = none ∧ min b.length 65535 ≤ call.2.got

instance (file : Option Bytes) (call : ConsumeCall) : Decidable (ReadsWhole file call) :=
  inferInstanceAs (Decidable (∀ b ∈ file, _))

/-- A list that is read whole and fits the buffer is what the call sees. -/
theorem ReadsWhole.buffer_eq {file : Option Bytes} {call : ConsumeCall} (h : ReadsWhole file call)
    (hlen : (call.2.buffer file).length ≠ 65535) : call.2.buffer file = file.getD [] := by
  unfold ConsumeEnv.buffer ConsumeEnv.read at hlen ⊢
  cases file with
  | none => cases call.2.openError <;> rfl
  | some b =>
    obtain ⟨hopen, hgot⟩ := h b rfl
    simp only [hopen, existingList, length_take, Option.getD_some] at hlen ⊢
    rw [take_take]
    exact take_of_length_le (by omega)

theorem proposalIdValid_clean (h : proposalIdValid id ≠ false) : 0 ∉ id ∧ 0x0A ∉ id := by
  have hhex : ∀ c ∈ id, isLowerHex c = true := by
    rw [Bool.ne_false_iff, proposalIdValid, Bool.and_eq_true] at h
    exact all_eq_true.mp h.2
  exact ⟨fun hm => absurd (hhex _ hm) (by decide), fun hm => absurd (hhex _ hm) (by decide)⟩

/-- **One call that reads the whole list** leaves whole lines and keeps every id; one that returns OK
was not in the list and is now. -/
theorem consumeStep_spec {file : Option Bytes} {call : ConsumeCall} (hread : ReadsWhole file call)
    (hfile : WholeLines (file.getD [])) : WholeLines ((consumeStep file call).1.getD []) ∧
    (∀ id ∈ consumedIds file, id ∈ consumedIds (consumeStep file call).1) ∧
    ((consumeStep file call).2 = none →
      call.1 ∉ consumedIds file ∧ call.1 ∈ consumedIds (consumeStep file call).1) := by
  obtain ⟨id, env⟩ := call
  rw [consumeStep_eq]
  split_ifs with hvalid hfull hused
  · exact ⟨hfile, fun _ h => h, fun h => (nomatch h)⟩
  · exact ⟨hfile, fun _ h => h, fun h => (nomatch h)⟩
  · exact ⟨hfile, fun _ h => h, fun h => (nomatch h)⟩
  obtain ⟨hzero, hnewline⟩ := proposalIdValid_clean hvalid
  have hbuffer : cstr (env.buffer file) = file.getD [] := by
    rw [hread.buffer_eq hfull]
    exact cstr_eq_self hfile.1
  rw [hbuffer] at hused ⊢
  have hlines : consumedIds (some (file.getD [] ++ id ++ [0x0A])) = consumedIds file ++ [id] :=
    hfile.lines_append hnewline
  have hkept : ∀ x ∈ consumedIds file, x ∈ consumedIds (some (file.getD [] ++ id ++ [0x0A])) := by
    intro x hx
    rw [hlines]
    exact mem_append_left _ hx
  have hadded : id ∈ consumedIds (some (file.getD [] ++ id ++ [0x0A])) := by
    rw [hlines]
    exact mem_append_right _ mem_cons_self
  unfold ConsumeEnv.replace
  cases env.write with
  | done => exact ⟨hfile.append hzero, hkept, fun _ => ⟨hused, hadded⟩⟩
  | failed err replaced =>
    cases replaced with
    | false => exact ⟨hfile, fun _ h => h, fun h => (nomatch h)⟩
    | true => exact ⟨hfile.append hzero, hkept, fun h => (nomatch h)⟩

/-- Whole lines, every approved id among them, and no id approved twice. -/
def OnceOnly (past : List (ConsumeCall × Option VirpError)) : Prop :=
  WholeLines (file.getD []) ∧ (∀ x ∈ past, x.2 = none → x.1.1 ∈ consumedIds file) ∧
    past.Pairwise fun x y => x.1.1 = y.1.1 → x.2 = none → y.2 ≠ none

/-- **An approval is consumed once.**  In every run of consume calls that starts with no list, or one
of whole lines, and in which every call reads the list whole, whatever happens when it is written: a
call for a proposal that was consumed before does not return OK. -/
theorem consumed_once_of_run {file : Option Bytes} {calls : List ConsumeCall}
    (hfile : WholeLines (file.getD [])) (hreads : Machine.Steps consumeStep ReadsWhole file calls) :
    (Machine.trace consumeStep file calls).Pairwise
      fun x y => x.1.1 = y.1.1 → x.2 = none → y.2 ≠ none := by
  have h0 : OnceOnly file [] := ⟨hfile, by simp, List.Pairwise.nil⟩
  refine (Machine.invariant_of_steps (I := OnceOnly) h0 ?_ hreads).2.2
  rintro file past call ⟨hwhole, hkept, honce⟩ hread
  obtain ⟨hwhole', hkeeps, hok⟩ := consumeStep_spec hread hwhole
  refine ⟨hwhole', ?_, ?_⟩
  · intro x hx hnone
    rcases mem_append.mp hx with hx | hx
    · exact hkeeps _ (hkept x hx hnone)
    · obtain rfl := mem_singleton.mp hx
      exact (hok hnone).2
  · refine pairwise_append.mpr ⟨honce, pairwise_singleton _ _, ?_⟩
    intro x hx y hy hsame hnone
    obtain rfl := mem_singleton.mp hy
    intro hagain
    exact (hok hagain).1 (hsame ▸ hkept x hx hnone)

namespace Sample

/-- Two proposals. -/
def proposalP : Bytes := List.replicate 32 0x61

def proposalQ : Bytes := List.replicate 32 0x62

/-- Nothing fails. -/
def calm : ConsumeEnv := ⟨none, 65535, .done⟩

/-- The answers of a run that starts without a list. -/
def consumeAnswers (calls : List ConsumeCall) : List (Option VirpError) :=
  (Machine.trace consumeStep none calls).map Prod.snd

end Sample

open Sample in
/-- The second consume of a proposal is refused, also after a write that failed. -/
theorem consumed_once_of_run_twice :
    (Machine.trace consumeStep none [(proposalP, calm),
      (proposalQ, { calm with write := .failed .chainDb false }), (proposalP, calm)]).Pairwise
        (fun x y => x.1.1 = y.1.1 → x.2 = none → y.2 ≠ none) ∧
    consumeAnswers [(proposalP, calm), (proposalQ, { calm with write := .failed .chainDb false }),
      (proposalP, calm)] = [none, some .chainDb, some .approvalReused] :=
  ⟨consumed_once_of_run ⟨by simp, .inl rfl⟩ (by decide +kernel), by decide +kernel⟩

open Sample in
/-- **A consumed proposal is consumed again.**  The list cannot be opened during another call, for
want of a descriptor say, or its first byte only is read: what that call writes has lost the
proposal. -/
theorem consumed_again_after_failed_read :
    consumeAnswers [(proposalP, calm), (proposalQ, { calm with openError := some .other }),
      (proposalP, calm)] = [none, none, none] ∧
    consumeAnswers [(proposalP, calm), (proposalQ, { calm with got := 1 }), (proposalP, calm)] =
      [none, none, none] := by
  decide +kernel

end Virp
