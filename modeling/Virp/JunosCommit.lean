import Virp.Errors
import Virp.Library.Machine
import Virp.Policy

/-! # Commits on a JunOS connection

The driver writes a `commit` to the device only after a `commit check` that the device answered with
"check succeeds", which a flag of the connection remembers.  Entering the configuration mode, a
rollback, a commit that worked and a failed check clear it; a `set` or `delete` does not.

What the SSH layer does during a call is an input: whether the command could be sent, how the read
ended, and the text the device answered with, without echo, prompt and line ends around it.
-/
namespace Virp

open Machine List

/-- `junos_mode_t`. -/
inductive JunosMode where
  | unknown | operational | configure | shell
deriving DecidableEq

/-- The fields of the connection that the execution of a command reads and writes. -/
structure JunosConn where
  connected : Bool
  mode : JunosMode
  configError : Bool
  commitCheckOk : Bool
deriving DecidableEq

/-- What happens on the channel during a call. -/
structure JunosReply where
  /-- `ssh_write` sends the command. -/
  sent : Bool
  /-- How `virp_ssh_read_until_prompt` ends; `none` is `VIRP_OK`. -/
  readError : Option VirpError
  /-- `virp_ssh_learn_prompt` finds a prompt where the old one did not come back. -/
  learned : Bool
  /-- It finds one after a change of mode. -/
  relearned : Bool
  /-- The mode of the prompt after the command, and after a rollback of the driver. -/
  mode : JunosMode
  rollbackMode : JunosMode
  body : Bytes

/-- A command written to the device, and what it answered. -/
structure JunosWrite where
  command : Bytes
  answer : Option Bytes
deriving DecidableEq

/-! ## Reading a command -/

/-- `strncasecmp(command, word, strlen(word)) == 0`. -/
def startsAnyCase (command word : Bytes) : Bool := eqIgnoreCase (command.take word.length) word

/-- The command is the word, or goes on behind it with a space or a newline. -/
def isJunosWord (command word : Bytes) : Bool :=
  startsAnyCase command word &&
    (command.drop word.length).head?.all fun c => c == 0x20 || c == 0x0A

variable (command : Bytes)

def isConfigure : Bool := isJunosWord command (text "configure")

def isCommitCheck : Bool := startsAnyCase command (text "commit check")

def isCommit : Bool := !isCommitCheck command && isJunosWord command (text "commit")

def isRollback : Bool := startsAnyCase command (text "rollback")

def isSetDelete : Bool :=
  startsAnyCase command (text "set ") || startsAnyCase command (text "delete ")

def isModeChanging : Bool :=
  isConfigure command || isRollback command || startsAnyCase command (text "exit") ||
    startsAnyCase command (text "quit")

/-- `junos_route_command` answers BLACK.  No row of another tier matches one of these commands. -/
def junosIsBlack : Bool :=
  [text "request system reboot", text "request system halt", text "request system zeroize",
    text "request system power-off", text "file delete", text "request system software delete"].any
    fun row => startsAnyCase command row &&
      (command.drop row.length).head?.all fun c => c == 0x20 || c == 0x09

/-- The answer holds one of the error markers. -/
def hasJunosError (body : Bytes) : Bool :=
  [text "syntax error", text "unknown command", text "invalid value", text "error:",
    text "missing argument", text "permission denied"].any fun marker => (strstr body marker).isSome

def checkSucceeds (body : Bytes) : Bool := (strstr body (text "check succeeds")).isSome

/-- The command could not be sent or its answer not be read to the end: the connection is given up. -/
def JunosReply.lost (reply : JunosReply) (command : Bytes) : Bool :=
  !reply.sent ||
  !(reply.readError = none || reply.readError = some .noPrompt && isModeChanging command &&
    reply.learned) ||
  isModeChanging command && !reply.relearned

/-- The driver's own rollback. -/
def junosRollback : JunosWrite := ⟨text "rollback 0", none⟩

/-- The flags after an answer, and the rollback that follows a failed check. -/
def junosAfter (s : JunosConn) (command : Bytes) (reply : JunosReply) :
    JunosConn × List JunosWrite :=
  let failed := hasJunosError reply.body || isConfigure command && reply.mode != .configure
  let s := { s with mode := reply.mode }
  let s := if isSetDelete command && reply.mode == .configure && failed then
    { s with configError := true } else s
  let checkFailed := isCommitCheck command && !checkSucceeds reply.body
  let s := if isCommitCheck command then { s with commitCheckOk := checkSucceeds reply.body } else s
  let s := if checkFailed then { s with mode := reply.rollbackMode } else s
  let s := if isCommit command && !failed || isRollback command then
    { s with configError := false, commitCheckOk := false } else s
  (s, ⟨command, some reply.body⟩ :: if checkFailed then [junosRollback] else [])

/-- `junos_execute`: the connection afterwards, and what was written to the device. -/
def junosExecute (s : JunosConn) (call : Bytes × JunosReply) : JunosConn × List JunosWrite :=
  let (command, reply) := call
  if (commandCheckSeparators command).isSome || !s.connected || junosIsBlack command then (s, [])
  else
    let s := if isConfigure command then { s with configError := false, commitCheckOk := false } else s
    if isCommit command && !s.commitCheckOk then
      ({ s with mode := reply.rollbackMode, configError := false }, [junosRollback])
    else if reply.lost command then ({ s with connected := false }, [⟨command, none⟩])
    else junosAfter s command reply

/-! ## The law -/

def isWordBreak (c : UInt8) : Bool := c == 0x20 || (0x09 ≤ c && c ≤ 0x0D)

/-- The first word of a command, and what follows it. -/
def junosWord : Bytes × Bytes :=
  (command.dropWhile isWordBreak).span fun c => !isWordBreak c

/-- A `commit check`. -/
def ChecksCommit : Prop :=
  (junosWord command).1 = text "commit" ∧ (junosWord (junosWord command).2).1 = text "check"

/-- A `commit` other than a check. -/
def Commits : Prop :=
  (junosWord command).1 = text "commit" ∧ (junosWord (junosWord command).2).1 ≠ text "check"

instance decidableChecksCommit (command : Bytes) : Decidable (ChecksCommit command) :=
  inferInstanceAs (Decidable (_ ∧ _))

instance decidableCommits (command : Bytes) : Decidable (Commits command) :=
  inferInstanceAs (Decidable (_ ∧ _))

/-- A command after which an earlier check says nothing. -/
def Unchecks : Prop :=
  (junosWord command).1 ∈ [text "set", text "delete", text "configure", text "rollback"] ∨
    Commits command

instance decidableUnchecks (command : Bytes) : Decidable (Unchecks command) :=
  inferInstanceAs (Decidable (_ ∨ _))

/-- After the last of these commands a check was answered with success. -/
def CheckHolds (log : List JunosWrite) : Prop :=
  ∃ before w after, log = before ++ w :: after ∧ ChecksCommit w.command ∧
    w.answer.any checkSucceeds = true ∧ ∀ x ∈ after, ¬ Unchecks x.command

/-- **Every commit in the log was checked.** -/
def CommitsChecked (log : List JunosWrite) : Prop :=
  ∀ before w after, log = before ++ w :: after → Commits w.command → CheckHolds before

/-- A call that the flag follows: a command that is a commit, or no check, by its words is one for the
driver; and one that takes the last check's word away while the flag is set clears the flag, or loses
the connection. -/
def FlagFollows (s : JunosConn) (call : Bytes × JunosReply) : Prop :=
  (Commits call.1 → isCommit call.1 = true) ∧ (isCommitCheck call.1 = true → ChecksCommit call.1) ∧
  (s.commitCheckOk = true → Unchecks call.1 → isConfigure call.1 = true ∨ isRollback call.1 = true ∨
    isCommit call.1 = true ∧ hasJunosError call.2.body = false ∨ call.2.lost call.1 = true)

instance decidableFlagFollows (s : JunosConn) (call : Bytes × JunosReply) :
    Decidable (FlagFollows s call) :=
  inferInstanceAs (Decidable (_ ∧ _ ∧ _))

variable {log : List JunosWrite} {w : JunosWrite}

theorem CheckHolds.concat (h : CheckHolds log) (hw : ¬ Unchecks w.command) :
    CheckHolds (log ++ [w]) := by
  obtain ⟨before, x, after, rfl, hx, hans, hafter⟩ := h
  refine ⟨before, x, after ++ [w], by simp, hx, hans, ?_⟩
  simp only [mem_append, mem_singleton]
  rintro y (hy | rfl)
  · exact hafter y hy
  · exact hw

theorem not_checkHolds_concat (hw : Unchecks w.command) : ¬ CheckHolds (log ++ [w]) := by
  rintro ⟨before, x, after, heq, hx, -, hafter⟩
  rcases eq_nil_or_concat' after with rfl | ⟨after, y, rfl⟩
  · obtain ⟨-, hlast⟩ := append_inj' heq rfl
    obtain rfl := singleton_inj.mp hlast
    rcases hw with hword | hcommits
    · rw [hx.1] at hword
      revert hword
      decide +kernel
    · exact hcommits.2 hx.2
  · have heq' : log ++ [w] = (before ++ x :: after) ++ [y] := by simpa using heq
    obtain ⟨-, hlast⟩ := append_inj' heq' rfl
    obtain rfl := singleton_inj.mp hlast
    exact hafter w (by simp) hw

theorem CommitsChecked.concat (h : CommitsChecked log) (hw : Commits w.command → CheckHolds log) :
    CommitsChecked (log ++ [w]) := by
  intro before x after heq hx
  rcases eq_nil_or_concat' after with rfl | ⟨after, y, rfl⟩
  · obtain ⟨rfl, hlast⟩ := append_inj' heq rfl
    obtain rfl := singleton_inj.mp hlast
    exact hw hx
  · have heq' : log ++ [w] = (before ++ x :: after) ++ [y] := by simpa using heq
    exact h before x after (append_inj' heq' rfl).1 hx

theorem not_commits_rollback : ¬ Commits junosRollback.command := by
  rintro ⟨hword, -⟩
  revert hword
  decide +kernel

/-- What the flag stands for: while the connection is up, a check that no later command undid. -/
def FlagMeans (s : JunosConn) (log : List JunosWrite) : Prop :=
  (s.connected = true → s.commitCheckOk = true → CheckHolds log) ∧ CommitsChecked log

theorem junosAfter_commitCheckOk (s : JunosConn) (command : Bytes) (reply : JunosReply) :
    (junosAfter s command reply).1.commitCheckOk =
      (!(isCommit command && !(hasJunosError reply.body ||
        isConfigure command && reply.mode != .configure) || isRollback command) &&
        if isCommitCheck command then checkSucceeds reply.body else s.commitCheckOk) := by
  unfold junosAfter
  grind

variable {s : JunosConn} {call : Bytes × JunosReply}

/-- What a call that is answered leaves. -/
theorem FlagMeans.after (hflag : s.commitCheckOk = true → CheckHolds log)
    (hlog : CommitsChecked log) (hguard : isCommit call.1 = true → s.commitCheckOk = true)
    (hfollows : FlagFollows s call) (hup : call.2.lost call.1 = false)
    (hconfigure : isConfigure call.1 = true → s.commitCheckOk = false) :
    FlagMeans (junosAfter s call.1 call.2).1 (log ++ (junosAfter s call.1 call.2).2) := by
  obtain ⟨command, reply⟩ := call
  obtain ⟨hcommit, hcheck, hunchecks⟩ := hfollows
  have hwritten : CommitsChecked (log ++ [⟨command, some reply.body⟩]) :=
    hlog.concat fun hw => hflag (hguard (hcommit hw))
  refine ⟨fun _ hok => ?_, ?_⟩
  · rw [junosAfter_commitCheckOk] at hok
    by_cases hischeck : isCommitCheck command = true
    · -- the check succeeded, so no rollback was written behind it
      have hsucceeds : checkSucceeds reply.body = true := by
        rw [if_pos hischeck, Bool.and_eq_true] at hok
        exact hok.2
      simp only [junosAfter, hischeck, hsucceeds, Bool.not_true, Bool.and_false, Bool.false_eq_true,
        if_false]
      exact ⟨log, _, [], rfl, hcheck hischeck, hsucceeds, by simp⟩
    · rw [if_neg hischeck, Bool.and_eq_true, Bool.not_eq_true', Bool.or_eq_false_iff] at hok
      obtain ⟨⟨hnocommit, hnorollback⟩, hset⟩ := hok
      have hlines : (junosAfter s command reply).2 = [⟨command, some reply.body⟩] := by
        simp [junosAfter, hischeck]
      rw [hlines]
      refine (hflag hset).concat fun hun => ?_
      rcases hunchecks hset hun with hconf | hroll | ⟨hcom, herr⟩ | hlost
      · rw [hconfigure hconf] at hset
        cases hset
      · rw [hroll] at hnorollback
        cases hnorollback
      · have hconf : isConfigure command = false := by
          by_contra hcon
          rw [hconfigure (by simpa using hcon)] at hset
          cases hset
        simp [hcom, herr, hconf] at hnocommit
      · rw [hup] at hlost
        cases hlost
  · unfold junosAfter
    dsimp only
    split_ifs
    · rw [append_cons]
      exact hwritten.concat fun h => absurd h not_commits_rollback
    · exact hwritten

/-- What one call keeps. -/
theorem FlagMeans.execute (h : FlagMeans s log) (hfollows : FlagFollows s call) :
    FlagMeans (junosExecute s call).1 (log ++ (junosExecute s call).2) := by
  obtain ⟨hflag, hlog⟩ := h
  unfold junosExecute
  dsimp only
  split_ifs with hrefused hconf hguard hlost hguard hlost
  · simpa using ⟨hflag, hlog⟩
  · exact ⟨fun _ hok => absurd hok (by simp), hlog.concat fun h => absurd h not_commits_rollback⟩
  · refine ⟨fun hup => absurd hup (by simp), hlog.concat fun hw => ?_⟩
    exact absurd (hfollows.1 hw) (by simpa using hguard)
  · refine FlagMeans.after (by simp) hlog (by simpa using hguard) ⟨hfollows.1, hfollows.2.1, by simp⟩
      (by simpa using hlost) (by simp)
  · refine ⟨fun _ hok => ?_, hlog.concat fun h => absurd h not_commits_rollback⟩
    simp only [Bool.and_eq_true, Bool.not_eq_true'] at hguard
    exact absurd (hguard.2.symm.trans hok) (by simp)
  · have hup : s.connected = true := by simp_all
    refine ⟨fun hup => absurd hup (by simp), hlog.concat fun hw => hflag hup ?_⟩
    simpa [hfollows.1 hw] using hguard
  · have hup : s.connected = true := by simp_all
    exact FlagMeans.after (hflag hup) hlog (fun hc => by simpa [hc] using hguard) hfollows
      (by simpa using hlost) (fun hc => absurd hc hconf)

variable (mode : JunosMode)

/-- A connection as `junos_connect` leaves it. -/
def JunosConn.fresh : JunosConn := ⟨true, mode, false, false⟩

/-- What was written to the device in a run. -/
def junosLog (calls : List (Bytes × JunosReply)) : List JunosWrite :=
  (trace junosExecute (.fresh mode) calls).flatMap Prod.snd

/-- **On a connection on which the flag follows every call, every commit is checked.** -/
theorem commits_checked {calls : List (Bytes × JunosReply)}
    (h : Steps junosExecute FlagFollows (.fresh mode) calls) :
    CommitsChecked (junosLog mode calls) := by
  have hrun := invariant_of_steps (I := fun s t => FlagMeans s (t.flatMap Prod.snd))
    ⟨by simp [JunosConn.fresh], by intro before w after heq; simp at heq⟩
    (fun s t call hI hok => by simpa using hI.execute hok) h
  exact hrun.2

namespace JunosSample

def reply (answer : String) : JunosReply :=
  ⟨true, none, true, true, .configure, .configure, text answer⟩

def checked : List (Bytes × JunosReply) :=
  [(text "configure", reply ""), (text "set system host-name a", reply ""),
    (text "commit check", reply "configuration check succeeds")]

def commit : Bytes × JunosReply := (text "commit", reply "commit complete")

end JunosSample

open JunosSample in
/-- A commit behind its check is written, and checked. -/
theorem commits_checked_sample :
    (junosLog .operational (checked ++ [commit])).map JunosWrite.command =
      [text "configure", text "set system host-name a", text "commit check", text "commit"] ∧
    CommitsChecked (junosLog .operational (checked ++ [commit])) := by
  exact ⟨by decide +kernel, commits_checked _ (by decide +kernel)⟩

open JunosSample in
/-- A `set` behind the check leaves the flag set, and the commit is written all the same. -/
theorem commit_after_set_unchecked : ¬ CommitsChecked (junosLog .operational
    (checked ++ [(text "set system host-name b", reply ""), commit])) := by
  intro h
  let set : JunosWrite := ⟨text "set system host-name b", some []⟩
  have hlog : junosLog .operational (checked ++ [(set.command, reply ""), commit]) =
      (junosLog .operational checked ++ [set]) ++ [⟨commit.1, some commit.2.body⟩] := by
    decide +kernel
  have hun : Unchecks set.command := by decide +kernel
  have hcommits : Commits commit.1 := by decide +kernel
  exact not_checkHolds_concat hun (h _ _ [] hlog hcommits)

end Virp
