import Virp.ChainRuns
import Virp.Library.Machine
import Virp.Library.Rows

/-! # The intent store

A client stores an intent with a number of commands, and has each execution counted against it.
Storing an id again replaces its row, and with it the count and the limit.  So the commands
executed on an intent are bounded by what it was last stored with, and by what it was first stored
with if it is stored once (`executions_within_budget`).  The expiry time is kept with the row and
handed back; no request is decided by it.
-/
namespace Virp

open List

/-- `virp_intent_entry_t`; the rows of `intents` have the same columns. -/
structure IntentEntry where
  intentId : Field 128
  intentHash : Field 65
  confidence : Field 16
  expiresAtNs : Int
  maxCommands : Int
  commandsExecuted : Int
  signatureHmac : Field 65
  signatureSeq : Int
  signatureTimestampNs : Int
  createdAtNs : Int
  intentJson : Field 8192
  proposedActions : Field 8192
  constraints : Field 512
deriving DecidableEq

/-- The table of intents, by `intent_id`. -/
abbrev IntentTable := Rows (Field 128) IntentEntry

/-- What the machine does during a call: the wall clock, and which of the MAC, the write and the
read fail. -/
structure IntentEnv where
  now : Int
  hmacFails : Bool
  writeFails : Bool
  readFails : Bool
deriving DecidableEq

section
variable (C : Crypto) (h : Handle) (env : IntentEnv)

/-- `chain_intent_store_locked`, on whole rows. -/
def intentStoreLocked (t : IntentTable) (entry : IntentEntry) :
    IntentTable × Except VirpError IntentEntry :=
  if h.readOnly then (t, .error .chainReadonly)
  else if env.hmacFails then (t, .error .crypto)
  else
    let entry := { entry with
      signatureHmac := .copy 65 (C.hmacSha256Hex h.chainKey entry.intentHash.bytes)
      createdAtNs := env.now
      signatureTimestampNs := env.now }
    if env.writeFails then (t, .error .chainDb)
    else
      -- the statement writes the count 0, and the caller's entry is set to it
      (t.put entry.intentId { entry with commandsExecuted := 0 },
        .ok { entry with commandsExecuted := 0 })

/-- `chain_intent_get_locked`: a failed read is a missing intent. -/
def intentGetLocked (t : IntentTable) (intentId : Field 128) : Except VirpError IntentEntry :=
  if env.readFails then .error .intentNotFound
  else
    match t.get intentId with
    | some entry => .ok entry
    | none => .error .intentNotFound

/-- The row has commands left: `commands_executed < max_commands`. -/
def IntentEntry.hasBudget (r : IntentEntry) : Bool := r.commandsExecuted < r.maxCommands

/-- `SQL_INTENT_EXECUTE` on one row. -/
def IntentEntry.count (r : IntentEntry) : IntentEntry :=
  if r.hasBudget then { r with commandsExecuted := r.commandsExecuted + 1 } else r

/-- `chain_intent_execute_locked`. -/
def intentExecuteLocked (t : IntentTable) (intentId : Field 128) :
    IntentTable × Except VirpError IntentEntry :=
  if h.readOnly then (t, .error .chainReadonly)
  else if env.writeFails then (t, .error .chainDb)
  else
    let t' := t.modify intentId IntentEntry.count
    -- `sqlite3_changes`: whether the update found a row
    if ((t.get intentId).map IntentEntry.hasBudget).getD false then
      (t', intentGetLocked env t' intentId)
    else
      match intentGetLocked env t' intentId with
      | .error _ => (t', .error .intentNotFound)
      | .ok _ => (t', .error .intentExhausted)

end

/-- The fields of an `intent_store` request.  Numbers are range-checked when they are parsed. -/
structure IntentStoreRequest where
  intentId : Field 128
  intentHash : Field 65
  confidence : Field 16
  expiresAtNs : Fin (2 ^ 63)
  maxCommands : Fin (2 ^ 31)
  intentJson : Field 4096
  proposedActions : Field 2048
  constraints : Field 512
deriving DecidableEq

/-- The intent requests a client sends. -/
inductive IntentRequest where
  | store (req : IntentStoreRequest) (seq : UInt32)
  | get (intentId : Field 128)
  | execute (intentId : Field 128)
deriving DecidableEq

/-- The entry `handle_client` fills in from a request. -/
def IntentStoreRequest.entry (req : IntentStoreRequest) (seq : UInt32) : IntentEntry where
  intentId := .copy 128 req.intentId.bytes
  intentHash := .copy 65 req.intentHash.bytes
  confidence := .copy 16 req.confidence.bytes
  expiresAtNs := req.expiresAtNs.val
  maxCommands := req.maxCommands.val
  commandsExecuted := 0
  signatureHmac := .empty 65
  signatureSeq := seq.toNat
  signatureTimestampNs := 0
  createdAtNs := 0
  intentJson := .copy 8192 req.intentJson.bytes
  proposedActions := .copy 8192 req.proposedActions.bytes
  constraints := .copy 512 req.constraints.bytes

/-- The three intent cases of `handle_client`, up to the reply. -/
def handleIntent (C : Crypto) (h : Handle) (chainEnabled : Bool) (t : IntentTable)
    (call : IntentRequest × IntentEnv) : IntentTable × Except VirpError IntentEntry :=
  if !chainEnabled then (t, .error .chainDb)
  else
    match call.1 with
    | .store req seq =>
      if req.intentId.bytes = [] ∨ req.intentHash.bytes = [] ∨ req.intentJson.bytes = [] then
        (t, .error .nullPtr)
      else intentStoreLocked C h call.2 t (req.entry seq)
    | .get intentId =>
      if intentId.bytes = [] then (t, .error .nullPtr)
      else (t, intentGetLocked call.2 t intentId)
    | .execute intentId =>
      if intentId.bytes = [] then (t, .error .nullPtr)
      else intentExecuteLocked h call.2 t intentId

/-! ## Runs -/

/-- A request, and what the machine does during it. -/
abbrev IntentCall := IntentRequest × IntentEnv

/-- A request with its answer. -/
abbrev IntentExchange := IntentCall × Except VirpError IntentEntry

/-- The exchange stores the intent with a number of commands. -/
def StoredWith (id : Field 128) (limit : Nat) (x : IntentExchange) : Prop :=
  ∃ req seq env entry, x = ((.store req seq, env), .ok entry) ∧ req.intentId = id ∧
    req.maxCommands.val = limit

/-- The exchange is an execution on the intent that returned OK. -/
def executedOk (id : Field 128) : IntentExchange → Bool
  | ((.execute i, _), .ok _) => i == id
  | _ => false

/-- The executions on an intent that returned OK. -/
def executions (id : Field 128) (xs : List IntentExchange) : Nat := xs.countP (executedOk id)

/-- The limit an intent was last stored with, and the executions since then. -/
structure IntentAccount where
  limit : Nat
  used : Nat

def accountStep (id : Field 128) (a : Option IntentAccount) : IntentExchange → Option IntentAccount
  | ((.store req _, _), .ok _) => if req.intentId = id then some ⟨req.maxCommands.val, 0⟩ else a
  | ((.execute i, _), .ok _) => if i = id then a.map (fun a => { a with used := a.used + 1 }) else a
  | _ => a

def account (id : Field 128) (xs : List IntentExchange) : Option IntentAccount :=
  xs.foldl (accountStep id) none

variable {x : IntentExchange} {past : List IntentExchange}

variable {id : Field 128}

/-- An exchange that stores nothing only adds what it executes. -/
theorem accountStep_eq (h : ∀ limit, ¬ StoredWith id limit x)
    (a : Option IntentAccount) :
    accountStep id a x = a.map fun a => { a with used := a.used + if executedOk id x then 1 else 0 } := by
  obtain ⟨⟨req, env⟩, answer⟩ := x
  cases req with
  | get i => cases a <;> simp [accountStep, executedOk]
  | store req seq =>
    cases answer with
    | error err => cases a <;> simp [accountStep, executedOk]
    | ok entry =>
      have hne : req.intentId ≠ id := fun he => h _ ⟨req, seq, env, entry, rfl, he, rfl⟩
      cases a <;> simp [accountStep, executedOk, hne]
  | execute i =>
    cases answer with
    | error err => cases a <;> simp [accountStep, executedOk]
    | ok entry => by_cases hi : i = id <;> cases a <;> simp [accountStep, executedOk, hi]

theorem foldl_accountStep {xs : List IntentExchange}
    (h : ∀ x ∈ xs, ∀ limit, ¬ StoredWith id limit x) (a : Option IntentAccount) :
    xs.foldl (accountStep id) a = a.map fun a => { a with used := a.used + executions id xs } := by
  induction xs generalizing a with
  | nil => cases a <;> simp [executions]
  | cons x xs ih =>
    obtain ⟨hx, hxs⟩ := forall_mem_cons.mp h
    rw [foldl_cons, accountStep_eq hx, ih hxs]
    cases a with
    | none => rfl
    | some a =>
      simp only [executions, countP_cons, Option.map_some, Option.some.injEq,
        IntentAccount.mk.injEq, true_and]
      omega

/-- **The account of an intent** after its last store. -/
theorem account_append {limit : Nat} {before after : List IntentExchange}
    (hx : StoredWith id limit x) (h : ∀ y ∈ after, ∀ limit, ¬ StoredWith id limit y) :
    account id (before ++ x :: after) = some ⟨limit, executions id after⟩ := by
  obtain ⟨req, seq, env, entry, rfl, hid, rfl⟩ := hx
  rw [account, foldl_append, foldl_cons, accountStep, if_pos hid, foldl_accountStep h]
  simp

variable {C : Crypto} {h : Handle} {chainEnabled : Bool}

/-- **What one request does**: nothing that counts; or it replaces the row of an intent by a fresh
one; or it counts an execution on a row, which had commands left if it returns OK. -/
theorem handleIntent_cases (t : IntentTable) (call : IntentCall) :
    ((handleIntent C h chainEnabled t call).1 = t ∧
      (∀ id limit, ¬ StoredWith id limit (call, (handleIntent C h chainEnabled t call).2)) ∧
      ∀ id, executedOk id (call, (handleIntent C h chainEnabled t call).2) = false) ∨
    (∃ req seq env entry, call = (.store req seq, env) ∧
      handleIntent C h chainEnabled t call = (t.put req.intentId entry, .ok entry) ∧
      entry.maxCommands = req.maxCommands.val ∧ entry.commandsExecuted = 0) ∨
    ∃ id env, call = (.execute id, env) ∧
      (handleIntent C h chainEnabled t call).1 = t.modify id IntentEntry.count ∧
      ∀ entry, (handleIntent C h chainEnabled t call).2 = .ok entry →
        ∃ r, t.get id = some r ∧ r.hasBudget = true := by
  obtain ⟨req, env⟩ := call
  have herror : ∀ err, (∀ id limit, ¬ StoredWith id limit ((req, env), .error err)) ∧
      ∀ id, executedOk id ((req, env), .error err) = false := by
    intro err
    refine ⟨?_, fun id => by cases req <;> rfl⟩
    rintro id limit ⟨_, _, _, _, hx, -⟩
    cases hx
  unfold handleIntent
  cases chainEnabled with
  | false => exact .inl ⟨rfl, herror _⟩
  | true =>
    simp only [Bool.not_true, Bool.false_eq_true, if_false]
    cases req with
    | get id =>
      refine .inl ⟨by dsimp only; split_ifs <;> rfl, ?_, fun _ => rfl⟩
      rintro i limit ⟨_, _, _, _, hx, -⟩
      cases hx
    | store req seq =>
      dsimp only
      split_ifs with hempty
      · exact .inl ⟨rfl, herror _⟩
      unfold intentStoreLocked
      split_ifs
      · exact .inl ⟨rfl, herror _⟩
      · exact .inl ⟨rfl, herror _⟩
      · exact .inl ⟨rfl, herror _⟩
      let entry := { req.entry seq with
        signatureHmac := .copy 65 (C.hmacSha256Hex h.chainKey (req.entry seq).intentHash.bytes)
        createdAtNs := env.now
        signatureTimestampNs := env.now }
      refine .inr (.inl ⟨req, seq, env, entry, rfl, ?_, rfl, rfl⟩)
      simp [entry, IntentStoreRequest.entry]
    | execute id =>
      dsimp only
      split_ifs with hempty
      · exact .inl ⟨rfl, herror _⟩
      unfold intentExecuteLocked
      split_ifs with hro hw hchanged
      · exact .inl ⟨rfl, herror _⟩
      · exact .inl ⟨rfl, herror _⟩
      · refine .inr (.inr ⟨id, env, rfl, rfl, fun _ _ => ?_⟩)
        cases hr : t.get id with
        | none => simp [hr] at hchanged
        | some r => exact ⟨r, rfl, by simpa [hr] using hchanged⟩
      · refine .inr (.inr ⟨id, env, rfl, ?_, fun entry hok => ?_⟩)
        · dsimp only
          cases intentGetLocked env (t.modify id IntentEntry.count) id <;> rfl
        · cases hg : intentGetLocked env (t.modify id IntentEntry.count) id <;>
            simp [hg] at hok

/-- The table agrees with the accounts of the past: a row has the limit of its account and counts
at least what the account does, and an intent without a row was never stored or executed. -/
def Budgeted (t : IntentTable) (past : List IntentExchange) : Prop :=
  ∀ id,
    (t.get id = none → account id past = none ∧ executions id past = 0) ∧
    ∀ r, t.get id = some r → ∃ a, account id past = some a ∧ r.maxCommands = a.limit ∧
      a.used ≤ r.commandsExecuted ∧ r.commandsExecuted ≤ r.maxCommands

theorem account_concat :
    account id (past ++ [x]) = accountStep id (account id past) x := by
  rw [account, foldl_append]
  rfl

theorem executions_concat :
    executions id (past ++ [x]) = executions id past + if executedOk id x then 1 else 0 := by
  rw [executions, countP_append, countP_singleton]
  rfl

/-- The update keeps a row's limit and counts at most up to it. -/
theorem IntentEntry.count_spec (r : IntentEntry) (hle : r.commandsExecuted ≤ r.maxCommands) :
    r.count.maxCommands = r.maxCommands ∧ r.commandsExecuted ≤ r.count.commandsExecuted ∧
      r.count.commandsExecuted ≤ r.maxCommands ∧
      (r.hasBudget = true → r.count.commandsExecuted = r.commandsExecuted + 1) := by
  unfold IntentEntry.count
  by_cases hl : r.hasBudget = true
  · have hlt : r.commandsExecuted < r.maxCommands := by simpa [IntentEntry.hasBudget] using hl
    rw [if_pos hl]
    exact ⟨rfl, by simp, Int.add_one_le_iff.mpr hlt, fun _ => rfl⟩
  · rw [if_neg hl]
    exact ⟨rfl, Int.le_refl _, hle, fun h => absurd h hl⟩

/-- **One request keeps the table in agreement with the accounts.** -/
theorem budgeted_step {t : IntentTable} (hb : Budgeted t past) (call : IntentCall) :
    Budgeted (handleIntent C h chainEnabled t call).1
      (past ++ [(call, (handleIntent C h chainEnabled t call).2)]) := by
  intro id
  rw [account_concat, executions_concat]
  obtain ⟨hnone, hsome⟩ := hb id
  rcases @handleIntent_cases C h chainEnabled t call with
    ⟨hsame, hstored, hexec⟩ | ⟨req, seq, env, entry, rfl, hres, hmax, hzero⟩ |
    ⟨i, env, rfl, hres, hok⟩
  · rw [hsame, accountStep_eq (hstored id), hexec id]
    simpa using ⟨hnone, hsome⟩
  · rw [hres, Rows.get_put]
    by_cases hid : id = req.intentId
    · subst hid
      rw [if_pos rfl]
      refine ⟨fun hn => (nomatch hn), ?_⟩
      rintro r ⟨⟩
      exact ⟨⟨req.maxCommands.val, 0⟩, if_pos rfl, hmax, by simp [hzero], by rw [hzero, hmax]; omega⟩
    · rw [if_neg hid, accountStep, if_neg (fun he => hid he.symm)]
      simpa [executedOk] using ⟨hnone, hsome⟩
  · rw [hres, Rows.get_modify]
    generalize (handleIntent C h chainEnabled t (.execute i, env)).2 = answer at hok ⊢
    have hstored : ∀ limit, ¬ StoredWith id limit ((.execute i, env), answer) := by
      rintro limit ⟨_, _, _, _, hx, -⟩
      cases hx
    rw [accountStep_eq hstored]
    by_cases hid : id = i
    · subst hid
      rw [if_pos rfl]
      -- an OK answer is one execution, on a row that had commands left
      have hbudget : executedOk id ((.execute id, env), answer) = true →
          ∃ r, t.get id = some r ∧ r.hasBudget = true := by
        intro hx
        cases answer with
        | error err => cases hx
        | ok entry => exact hok entry rfl
      constructor
      · intro hn
        have hn : t.get id = none := by simpa using hn
        have hnot : executedOk id ((.execute id, env), answer) = false := by
          by_contra hx
          obtain ⟨r, hr, -⟩ := hbudget (by simpa using hx)
          rw [hn] at hr
          cases hr
        simp [hnone hn, hnot]
      · intro r' hr'
        obtain ⟨r, hr, rfl⟩ := Option.map_eq_some_iff.mp hr'
        obtain ⟨a, ha, hlimit, hused, hle⟩ := hsome r hr
        obtain ⟨hmax, hkept, hbound, hcounted⟩ := r.count_spec hle
        rw [ha]
        refine ⟨_, rfl, hmax.trans hlimit, ?_, hmax.symm ▸ hbound⟩
        cases hx : executedOk id ((.execute id, env), answer) with
        | false =>
          simp only [Bool.false_eq_true, if_false, Nat.add_zero]
          omega
        | true =>
          obtain ⟨r₀, hr₀, hl⟩ := hbudget hx
          obtain rfl := Option.mem_unique hr hr₀
          simp only [if_true, Nat.cast_add, Nat.cast_one, hcounted hl]
          omega
    · have hnot : ∀ answer, executedOk id ((.execute i, env), answer) = false := by
        intro answer
        cases answer with
        | error err => rfl
        | ok entry => simpa [executedOk] using fun he => hid he.symm
      rw [if_neg hid, hnot]
      simpa using ⟨hnone, hsome⟩

/-- The table after any run of requests agrees with the accounts. -/
theorem budgeted_run (calls : List IntentCall) :
    Budgeted (Machine.final (handleIntent C h chainEnabled) .empty calls)
      (Machine.trace (handleIntent C h chainEnabled) .empty calls) := by
  have h0 : Budgeted .empty [] := fun id => ⟨fun _ => ⟨rfl, rfl⟩, fun r hr => (nomatch hr)⟩
  exact Machine.invariant h0 (fun _ _ call hb => budgeted_step hb call) calls

/-- **The executions on an intent stay within its budget.**  In every run of intent requests, with
any of them failing, the executions that returned OK since an intent was last stored are at most the
commands it was then stored with; and if it is stored once, all of them are. -/
theorem executions_within_budget (C : Crypto) (h : Handle) (chainEnabled : Bool)
    (calls : List IntentCall) (id : Field 128) {limit : Nat} {x : IntentExchange}
    {before after : List IntentExchange}
    (hrun : Machine.trace (handleIntent C h chainEnabled) .empty calls = before ++ x :: after)
    (hx : StoredWith id limit x) (hlast : ∀ y ∈ after, ∀ limit, ¬ StoredWith id limit y) :
    executions id after ≤ limit ∧
    ((∀ y ∈ before, ∀ limit, ¬ StoredWith id limit y) →
      executions id (before ++ x :: after) ≤ limit) := by
  have hbound : ∀ {t : IntentTable} {past : List IntentExchange} {a : IntentAccount},
      Budgeted t past → account id past = some a → a.used ≤ a.limit := by
    intro t past a hb ha
    obtain ⟨hnone, hsome⟩ := hb id
    cases hr : t.get id with
    | none =>
      rw [(hnone hr).1] at ha
      cases ha
    | some r =>
      obtain ⟨a', ha', hlimit, hused, hle⟩ := hsome r hr
      obtain rfl := Option.some.inj (ha.symm.trans ha')
      omega
  have hafter : executions id after ≤ limit := by
    have hb := @budgeted_run C h chainEnabled calls
    rw [hrun] at hb
    exact hbound hb (account_append hx hlast)
  refine ⟨hafter, fun hfirst => ?_⟩
  -- what comes before the first store executes nothing
  obtain ⟨calls₁, calls₂, -, hbefore, -⟩ := Machine.trace_eq_append.mp hrun
  have hb := @budgeted_run C h chainEnabled calls₁
  rw [hbefore] at hb
  have haccount : account id before = none := foldl_accountStep hfirst none
  have hzero : executions id before = 0 := by
    obtain ⟨hnone, hsome⟩ := hb id
    cases hr : (Machine.final (handleIntent C h chainEnabled) .empty calls₁).get id with
    | none => exact (hnone hr).2
    | some r =>
      obtain ⟨a, ha, -⟩ := hsome r hr
      rw [haccount] at ha
      cases ha
  have hnot : executedOk id x = false := by
    obtain ⟨req, seq, env, entry, rfl, -⟩ := hx
    rfl
  simpa [executions, countP_append, countP_cons, hnot, hzero] using
    show executions id before + executions id after ≤ limit by omega

namespace Sample

/-- An intent of one command that expires at 100. -/
def oneCommand : IntentStoreRequest where
  intentId := .copy 128 (text "i1")
  intentHash := .copy 65 (text "00")
  confidence := .copy 16 (text "high")
  expiresAtNs := 100
  maxCommands := 1
  intentJson := .copy 4096 (text "[]")
  proposedActions := .copy 2048 (text "[]")
  constraints := .empty 512

/-- Nothing fails, at a time. -/
def intentEnv (now : Int) : IntentEnv := ⟨now, false, false, false⟩

/-- The daemon that keeps the intents. -/
def intentHandle : Handle where
  nodeId := 1
  orgId := .copy 64 (text "local")
  orgId_plain := plain_local
  chainKey := List.replicate 32 0x0b
  haveChainKey := true
  readOnly := false
  signSeed := none
  nativeEpoch := .empty 17
  verifyPub := none
  legacyNoHeads := false
  entrySigCols := false
  headSigCols := false

def intentCrypto : Crypto := .known [] [] [] []

def storeAt (now : Int) : IntentCall := (.store oneCommand 1, intentEnv now)

def executeAt (now : Int) : IntentCall := (.execute oneCommand.intentId, intentEnv now)

/-- The exchanges of a run of the daemon. -/
def intentRun (calls : List IntentCall) : List IntentExchange :=
  Machine.trace (handleIntent intentCrypto intentHandle true) .empty calls

end Sample

open Sample in
/-- The one command of the intent is executed once, however often it is asked for. -/
theorem executions_within_budget_once :
    executions oneCommand.intentId (intentRun [storeAt 50, executeAt 60, executeAt 70]) = 1 ∧
    executions oneCommand.intentId (intentRun [storeAt 50, executeAt 60, executeAt 70]) ≤ 1 := by
  refine ⟨by decide +kernel, ?_⟩
  obtain ⟨x, after, hrun, hx, hlast⟩ : ∃ x after,
      intentRun [storeAt 50, executeAt 60, executeAt 70] = [] ++ x :: after ∧
      StoredWith oneCommand.intentId 1 x ∧
      ∀ y ∈ after, ∀ limit, ¬ StoredWith oneCommand.intentId limit y := by
    refine ⟨_, _, rfl, ⟨oneCommand, 1, intentEnv 50, _, rfl, rfl, rfl⟩, ?_⟩
    rintro y hy limit ⟨req, seq, env, entry, rfl, -⟩
    have hreq : (Machine.trace (handleIntent intentCrypto intentHandle true)
        (handleIntent intentCrypto intentHandle true .empty (storeAt 50)).1
        [executeAt 60, executeAt 70]).map (·.1.1) =
          [.execute oneCommand.intentId, .execute oneCommand.intentId] := rfl
    have hmem := mem_map_of_mem (f := fun x : IntentExchange => x.1.1) hy
    rw [hreq] at hmem
    simp at hmem
  rw [hrun]
  exact (executions_within_budget intentCrypto intentHandle true _ _ hrun hx hlast).2 (by simp)

open Sample in
/-- **Storing again, and executing late.**  An intent of one command is stored, executed, stored
again and executed again, the second time after it has expired: both executions return OK. -/
theorem stored_again_and_executed_late :
    executions oneCommand.intentId
      (intentRun [storeAt 50, executeAt 60, storeAt 70, executeAt 200]) = 2 ∧
    oneCommand.maxCommands.val = 1 ∧
    (∀ x ∈ (intentRun [storeAt 50, executeAt 60, storeAt 70, executeAt 200]).getLast?,
      x.1.2.now = 200 ∧ executedOk oneCommand.intentId x = true) ∧
    oneCommand.expiresAtNs.val < 200 := by
  decide +kernel

end Virp
