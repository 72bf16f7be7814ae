import Virp.Requests
import Virp.Library.Slots

/-! # The tables of the uids

What a uid may do is decided from three tables: the ceiling of its tier, the actions it may request,
and the artifact types it may append.  The setters write the tables in place.  `UidPolicy` is what
the tables hold, without what is left over in their unused cells; the setters follow it
(`uidStep_policy`), and all that is said of runs is said of it.

The setter of the ceilings refuses a call at the first tier that is no ceiling, with the rows before
it in the table.
-/
namespace Virp

open Slots List

def onodeMaxAllowedUids : Nat := 16

def onodeMaxUidActions : Nat := 32

def onodeMaxUidCappTypes : Nat := 16

/-- The number of an action. -/
def OnodeAction.value : OnodeAction → UInt32
  | .execute => 1 | .health => 2 | .heartbeat => 3 | .list => 4 | .signIntent => 5
  | .signOutcome => 6 | .chainAppend => 7 | .chainVerify => 8 | .intentStore => 9
  | .intentGet => 10 | .intentExecute => 11 | .batchExecute => 12 | .validateTurn => 13
  | .approvalChallenge => 14 | .approvalSubmit => 15 | .chainVerifySession => 16
  | .listFleet => 17 | .listSessions => 18 | .sessionHello => 20 | .sessionBind => 21
  | .sessionClose => 22 | .shutdown => 99

/-- `onode_action_name`, for any number a caller passes. -/
def onodeActionName (action : UInt32) : Bytes :=
  ((onodeActionNames.find? (·.2.value == action)).map Prod.fst).getD (text "unknown")

/-- The fields of an `onode_state_t` that the setters write; an `artifact_type` has 16 bytes. -/
structure UidTables where
  gateMaxTier : Tier
  allowedUids : Slots UInt32 onodeMaxAllowedUids
  uidCeilings : Slots (UInt32 × Tier) onodeMaxAllowedUids
  uidActions : Slots (UInt32 × Slots UInt32 onodeMaxUidActions) onodeMaxAllowedUids
  uidCapps : Slots (UInt32 × Slots (Field 16) onodeMaxUidCappTypes) onodeMaxAllowedUids

/-! ## The setters -/

/-- A tier that can be a ceiling. -/
def isCeiling (row : UInt32 × Tier) : Bool := row.2 = .green ∨ row.2 = .yellow ∨ row.2 = .red

theorem length_takeWhile_le {α : Type} (p : α → Bool) {l : List α} {n : Nat} (h : l.length ≤ n) :
    (l.takeWhile p).length ≤ n := ((List.takeWhile_prefix p).length_le).trans h

variable (t : UidTables)

def onodeSetAllowedUids (uids : List UInt32) : UidTables × Option VirpError :=
  if h : uids.length ≤ onodeMaxAllowedUids then
    ({ t with allowedUids := t.allowedUids.fill uids h }, none)
  else (t, some .messageTooLarge)

def onodeSetUidCeilings (rows : List (UInt32 × Tier)) : UidTables × Option VirpError :=
  if h : rows.length ≤ onodeMaxAllowedUids then
    if rows.all isCeiling then ({ t with uidCeilings := t.uidCeilings.fill rows h }, none)
    -- what the loop has written before it returns; the count is as it was
    else ({ t with uidCeilings :=
      t.uidCeilings.overwrite (rows.takeWhile isCeiling) (length_takeWhile_le isCeiling h) },
      some .invalidType)
  else (t, some .messageTooLarge)

variable (uid : UInt32)

def onodeSetUidActions (actions : List UInt32) : UidTables × Option VirpError :=
  if h : actions.length ≤ onodeMaxUidActions then
    if actions.any (fun a => onodeActionName a == text "unknown") then (t, some .invalidType)
    else match t.uidActions.setRow uid actions h with
      | some uidActions => ({ t with uidActions := uidActions }, none)
      | none => (t, some .messageTooLarge)
  else (t, some .messageTooLarge)

/-- The copies `onode_set_uid_chain_append_types` makes; a null pointer is copied as "". -/
def cappTypes (types : List (Option Bytes)) : List (Field 16) :=
  types.map (fun s => .copy 16 (s.getD []))

def onodeSetUidChainAppendTypes (types : List (Option Bytes)) : UidTables × Option VirpError :=
  if h : (cappTypes types).length ≤ onodeMaxUidCappTypes then
    match t.uidCapps.setRow uid (cappTypes types) h with
    | some uidCapps => ({ t with uidCapps := uidCapps }, none)
    | none => (t, some .messageTooLarge)
  else (t, some .messageTooLarge)

/-- A call of one of the setters. -/
inductive UidCall where
  | allowedUids (uids : List UInt32)
  | uidCeilings (rows : List (UInt32 × Tier))
  | uidActions (uid : UInt32) (actions : List UInt32)
  | uidChainAppendTypes (uid : UInt32) (types : List (Option Bytes))

/-- One call: the tables it leaves, and its error. -/
def uidStep : UidCall → UidTables × Option VirpError
  | .allowedUids uids => onodeSetAllowedUids t uids
  | .uidCeilings rows => onodeSetUidCeilings t rows
  | .uidActions uid actions => onodeSetUidActions t uid actions
  | .uidChainAppendTypes uid types => onodeSetUidChainAppendTypes t uid types

def onodeUidRequestRefused (uid action : UInt32) : Bool :=
  if uid = internalUid then true
  else match t.uidActions.items.find? (·.1 == uid) with
    | some row => !row.2.items.contains action
    | none => false

def onodeUidHasCappPolicy : Bool :=
  t.uidCapps.items.any (·.1 == uid)

def onodeUidCappTypeAllowed (artifactType : Field 16) : Bool :=
  match t.uidCapps.items.find? (·.1 == uid) with
  | some row => row.2.items.contains artifactType
  | none => false

/-- What is decided of a uid. -/
structure UidDecisions where
  maxTier : UInt32 → Tier
  /-- the uid may not request the action -/
  requestRefused : UInt32 → UInt32 → Bool
  /-- `chain_append` refuses the uid the artifact type -/
  typeRefused : UInt32 → Field 16 → Bool

/-- The decisions as the tables are read. -/
def UidTables.decisions : UidDecisions where
  maxTier := onodeEffectiveMaxTier t.gateMaxTier t.uidCeilings.items
  requestRefused := onodeUidRequestRefused t
  typeRefused uid type := onodeUidHasCappPolicy t uid && !onodeUidCappTypeAllowed t uid type

/-- What a setter is for: the decisions of one uid are those of the call, and setting ceilings
replaces them for all.  `(uid_t)-1` stands for no uid, and stays without any action. -/
def UidDecisions.set (gateMaxTier : Tier) (d : UidDecisions) : UidCall → UidDecisions
  | .allowedUids _ => d
  | .uidCeilings rows => { d with maxTier := onodeEffectiveMaxTier gateMaxTier rows }
  | .uidActions uid actions =>
    { d with requestRefused := fun u action =>
        if u = uid ∧ u ≠ internalUid then !actions.contains action else d.requestRefused u action }
  | .uidChainAppendTypes uid types =>
    { d with typeRefused := fun u type =>
        if u = uid then !(cappTypes types).contains type else d.typeRefused u type }

/-- The tables as lists. -/
structure UidPolicy where
  gateMaxTier : Tier
  allowedUids : List UInt32
  ceilings : List (UInt32 × Tier)
  actions : List (UInt32 × List UInt32)
  types : List (UInt32 × List (Field 16))

def UidTables.policy : UidPolicy where
  gateMaxTier := t.gateMaxTier
  allowedUids := t.allowedUids.items
  ceilings := t.uidCeilings.items
  actions := t.uidActions.rows
  types := t.uidCapps.rows

/-- The setters, on lists. -/
def UidPolicy.step (p : UidPolicy) : UidCall → UidPolicy × Option VirpError
  | .allowedUids uids =>
    if uids.length ≤ onodeMaxAllowedUids then ({ p with allowedUids := uids }, none)
    else (p, some .messageTooLarge)
  | .uidCeilings rows =>
    if rows.length ≤ onodeMaxAllowedUids then
      if rows.all isCeiling then ({ p with ceilings := rows }, none)
      else
        let written := rows.takeWhile isCeiling
        ({ p with ceilings :=
          written.take p.ceilings.length ++ p.ceilings.drop written.length }, some .invalidType)
    else (p, some .messageTooLarge)
  | .uidActions uid actions =>
    if actions.length ≤ onodeMaxUidActions then
      if actions.any (fun a => onodeActionName a == text "unknown") then (p, some .invalidType)
      else match upsertWithin onodeMaxAllowedUids uid actions p.actions with
        | some rows => ({ p with actions := rows }, none)
        | none => (p, some .messageTooLarge)
    else (p, some .messageTooLarge)
  | .uidChainAppendTypes uid types =>
    if (cappTypes types).length ≤ onodeMaxUidCappTypes then
      match upsertWithin onodeMaxAllowedUids uid (cappTypes types) p.types with
      | some rows => ({ p with types := rows }, none)
      | none => (p, some .messageTooLarge)
    else (p, some .messageTooLarge)

/-- **The setters** do to the tables what they do to the lists. -/
theorem uidStep_policy (call : UidCall) :
    ((uidStep t call).1.policy, (uidStep t call).2) = t.policy.step call := by
  cases call with
  | allowedUids uids =>
    simp only [uidStep, onodeSetAllowedUids, UidPolicy.step]
    split_ifs
    · simp [UidTables.policy]
    · rfl
  | uidCeilings rows =>
    simp only [uidStep, onodeSetUidCeilings, UidPolicy.step]
    split_ifs
    · simp [UidTables.policy]
    · simp [UidTables.policy, items_overwrite, length_items]
    · rfl
  | uidActions uid actions =>
    simp only [uidStep, onodeSetUidActions, UidPolicy.step]
    split_ifs with hlen hknown
    · rfl
    · have hrow := t.uidActions.setRow_eq uid actions hlen
      change _ = upsertWithin _ _ _ t.policy.actions at hrow
      rw [← hrow]
      cases t.uidActions.setRow uid actions hlen with
      | none => rfl
      | some uidActions => rfl
    · rfl
  | uidChainAppendTypes uid types =>
    simp only [uidStep, onodeSetUidChainAppendTypes, UidPolicy.step]
    split_ifs with hlen
    · have hrow := t.uidCapps.setRow_eq uid (cappTypes types) hlen
      change _ = upsertWithin _ _ _ t.policy.types at hrow
      rw [← hrow]
      cases t.uidCapps.setRow uid (cappTypes types) hlen with
      | none => rfl
      | some uidCapps => rfl
    · rfl

/-- The decisions as the lists are read. -/
def UidPolicy.decisions (p : UidPolicy) : UidDecisions where
  maxTier := onodeEffectiveMaxTier p.gateMaxTier p.ceilings
  requestRefused uid action :=
    uid == internalUid || ((valueOf p.actions uid).map (fun set => !set.contains action)).getD false
  typeRefused uid type := ((valueOf p.types uid).map (fun set => !set.contains type)).getD false

theorem valueOf_rows {α : Type} {n m : Nat} (s : Slots (UInt32 × Slots α m) n) (uid : UInt32) :
    valueOf s.rows uid = (s.items.find? (·.1 == uid)).map (fun row => row.2.items) := by
  rw [valueOf, rows, find?_map, Option.map_map]
  rfl

theorem UidTables.decisions_eq : t.decisions = t.policy.decisions := by
  have hrequest : ∀ uid action, onodeUidRequestRefused t uid action =
      t.policy.decisions.requestRefused uid action := by
    intro uid action
    simp only [UidPolicy.decisions, policy, valueOf_rows, onodeUidRequestRefused]
    by_cases huid : uid = internalUid
    · simp [huid]
    · cases t.uidActions.items.find? (·.1 == uid) with
      | none => simp [huid]
      | some row => simp [huid]
  have htype : ∀ uid type, (onodeUidHasCappPolicy t uid && !onodeUidCappTypeAllowed t uid type) =
      t.policy.decisions.typeRefused uid type := by
    intro uid type
    simp only [UidPolicy.decisions, policy, valueOf_rows, onodeUidHasCappPolicy,
      onodeUidCappTypeAllowed, ← isSome_find?]
    cases t.uidCapps.items.find? (·.1 == uid) with
    | none => rfl
    | some row => simp
  simp only [decisions, UidPolicy.decisions, UidDecisions.mk.injEq]
  exact ⟨rfl, funext₂ hrequest, funext₂ htype⟩

/-! ## Runs of calls -/

section
variable {p : UidPolicy} {call : UidCall}

/-- A call that succeeds sets the decisions it is for. -/
theorem UidPolicy.decisions_step (h : (p.step call).2 = none) :
    (p.step call).1.decisions = p.decisions.set p.gateMaxTier call := by
  cases call with
  | allowedUids uids =>
    simp only [step] at h ⊢
    split_ifs at h ⊢
    rfl
  | uidCeilings rows =>
    simp only [step] at h ⊢
    split_ifs at h ⊢
    rfl
  | uidActions uid actions =>
    simp only [step, upsertWithin] at h ⊢
    split_ifs at h ⊢
    simp only [decisions, UidDecisions.set, valueOf_upsert, UidDecisions.mk.injEq, true_and, and_true]
    funext u action
    by_cases hu : u = uid
    · subst hu
      by_cases hint : u = internalUid
      · simp [hint]
      · simp [hint]
    · simp [hu]
  | uidChainAppendTypes uid types =>
    simp only [step, upsertWithin] at h ⊢
    split_ifs at h ⊢
    simp only [decisions, UidDecisions.set, valueOf_upsert, UidDecisions.mk.injEq, true_and]
    funext u type
    by_cases hu : u = uid <;> simp [hu]

/-- A call for ceilings that is refused for a tier has, before that row, only rows that the table
has at the same places. -/
def UidPolicy.Keeps (p : UidPolicy) : UidCall → Prop
  | .uidCeilings rows => rows.length ≤ onodeMaxAllowedUids → rows.all isCeiling = false →
    (rows.takeWhile isCeiling).take p.ceilings.length <+: p.ceilings
  | _ => True

/-- Overwriting the front of a list with what stands there leaves it. -/
theorem overwrite_of_isPrefix {α : Type} {xs l : List α} (h : xs.take l.length <+: l) :
    xs.take l.length ++ l.drop xs.length = l := by
  obtain ⟨rest, hrest⟩ := h
  by_cases hlen : xs.length ≤ l.length
  · rw [take_of_length_le hlen] at hrest ⊢
    rw [← hrest, drop_left]
  have hdrop : l.drop xs.length = [] := drop_eq_nil_of_le (by omega)
  have hnil : rest = [] := by
    have := congrArg List.length hrest
    rw [length_append, length_take, Nat.min_eq_left (by omega)] at this
    exact eq_nil_of_length_eq_zero (by omega)
  rw [hdrop, ← hnil, hrest]

/-- A call that fails leaves the lists, if it keeps the ceilings. -/
theorem UidPolicy.step_of_error (hkeeps : p.Keeps call) (h : (p.step call).2 ≠ none) :
    (p.step call).1 = p := by
  cases call with
  | allowedUids uids =>
    simp only [step] at h ⊢
    split_ifs at h ⊢ with hlen
    · exact absurd rfl h
    · rfl
  | uidCeilings rows =>
    simp only [step] at h ⊢
    split_ifs at h ⊢ with hlen hall
    · exact absurd rfl h
    · simp only [overwrite_of_isPrefix (hkeeps hlen (Bool.eq_false_iff.mpr hall))]
    · rfl
  | uidActions uid actions =>
    simp only [step, upsertWithin] at h ⊢
    split_ifs at h ⊢
    · rfl
    · exact absurd rfl h
    · rfl
    · rfl
  | uidChainAppendTypes uid types =>
    simp only [step, upsertWithin] at h ⊢
    split_ifs at h ⊢
    · exact absurd rfl h
    · rfl
    · rfl

/-- What the tables hold after a run depends on what they held before it. -/
theorem policy_final {s t : UidTables} (h : s.policy = t.policy) (calls : List UidCall) :
    (Machine.final uidStep s calls).policy = (Machine.final uidStep t calls).policy := by
  induction calls generalizing s t with
  | nil => exact h
  | cons call calls ih =>
    refine ih ?_
    have hs := congrArg Prod.fst (uidStep_policy s call)
    have ht := congrArg Prod.fst (uidStep_policy t call)
    exact hs.trans ((congrArg (fun p => (UidPolicy.step p call).1) h).trans ht.symm)

end

/-- **The decisions along a run.**  In every run of calls that keep the ceilings, a call that fails
leaves every decision, also those after any further calls, and one that succeeds sets the decisions
it is for and no others. -/
theorem uid_decisions_of_run (before after : List UidCall) (call : UidCall)
    (h : Machine.Steps uidStep (fun s c => s.policy.Keeps c) t (before ++ call :: after)) :
    let s := Machine.final uidStep t before
    ((uidStep s call).2 ≠ none → ∀ later,
      (Machine.final uidStep (uidStep s call).1 later).decisions =
        (Machine.final uidStep s later).decisions) ∧
    ((uidStep s call).2 = none →
      (uidStep s call).1.decisions = s.decisions.set s.gateMaxTier call) := by
  intro s
  have hkeeps : s.policy.Keeps call := (Machine.steps_append.mp h).2.1
  have hstep := uidStep_policy s call
  have hpolicy : (uidStep s call).1.policy = (s.policy.step call).1 := congrArg Prod.fst hstep
  have herr : (uidStep s call).2 = (s.policy.step call).2 := congrArg Prod.snd hstep
  constructor
  · intro hfailed later
    have hsame : (uidStep s call).1.policy = s.policy := by
      rw [hpolicy]
      exact UidPolicy.step_of_error hkeeps (herr ▸ hfailed)
    rw [UidTables.decisions_eq, UidTables.decisions_eq, policy_final hsame]
  · intro hdone
    rw [UidTables.decisions_eq, UidTables.decisions_eq, hpolicy]
    exact UidPolicy.decisions_step (herr ▸ hdone)

/-- Tables with nothing in use. -/
def blankUidTables : UidTables where
  gateMaxTier := .yellow
  allowedUids := .blank _ 0
  uidCeilings := .blank _ (0, .unclassified)
  uidActions := .blank _ (0, .blank _ 0)
  uidCapps := .blank _ (0, .blank _ (.empty 16))

theorem uid_decisions_of_run_sample :
    (Machine.final uidStep blankUidTables
        [.uidCeilings [(1000, .red)], .uidActions 1000 [1]]).decisions.requestRefused 1000 2 =
      true := by
  have hkeeps : Machine.Steps uidStep (fun s c => s.policy.Keeps c) blankUidTables
      ([.uidCeilings [(1000, .red)]] ++ .uidActions 1000 [1] :: []) := by
    refine ⟨fun _ hall => ?_, trivial, trivial⟩
    exact absurd hall (by decide)
  have hset := (uid_decisions_of_run blankUidTables [.uidCeilings [(1000, .red)]] []
    (.uidActions 1000 [1]) hkeeps).2 (by decide +kernel)
  exact (congrFun (congrFun (congrArg UidDecisions.requestRefused hset) 1000) 2).trans
    (by decide +kernel)

/-- A call that is refused for its second row has lowered the ceiling of its first. -/
theorem refused_ceilings_written :
    let s := (uidStep blankUidTables (.uidCeilings [(1000, .red)])).1
    let call := UidCall.uidCeilings [(1000, .green), (1001, .black)]
    (uidStep s call).2 = some .invalidType ∧ s.decisions.maxTier 1000 = .red ∧
      (uidStep s call).1.decisions.maxTier 1000 = .green := by
  decide +kernel

end Virp
