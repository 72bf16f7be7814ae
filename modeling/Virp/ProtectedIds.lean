import Mathlib.Data.Set.Basic
import Virp.Library.Machine
import Virp.LinuxGate

/-! # The registries of protected ids

The Linux driver keeps the Proxmox guests that no command may touch, the Wazuh driver the agents.
Both are filled by the device loader, one list of a device after the other, and hold at most 64 ids.
A list is read as a whole before any of it is registered.  Registering it is one id after the other,
and stops where the table is full.
-/
namespace Virp

open Machine List

theorem length_behindDigits_lt {p : Bytes} (h : p.takeWhile isDigit ≠ []) :
    ((p.dropWhile isDigit).dropWhile (· == 0x20)).length < p.length := by
  have hsplit := congrArg List.length (takeWhile_append_dropWhile (p := isDigit) (l := p))
  have hpos := length_pos_iff.mpr h
  have hle := (dropWhile_suffix (l := p.dropWhile isDigit) (· == (0x20 : UInt8))).length_le
  rw [length_append] at hsplit
  omega

/-- The loop over `csv` that fills `parsed`. -/
def idsLoop (max : Nat) (csv : Bytes) (parsed : List Nat) : Option (List Nat) :=
  let p := csv.dropWhile fun c => c == 0x20 || c == 0x2C
  let digits := p.takeWhile isDigit
  let rest := (p.dropWhile isDigit).dropWhile (· == 0x20)
  if p = [] then some parsed
  else if _h : digits = [] then none
  else if 0xFFFFFFFF < Decimal.natOf digits then none
  else if rest.head?.any (· != 0x2C) then none
  else if max ≤ parsed.length then none
  else idsLoop max rest (parsed ++ [Decimal.natOf digits])
termination_by csv.length
decreasing_by
  exact (length_behindDigits_lt _h).trans_le (List.dropWhile_suffix _).length_le

/-- The ids of a list; a missing or empty one declares nothing. -/
def idsGiven (max : Nat) (csv : Option Bytes) : Option (List Nat) :=
  if csv.getD [] = [] then some [] else idsLoop max (csv.getD []) []

/-- The loop that registers `parsed`, and whether it gets to the end. -/
def mergeIds (max : Nat) : List Nat → List Nat → List Nat × Bool
  | [], ids => (ids, true)
  | v :: parsed, ids =>
    if ids.contains v then mergeIds max parsed ids
    else if max ≤ ids.length then (ids, false)
    else mergeIds max parsed (ids ++ [v])

/-- `LINUX_PROTECTED_VMID_MAX` and `WZ_PROTECTED_AGENT_MAX`. -/
def protectedMax : Nat := 64

/-- `linux_gate_set_protected_vmids`, and whether it returns 0. -/
def linuxGateSetProtectedVmids (G : GuestSet) (csv : Option Bytes) : GuestSet × Bool :=
  if csv.getD [] = [] then (G, true)
  else match idsGiven protectedMax csv with
    | none => (G, false)
    | some parsed =>
      match mergeIds protectedMax parsed G.vmids with
      | (vmids, true) => (⟨true, vmids⟩, true)
      | (vmids, false) => ({ G with vmids := vmids }, false)

/-- `wazuh_gate_set_protected_agents`, and whether it returns 0. -/
def wazuhGateSetProtectedAgents (agents : List Nat) (csv : Option Bytes) : List Nat × Bool :=
  match idsGiven protectedMax csv with
  | none => (agents, false)
  | some parsed => mergeIds protectedMax parsed agents

/-- A call that registers a list, or the clearing of a registry. -/
inductive RegistryCall where
  | set (csv : Option Bytes)
  | clear

def linuxRegistry (G : GuestSet) : RegistryCall → GuestSet × Bool
  | .set csv => linuxGateSetProtectedVmids G csv
  | .clear => (⟨false, []⟩, true)

def wazuhRegistry (agents : List Nat) : RegistryCall → List Nat × Bool
  | .set csv => wazuhGateSetProtectedAgents agents csv
  | .clear => ([], true)

/-- The ids of a list that are new, without repetitions. -/
def newIds : List Nat → List Nat → List Nat
  | [], _ => []
  | v :: parsed, ids =>
    if ids.contains v then newIds parsed ids else v :: newIds parsed (ids ++ [v])

theorem mem_newIds (parsed ids : List Nat) (v : Nat) :
    v ∈ ids ++ newIds parsed ids ↔ v ∈ ids ∨ v ∈ parsed := by
  fun_induction newIds parsed ids with
  | case1 ids => simp
  | case2 u parsed ids hmem ih =>
    rw [ih, mem_cons]
    have hu : u ∈ ids := by simpa using hmem
    constructor
    · rintro (h | h)
      · exact .inl h
      · exact .inr (.inr h)
    · rintro (h | rfl | h)
      · exact .inl h
      · exact .inl hu
      · exact .inr h
  | case3 u parsed ids hmem ih =>
    rw [append_cons, ih]
    simp [or_assoc]

theorem nodup_newIds {ids : List Nat} (parsed : List Nat) (h : ids.Nodup) :
    (ids ++ newIds parsed ids).Nodup := by
  fun_induction newIds parsed ids with
  | case1 ids => simpa using h
  | case2 u parsed ids hmem ih => exact ih h
  | case3 u parsed ids hmem ih =>
    rw [append_cons]
    exact ih (nodup_append.mpr ⟨h, by simp, by grind⟩)

/-- **The loop adds the new ids in order, as many as there is room for.** -/
theorem mergeIds_eq {max : Nat} {ids : List Nat} (parsed : List Nat) (h : ids.length ≤ max) :
    mergeIds max parsed ids =
      ((ids ++ newIds parsed ids).take max, decide ((ids ++ newIds parsed ids).length ≤ max)) := by
  fun_induction newIds parsed ids with
  | case1 ids => simp [mergeIds, h, take_of_length_le]
  | case2 u parsed ids hmem ih => rw [mergeIds, if_pos hmem, ih h]
  | case3 u parsed ids hmem ih =>
    rw [mergeIds, if_neg hmem]
    by_cases hfull : max ≤ ids.length
    · have hlen : ¬ (ids ++ u :: newIds parsed (ids ++ [u])).length ≤ max := by
        simp only [length_append, length_cons]
        omega
      rw [if_pos hfull, decide_eq_false hlen, take_append_of_le_length hfull, take_of_length_le h]
    · rw [if_neg hfull, ih (by simp; omega), append_assoc, singleton_append]

/-! ## Runs -/

/-- The ids of the lists given in the successful calls since the last clear. -/
def idsSinceClear (max : Nat) (t : List (RegistryCall × Bool)) : Set Nat :=
  t.foldl (fun ids x => match x with
    | (.clear, _) => ∅
    | (.set csv, true) => ids ∪ {v | v ∈ (idsGiven max csv).getD []}
    | (.set _, false) => ids) ∅

/-- **The registry is exact along a run**: after every part of it the ids are those of the lists
given in the successful calls since the last clear, without repetitions, and a call that fails
changes nothing. -/
structure RegistryExact {S : Type} (step : S → RegistryCall → S × Bool) (ids : S → List Nat) (s : S)
    (calls : List RegistryCall) : Prop where
  nodup : ∀ before, before <+: calls → (ids (final step s before)).Nodup
  union : ∀ before, before <+: calls →
    {v | v ∈ ids (final step s before)} = idsSinceClear protectedMax (trace step s before)
  unchanged : ∀ before c, before ++ [c] <+: calls → (step (final step s before) c).2 = false →
    (step (final step s before) c).1 = final step s before

/-- A list of which all new ids find room, or none because the table is full already. -/
def ListFits (ids : List Nat) : RegistryCall → Prop
  | .set csv => ∀ parsed ∈ idsGiven protectedMax csv,
      (ids ++ newIds parsed ids).length ≤ protectedMax ∨ protectedMax ≤ ids.length
  | .clear => True

/-- What the two drivers have in common. -/
structure Registers {S : Type} (step : S → RegistryCall → S × Bool) (ids : S → List Nat) : Prop where
  clear : ∀ s, ids (step s .clear).1 = []
  done : ∀ s, (step s .clear).2 = true
  refused : ∀ s csv, idsGiven protectedMax csv = none → step s (.set csv) = (s, false)
  merged : ∀ s csv parsed, idsGiven protectedMax csv = some parsed →
    (ids (step s (.set csv)).1, (step s (.set csv)).2) = mergeIds protectedMax parsed (ids s)
  same : ∀ s csv, (step s (.set csv)).2 = false → ids (step s (.set csv)).1 = ids s →
    (step s (.set csv)).1 = s

theorem registers_linux : Registers linuxRegistry GuestSet.vmids where
  clear s := rfl
  done s := rfl
  refused s csv h := by
    have hne : csv.getD [] ≠ [] := fun hnil => by simp [idsGiven, hnil] at h
    rw [linuxRegistry, linuxGateSetProtectedVmids, if_neg hne, h]
  merged s csv parsed h := by
    unfold linuxRegistry linuxGateSetProtectedVmids
    by_cases hnil : csv.getD [] = []
    · rw [idsGiven, if_pos hnil] at h
      cases h
      simp [hnil, mergeIds]
    · simp only [if_neg hnil, h]
      rcases mergeIds protectedMax parsed s.vmids with ⟨vmids, _ | _⟩ <;> rfl
  same s csv hfail hids := by
    revert hfail hids
    unfold linuxRegistry linuxGateSetProtectedVmids
    by_cases hnil : csv.getD [] = []
    · simp [hnil]
    simp only [if_neg hnil]
    cases idsGiven protectedMax csv with
    | none => simp
    | some parsed =>
      dsimp only
      generalize mergeIds protectedMax parsed s.vmids = r
      rcases r with ⟨vmids, _ | _⟩
      · rintro - rfl
        rfl
      · rintro ⟨⟩

theorem registers_wazuh : Registers wazuhRegistry id where
  clear s := rfl
  done s := rfl
  refused s csv h := by rw [wazuhRegistry, wazuhGateSetProtectedAgents, h]
  merged s csv parsed h := by simp [wazuhRegistry, wazuhGateSetProtectedAgents, h]
  same s csv _ hids := hids

section

variable {S : Type} {step : S → RegistryCall → S × Bool} {ids : S → List Nat}

section
variable (h : Registers step ids)
include h

/-- A failed call changes nothing exactly if its list fits. -/
theorem Registers.unchanged_iff {s : S} {c : RegistryCall} (hlen : (ids s).length ≤ protectedMax) :
    ((step s c).2 = false → (step s c).1 = s) ↔ ListFits (ids s) c := by
  cases c with
  | clear => simp [ListFits, h.done]
  | set csv =>
    cases hgiven : idsGiven protectedMax csv with
    | none => simp [ListFits, hgiven, h.refused s csv hgiven]
    | some parsed =>
      have hmerged := h.merged s csv parsed hgiven
      rw [mergeIds_eq parsed hlen, Prod.mk.injEq] at hmerged
      obtain ⟨hids, hok⟩ := hmerged
      simp only [ListFits, hgiven, Option.mem_some_iff, forall_eq']
      constructor
      · intro hsame
        by_contra! hcon
        have hsame := congrArg (fun s => (ids s).length)
          (hsame (hok.trans (decide_eq_false (by omega))))
        simp only [hids, length_take] at hsame
        omega
      · rintro (hfits | hfull) hfail
        · rw [hok, decide_eq_true hfits] at hfail
          cases hfail
        · refine h.same s csv hfail ?_
          rw [hids, take_append_of_le_length hfull, take_of_length_le hlen]

/-- What every run keeps: no repetitions and no more ids than fit. -/
theorem Registers.kept {s : S} (hs : ids s = []) (calls : List RegistryCall) :
    (ids (final step s calls)).Nodup ∧ (ids (final step s calls)).length ≤ protectedMax := by
  refine final_invariant (I := fun s => (ids s).Nodup ∧ (ids s).length ≤ protectedMax)
    (by simp [hs]) (fun s c hI => ?_) calls
  cases c with
  | clear => simp [h.clear]
  | set csv =>
    cases hgiven : idsGiven protectedMax csv with
    | none => rw [h.refused s csv hgiven]; exact hI
    | some parsed =>
      have hmerged := h.merged s csv parsed hgiven
      rw [mergeIds_eq parsed hI.2, Prod.mk.injEq] at hmerged
      rw [hmerged.1]
      exact ⟨(nodup_newIds parsed hI.1).sublist (take_sublist _ _), length_take_le _ _⟩

/-- Where every list fits, the ids are those of the lists registered. -/
theorem Registers.union {s : S} (hs : ids s = []) {calls : List RegistryCall}
    (hfits : Steps step (fun s c => ListFits (ids s) c) s calls) :
    {v | v ∈ ids (final step s calls)} = idsSinceClear protectedMax (trace step s calls) := by
  refine (invariant_of_steps (I := fun s t => (ids s).length ≤ protectedMax ∧
    {v | v ∈ ids s} = idsSinceClear protectedMax t) ⟨by simp [hs], by ext; simp [hs, idsSinceClear]⟩
    (fun s t c hI hok => ?_) hfits).2
  obtain ⟨hlen, hunion⟩ := hI
  simp only [idsSinceClear, foldl_append, foldl_cons, foldl_nil] at hunion ⊢
  rw [← hunion]
  cases c with
  | clear => exact ⟨by simp [h.clear], by ext; simp [h.clear]⟩
  | set csv =>
    cases hgiven : idsGiven protectedMax csv with
    | none => simp [h.refused s csv hgiven, hlen]
    | some parsed =>
      have hmerged := h.merged s csv parsed hgiven
      rw [mergeIds_eq parsed hlen, Prod.mk.injEq] at hmerged
      obtain ⟨hids, hdone⟩ := hmerged
      refine ⟨hids ▸ length_take_le _ _, ?_⟩
      cases hstatus : (step s (.set csv)).2 with
      | false => simp [(h.unchanged_iff hlen).mpr hok hstatus]
      | true =>
        rw [hstatus, eq_comm, decide_eq_true_iff] at hdone
        rw [hids, take_of_length_le hdone]
        ext v
        rw [Set.mem_ofPred_eq, mem_newIds]
        simp [hgiven]

/-- The registry is exact along a run if and only if every list fits. -/
theorem Registers.exact_iff {s : S} (hs : ids s = []) (calls : List RegistryCall) :
    RegistryExact step ids s calls ↔ Steps step (fun s c => ListFits (ids s) c) s calls := by
  constructor
  · intro hexact
    -- the run is taken from its end: its last call is the one to look at
    induction calls using reverseRecOn with
    | nil => exact steps_nil
    | append_singleton before c ih =>
      rw [steps_append]
      have hpre : before <+: before ++ [c] := prefix_append _ _
      refine ⟨ih ⟨fun b hb => hexact.nodup b (hb.trans hpre), fun b hb => hexact.union b (hb.trans hpre),
        fun b d hb => hexact.unchanged b d (hb.trans hpre)⟩, ?_, steps_nil⟩
      exact (h.unchanged_iff (h.kept hs before).2).mp (hexact.unchanged before c prefix_rfl)
  · intro hfits
    refine ⟨fun before _ => (h.kept hs before).1, ?_, ?_⟩
    · rintro before ⟨after, rfl⟩
      exact h.union hs (steps_append.mp hfits).1
    · rintro before c ⟨after, rfl⟩
      rw [append_assoc, steps_append] at hfits
      exact (h.unchanged_iff (h.kept hs before).2).mpr hfits.2.1

end

end

end Virp
