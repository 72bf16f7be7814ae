import Virp.Approval
import Virp.Library.Machine
import Virp.Library.Slots

/-! # The registered devices

A device is copied into the slot behind the registered ones before anything is checked; it is
registered when the count is raised, and that is the last thing a call does.  Requests name a device
by its hostname and approvals bind its node id: both are unique among the registered devices, so
they cannot name different ones (`registered_identities`).
-/
namespace Virp

open List

def onodeMaxDevices : Nat := 64

/-- `devices` and `device_count` of an `onode_state_t`; the registered devices are the items. -/
abbrev DeviceSlots := Slots Device onodeMaxDevices

/-- A slot of zero bytes. -/
def zeroDevice : Device where
  hostname := .empty 64
  host := .empty 256
  port := 0
  username := .empty 64
  vendor := .unknown
  nodeId := 0
  deviceId := 0
  enabled := false

def virpDeviceIdFromHostname (C : Crypto) (hostname : Bytes) : UInt64 :=
  ((C.sha256 hostname).bytes.take 8).foldl (fun id b => (id <<< 8) ||| b.toUInt64) 0

/-- The identity in which a new device repeats a registered one. -/
def duplicateField (ed nd : Device) : Option Bytes :=
  if ed.hostname.bytes = nd.hostname.bytes then some (text "hostname")
  else if ed.nodeId = nd.nodeId then some (text "node_id")
  else if ed.deviceId = nd.deviceId then some (text "device_id")
  else none

def onodeAddDevice (C : Crypto) (s : DeviceSlots) (device : Device) :
    DeviceSlots × Option VirpError :=
  if h : s.count < onodeMaxDevices then
    let nd := if device.deviceId = 0 then
      { device with deviceId := virpDeviceIdFromHostname C device.hostname.bytes } else device
    let s' := s.modify s.count (fun _ => nd)
    if nd.nodeId = 0 then (s', some .duplicateDevice)
    else if s'.items.any (fun ed => (duplicateField ed nd).isSome) then (s', some .duplicateDevice)
    else (s'.extend h, none)
  else (s, some .messageTooLarge)

/-- Two devices that differ in all three identities. -/
structure Device.Apart (a b : Device) : Prop where
  hostname : a.hostname.bytes ≠ b.hostname.bytes
  nodeId : a.nodeId ≠ b.nodeId
  deviceId : a.deviceId ≠ b.deviceId

theorem duplicateField_eq_none {a b : Device} (h : duplicateField a b = none) : a.Apart b := by
  unfold duplicateField at h
  split_ifs at h with hname hnode hid
  exact ⟨hname, hnode, hid⟩

/-! ## Runs of additions -/

section
variable {C : Crypto} {s : DeviceSlots} {device : Device}

/-- What an addition can do: it is refused, and the registered devices stay; or it registers one
device, with a node id and apart from the others. -/
theorem onodeAddDevice_cases (C : Crypto) (s : DeviceSlots) (device : Device) :
    ((onodeAddDevice C s device).2 ≠ none ∧ (onodeAddDevice C s device).1.items = s.items) ∨
    ((onodeAddDevice C s device).2 = none ∧ ∃ nd : Device, nd.nodeId ≠ 0 ∧
      (∀ d ∈ s.items, d.Apart nd) ∧ (onodeAddDevice C s device).1.items = s.items ++ [nd]) := by
  unfold onodeAddDevice
  split
  · rename_i hcount
    dsimp only
    generalize (if device.deviceId = 0 then _ else device : Device) = nd
    split_ifs with hnode hdup
    · exact .inl ⟨by simp, s.items_modify_count _⟩
    · exact .inl ⟨by simp, s.items_modify_count _⟩
    obtain ⟨-, -, hitems⟩ := s.items_extend (fun _ => nd) hcount
    refine .inr ⟨rfl, nd, hnode, ?_, hitems⟩
    intro d hd
    rw [s.items_modify_count, any_eq_true] at hdup
    refine duplicateField_eq_none (Option.not_isSome_iff_eq_none.mp ?_)
    exact fun hsome => hdup ⟨d, hd, hsome⟩
  · exact .inl ⟨by simp, rfl⟩

theorem items_of_refused (h : (onodeAddDevice C s device).2 ≠ none) :
    (onodeAddDevice C s device).1.items = s.items := by
  rcases onodeAddDevice_cases C s device with ⟨-, heq⟩ | ⟨hnone, -⟩
  · exact heq
  · exact absurd hnone h

/-- The registered devices have node ids, and differ in all three identities. -/
structure Identified (s : DeviceSlots) : Prop where
  apart : s.items.Pairwise Device.Apart
  nodeId_ne : ∀ d ∈ s.items, d.nodeId ≠ 0

/-- An addition keeps the identities apart. -/
theorem Identified.add (h : Identified s) (C : Crypto) (device : Device) :
    Identified (onodeAddDevice C s device).1 := by
  rcases onodeAddDevice_cases C s device with ⟨-, heq⟩ | ⟨-, nd, hnode, hapart, heq⟩
  · exact ⟨heq ▸ h.apart, heq ▸ h.nodeId_ne⟩
  constructor
  · rw [heq, pairwise_append]
    refine ⟨h.apart, pairwise_singleton _ _, ?_⟩
    intro a ha b hb
    rw [mem_singleton.mp hb]
    exact hapart a ha
  · intro d hd
    rw [heq, mem_append, mem_singleton] at hd
    rcases hd with hd | rfl
    · exact h.nodeId_ne d hd
    · exact hnode

theorem identified_blank : Identified (Slots.blank onodeMaxDevices zeroDevice) := by
  constructor
  · rw [Slots.items_blank]
    exact Pairwise.nil
  · rw [Slots.items_blank]
    exact fun d hd => absurd hd not_mem_nil

instance symmApart : Std.Symm Device.Apart where
  symm _ _ h := ⟨h.hostname.symm, h.nodeId.symm, h.deviceId.symm⟩

/-- Registered devices that agree in one identity are the same. -/
theorem Identified.eq_of_not_apart (h : Identified s) {a b : Device}
    (ha : a ∈ s.items) (hb : b ∈ s.items) (hab : ¬ a.Apart b) : a = b := by
  by_contra hne
  exact hab (h.apart.forall ha hb hne)

end

/-- **The registered devices.**  After any additions, the registered devices have node ids and differ
in hostname, node id and device id; an addition that is refused leaves them; and a request's
hostname and the node id of an approval that is valid for the request's device select that device
and no other. -/
theorem registered_identities (C : Crypto) (additions : List Device) :
    let t := Machine.final (onodeAddDevice C) (.blank _ zeroDevice) additions
    t.items.Pairwise Device.Apart ∧ (∀ d ∈ t.items, d.nodeId ≠ 0) ∧
    (∀ device, (onodeAddDevice C t device).2 ≠ none →
      (onodeAddDevice C t device).1.items = t.items) ∧
    ∀ (name : Bytes) (dev : Device), findDevice t.items name = some dev →
      ∀ (reg : List Approver) (command : Bytes) (typedProfile : Option Bytes) (now : UInt64)
        (a : ApprovalRec),
        checkApproval C reg ⟨name, dev.nodeId, command, typedProfile⟩ now a = none →
        dev ∈ t.items ∧ ∀ d ∈ t.items,
          (d.hostname.bytes = name ↔ d = dev) ∧ (d.nodeId = a.deviceNodeId ↔ d = dev) := by
  intro t
  have ht : Identified t :=
    Machine.final_invariant identified_blank (fun _ device hs => hs.add C device) additions
  refine ⟨ht.apart, ht.nodeId_ne, fun device => items_of_refused, ?_⟩
  intro name dev hfind reg command typedProfile now a happroved
  have hmem : dev ∈ t.items := mem_of_find?_eq_some hfind
  have hname : dev.hostname.bytes = name := by simpa using List.find?_some hfind
  have hnode : dev.nodeId = a.deviceNodeId := (signedFor_of_checkApproval (.inl happroved)).node
  refine ⟨hmem, fun d hd => ⟨?_, ?_⟩⟩
  · constructor
    · intro hd'
      exact ht.eq_of_not_apart hd hmem fun hapart => hapart.hostname (hd'.trans hname.symm)
    · rintro rfl
      exact hname
  · constructor
    · intro hd'
      exact ht.eq_of_not_apart hd hmem fun hapart => hapart.nodeId (hd'.trans hnode.symm)
    · rintro rfl
      exact hnode

end Virp
