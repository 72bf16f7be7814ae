import Virp.Policy
import Mathlib.Data.List.Forall2

/-! # What a policy permits

The check walks through the protected resources, the principals and the rules of the caller's
principal, and leaves each loop early.  `Grants` says what it looks for without an order.  The loop
over the rules ends at the first rule for the resource, whatever its VLANs are: where a policy has
several rules for one resource with different VLANs, their order matters.
-/
namespace Virp

open List

/-- `virp_policy_check` returns 0. -/
def CheckPermits (p : Policy) (uid : UInt32) (d : Device) (command : Bytes) (now : Int) : Prop :=
  ∃ a, virpPolicyCheck p uid d command now = .ok a

/-- The action as the check looks at it. -/
def policyActionOf (uid : UInt32) (d : Device) (a : PolicyAction) : PolicyAction :=
  { a with uid := uid, deviceId := d.deviceId }

/-- The VLAN of the action, if it has one, is one of the rule's. -/
def PolicyRule.admitsVlan (r : PolicyRule) (a : PolicyAction) : Prop :=
  a.vlan = 0 ∨ (r.vlanMin ≤ a.vlan ∧ a.vlan ≤ r.vlanMax)

/-- The principal is in force, and a rule of its own permits the action. -/
structure Principal.Grants (x : Principal) (d : Device) (a : PolicyAction) (now : Int) : Prop where
  unexpired : now < x.expires
  profile : x.profile = .observe → a.effect = .read
  rule : ∃ r ∈ x.rules, r.matchesAction d a = true ∧ r.admitsVlan a

/-- The command is in the catalogue, nothing that protects the resource stands against it, and the
caller's principal grants it. -/
def Policy.Grants (p : Policy) (uid : UInt32) (d : Device) (command : Bytes) (now : Int) : Prop :=
  ∃ c, virpPolicyClassify d.vendor command = some c ∧
    (c.effect ≠ .read → ∀ x ∈ p.protectedResources, x.covers (policyActionOf uid d c) = false) ∧
    ∃ x ∈ p.principals, x.uid = uid ∧ x.Grants d (policyActionOf uid d c) now

/-- Two rules for one operation on one resource. -/
structure PolicyRule.SameTarget (r s : PolicyRule) : Prop where
  deviceId : r.deviceId = s.deviceId
  host : r.host = s.host
  port : r.port = s.port
  vendor : r.vendor = s.vendor
  operation : r.operation = s.operation
  resource : eqIgnoreCase r.resource s.resource = true

/-- Rules of a principal for one operation on one resource have the same VLANs. -/
def Policy.OneRange (p : Policy) : Prop :=
  ∀ x ∈ p.principals, ∀ r ∈ x.rules, ∀ s ∈ x.rules, r.SameTarget s →
    r.vlanMin = s.vlanMin ∧ r.vlanMax = s.vlanMax

/-- The same principal, with its rules in another order. -/
structure Principal.Reordered (x y : Principal) : Prop where
  uid : x.uid = y.uid
  profile : x.profile = y.profile
  expires : x.expires = y.expires
  rules : x.rules.Perm y.rules

/-- The same policy, with protected resources and rules in another order. -/
structure Policy.Reordered (p q : Policy) : Prop where
  protectedResources : p.protectedResources.Perm q.protectedResources
  principals : List.Forall₂ Principal.Reordered p.principals q.principals

variable {rules : List PolicyRule} {r : PolicyRule} {l : List Principal} {x y : Principal}

section
variable {d : Device} {now : Int} {a : PolicyAction} {uid : UInt32} {command : Bytes} {p q : Policy}

/-- Rules that match an action are for the same operation and resource. -/
theorem PolicyRule.sameTarget_of_matches {s : PolicyRule} (hr : r.matchesAction d a = true)
    (hs : s.matchesAction d a = true) : r.SameTarget s := by
  simp only [matchesAction, Bool.and_eq_true, beq_iff_eq] at hr hs
  obtain ⟨⟨⟨⟨⟨hid, hhost⟩, hport⟩, hvendor⟩, hop⟩, hres⟩ := hr
  obtain ⟨⟨⟨⟨⟨hid', hhost'⟩, hport'⟩, hvendor'⟩, hop'⟩, hres'⟩ := hs
  refine ⟨hid.trans hid'.symm, hhost.trans hhost'.symm, hport.trans hport'.symm,
    hvendor.trans hvendor'.symm, hop.trans hop'.symm, ?_⟩
  simp only [eqIgnoreCase, beq_iff_eq] at hres hres' ⊢
  exact hres.symm.trans hres'

/-- No principal of the caller is left, so nothing is permitted. -/
theorem checkPrincipals_of_notMem (h : ∀ x ∈ l, x.uid ≠ a.uid) :
    checkPrincipals d now a l = .error (text "BLACK-13") := by
  induction l with
  | nil => rfl
  | cons x l ih =>
    rw [checkPrincipals, if_pos (h x mem_cons_self)]
    exact ih fun y hy => h y (mem_cons_of_mem x hy)

/-- The first matching rule decides for all of them, where they have one range. -/
theorem exists_admits_iff (hfind : rules.find? (·.matchesAction d a) = some r)
    (hrange : ∀ s ∈ rules, r.SameTarget s → r.vlanMin = s.vlanMin ∧ r.vlanMax = s.vlanMax) :
    (∃ s ∈ rules, s.matchesAction d a = true ∧ s.admitsVlan a) ↔ r.admitsVlan a := by
  have hmatch : r.matchesAction d a = true := by simpa using find?_some hfind
  constructor
  · rintro ⟨s, hs, hsmatch, hvlan⟩
    obtain ⟨hmin, hmax⟩ := hrange s hs (PolicyRule.sameTarget_of_matches hmatch hsmatch)
    unfold PolicyRule.admitsVlan at hvlan ⊢
    rw [hmin, hmax]
    exact hvlan
  · exact fun h => ⟨r, mem_of_find?_eq_some hfind, hmatch, h⟩

/-- The loop over the principals ends with a permission if the caller's grants it. -/
theorem checkPrincipals_iff (huids : (l.map Principal.uid).Nodup)
    (hrange : ∀ x ∈ l, ∀ r ∈ x.rules, ∀ s ∈ x.rules, r.SameTarget s →
      r.vlanMin = s.vlanMin ∧ r.vlanMax = s.vlanMax) : (∃ b, checkPrincipals d now a l = .ok b) ↔
      ∃ x ∈ l, x.uid = a.uid ∧ x.Grants d a now := by
  induction l with
  | nil => simp [checkPrincipals]
  | cons x l ih =>
    rw [map_cons, nodup_cons] at huids
    by_cases hx : x.uid = a.uid
    · -- the principals behind it are not the caller's
      have hrest : ∀ y ∈ l, y.uid ≠ a.uid := by
        intro y hy huid
        exact huids.1 (mem_map.mpr ⟨y, hy, huid.trans hx.symm⟩)
      have hiff : (∃ y ∈ x :: l, y.uid = a.uid ∧ y.Grants d a now) ↔ x.Grants d a now := by
        constructor
        · rintro ⟨y, hy, huid, hgrants⟩
          rcases mem_cons.mp hy with rfl | hy
          · exact hgrants
          · exact absurd huid (hrest y hy)
        · exact fun h => ⟨x, mem_cons_self, hx, h⟩
      rw [hiff, checkPrincipals, if_neg (not_not.mpr hx)]
      split_ifs with hexpired hprofile
      · exact iff_of_false (by simp) fun h => by have := h.unexpired; omega
      · exact iff_of_false (by simp) fun h => hprofile.2 (h.profile hprofile.1)
      have hgrants : x.Grants d a now ↔
          ∃ r ∈ x.rules, r.matchesAction d a = true ∧ r.admitsVlan a :=
        ⟨fun h => h.rule, fun h => ⟨by omega, fun hp => by
          by_contra he
          exact hprofile ⟨hp, he⟩, h⟩⟩
      rw [hgrants]
      split
      · rename_i hnone
        rw [checkPrincipals_of_notMem (a := { a with ceiling := x.profile.ceiling }) hrest]
        refine iff_of_false (by simp) ?_
        rintro ⟨r, hr, hmatch, -⟩
        exact absurd hmatch (find?_eq_none.mp hnone r hr)
      · rename_i r hfind
        rw [exists_admits_iff hfind (hrange x mem_cons_self r (mem_of_find?_eq_some hfind))]
        unfold PolicyRule.admitsVlan
        split_ifs with hvlan
        · exact iff_of_false (by simp) (by omega)
        · exact iff_of_true ⟨_, rfl⟩ (by omega)
    · rw [checkPrincipals, if_pos hx, ih huids.2 fun y hy => hrange y (mem_cons_of_mem x hy)]
      simp [hx]

theorem permits_iff_of_enabled (huids : (p.principals.map Principal.uid).Nodup)
    (hrange : p.OneRange) (hon : ¬ (d.enabled = false ∨ uid = internalUid)) :
    CheckPermits p uid d command now ↔ p.Grants uid d command now := by
  unfold CheckPermits virpPolicyCheck Policy.Grants
  rw [if_neg hon]
  cases hc : virpPolicyClassify d.vendor command with
  | none => simp
  | some c =>
    have hprincipals : (∃ b, checkPrincipals d now (policyActionOf uid d c) p.principals = .ok b) ↔
        ∃ x ∈ p.principals, x.uid = uid ∧ x.Grants d (policyActionOf uid d c) now :=
      checkPrincipals_iff huids hrange
    have hgrants : (∃ c', some c = some c' ∧
        (c'.effect ≠ .read → ∀ x ∈ p.protectedResources, x.covers (policyActionOf uid d c') = false) ∧
        ∃ x ∈ p.principals, x.uid = uid ∧ x.Grants d (policyActionOf uid d c') now) ↔
        (c.effect ≠ .read → ∀ x ∈ p.protectedResources, x.covers (policyActionOf uid d c) = false) ∧
        ∃ x ∈ p.principals, x.uid = uid ∧ x.Grants d (policyActionOf uid d c) now := by
      simp
    rw [hgrants, ← hprincipals]
    dsimp only
    by_cases heffect : c.effect = .read
    · rw [if_pos heffect]
      change (∃ a, checkPrincipals d now (policyActionOf uid d c) p.principals = Except.ok a) ↔ _
      simp [heffect]
    rw [if_neg heffect]
    cases hprotected : p.protectedResources.find? (·.covers (policyActionOf uid d c)) with
    | none =>
      have hall := find?_eq_none.mp hprotected
      simp only [Bool.not_eq_true] at hall
      unfold policyActionOf at hprotected
      rw [hprotected]
      exact ⟨fun h => ⟨fun _ => hall, h⟩, fun h => h.2⟩
    | some x =>
      have hfound := hprotected
      unfold policyActionOf at hfound
      rw [hfound]
      refine iff_of_false (by simp) fun h => ?_
      have hcovers : x.covers (policyActionOf uid d c) = true := by
        simpa using find?_some hprotected
      rw [h.1 heffect x (mem_of_find?_eq_some hprotected)] at hcovers
      cases hcovers

theorem permits_iff (huids : (p.principals.map Principal.uid).Nodup) (hrange : p.OneRange) :
    CheckPermits p uid d command now ↔
      d.enabled = true ∧ uid ≠ internalUid ∧ p.Grants uid d command now := by
  by_cases hon : d.enabled = false ∨ uid = internalUid
  · have hrefused : virpPolicyCheck p uid d command now = .error (text "BLACK-13") := by
      rw [virpPolicyCheck, if_pos hon]
    refine iff_of_false ?_ ?_
    · rintro ⟨a, ha⟩
      rw [hrefused] at ha
      cases ha
    · rintro ⟨henabled, huid, -⟩
      rcases hon with hoff | hnone
      · rw [henabled] at hoff
        cases hoff
      · exact huid hnone
  · rw [permits_iff_of_enabled huids hrange hon]
    obtain ⟨henabled, huid⟩ := not_or.mp hon
    exact ⟨fun h => ⟨Bool.not_eq_false _ ▸ henabled, huid, h⟩, fun h => h.2.2⟩

theorem Principal.Reordered.symm (h : x.Reordered y) : y.Reordered x :=
  ⟨h.uid.symm, h.profile.symm, h.expires.symm, h.rules.symm⟩

theorem Principal.Reordered.grants (h : x.Reordered y) (hx : x.Grants d a now) :
    y.Grants d a now := by
  obtain ⟨r, hr, hmatch⟩ := hx.rule
  exact ⟨h.expires ▸ hx.unexpired, h.profile ▸ hx.profile, r, h.rules.mem_iff.mp hr, hmatch⟩

section
variable (h : p.Reordered q)
include h

theorem Policy.Reordered.symm : q.Reordered p :=
  ⟨h.protectedResources.symm, (List.Forall₂.flip h.principals).imp fun _ _ h => h.symm⟩

theorem Policy.Reordered.exists_principal (hx : x ∈ p.principals) :
    ∃ y ∈ q.principals, x.Reordered y := by
  obtain ⟨i, hi, rfl⟩ := getElem_of_mem hx
  have hi' : i < q.principals.length := h.principals.length_eq ▸ hi
  exact ⟨_, getElem_mem hi', h.principals.get hi hi'⟩

theorem Policy.Reordered.uids :
    p.principals.map Principal.uid = q.principals.map Principal.uid := by
  rw [← forall₂_eq_eq_eq, forall₂_map_left_iff, forall₂_map_right_iff]
  exact h.principals.imp fun _ _ h => h.uid

theorem Policy.Reordered.oneRange (hp : p.OneRange) : q.OneRange := by
  intro y hy r hr s hs htarget
  obtain ⟨x, hx, hxy⟩ := h.symm.exists_principal hy
  exact hp x hx r (hxy.rules.mem_iff.mp hr) s (hxy.rules.mem_iff.mp hs) htarget

theorem Policy.Reordered.grants (hp : p.Grants uid d command now) : q.Grants uid d command now := by
  obtain ⟨c, hc, hprotected, x, hx, huid, hgrants⟩ := hp
  obtain ⟨y, hy, hxy⟩ := h.exists_principal hx
  refine ⟨c, hc, fun he z hz => hprotected he z (h.protectedResources.mem_iff.mpr hz), y, hy, ?_, ?_⟩
  · exact hxy.uid.symm.trans huid
  · exact hxy.grants hgrants

end

end

/-- **What a policy permits.**  In a policy in which each uid has one principal and the rules of a
principal for one operation on one resource have the same VLANs, a command is permitted if the
device is enabled and the caller has a uid, the command is in the catalogue, no protected resource
of the device stands against it, and the caller's principal is in force and grants it; and this does
not depend on the order of the protected resources and of the rules. -/
theorem permits_iff_of_oneRange (p : Policy) (uid : UInt32) (d : Device) (command : Bytes)
    (now : Int) (huids : (p.principals.map Principal.uid).Nodup) (hrange : p.OneRange) :
    (CheckPermits p uid d command now ↔
      d.enabled = true ∧ uid ≠ internalUid ∧ p.Grants uid d command now) ∧
    ∀ q : Policy, p.Reordered q →
      (CheckPermits q uid d command now ↔ CheckPermits p uid d command now) := by
  have hp : CheckPermits p uid d command now ↔
      d.enabled = true ∧ uid ≠ internalUid ∧ p.Grants uid d command now := permits_iff huids hrange
  refine ⟨hp, fun q hq => ?_⟩
  have hq' : CheckPermits q uid d command now ↔
      d.enabled = true ∧ uid ≠ internalUid ∧ q.Grants uid d command now :=
    permits_iff (hq.uids ▸ huids) (hq.oneRange hrange)
  rw [hp, hq']
  exact and_congr_right fun _ => and_congr_right fun _ => ⟨hq.symm.grants, hq.grants⟩

/-! ## A policy with two ranges -/

namespace PolicySample

def switchDevice : Device where
  hostname := .copy 64 (text "sw1")
  host := .copy 256 (text "10.0.0.1")
  port := 22
  username := .copy 64 (text "virp")
  vendor := .ciscoIos
  nodeId := 1
  deviceId := 17
  enabled := true

/-- VLANs of one port. -/
def vlanRule (vlanMin vlanMax : Nat) : PolicyRule where
  deviceId := text "0000000000000011"
  host := text "10.0.0.1"
  port := 22
  vendor := 1
  operation := text "port.vlan"
  resource := text "port:gigabitethernet1/0/1"
  vlanMin := vlanMin
  vlanMax := vlanMax

def vlanPolicy (rules : List PolicyRule) : Policy where
  maxCalls := 10
  maxDisruptive := 0
  maxInflight := 1
  principals := [⟨1234, .autonomous, 4102444800, rules⟩]
  protectedResources := []
  digest := []
  startWall := 0
  startMono := 0

def setVlan : Bytes := text "interface GigabitEthernet1/0/1 switchport access vlan 100"

def setVlanAction : PolicyAction :=
  policyOp setVlan (text "port:gigabitethernet1/0/1") (text "port.vlan") .change 100

theorem classify_setVlan : virpPolicyClassify .ciscoIos setVlan = some setVlanAction := by
  decide +kernel

theorem vlanPolicy_grants {vlanMin vlanMax : Nat} {d : Device}
    (hd : d = switchDevice ∨ d = { switchDevice with enabled := false })
    (hmem : vlanRule vlanMin vlanMax ∈ rules) (hmin : vlanMin ≤ 100) (hmax : 100 ≤ vlanMax) :
    (vlanPolicy rules).Grants 1234 d setVlan 0 := by
  refine ⟨setVlanAction, ?_, ?_, ⟨1234, .autonomous, 4102444800, rules⟩, mem_singleton_self _,
    rfl, ?_⟩
  · rcases hd with rfl | rfl <;> exact classify_setVlan
  · exact fun _ x hx => absurd hx not_mem_nil
  · refine ⟨?_, fun h => ?_, _, hmem, ?_, .inr ⟨hmin, hmax⟩⟩
    · change (0 : Int) < 4102444800
      decide
    · cases h
    · -- the VLANs are no part of what is matched
      have hmatch : (vlanRule 0 0).matchesAction switchDevice
          (policyActionOf 1234 switchDevice setVlanAction) = true := by decide +kernel
      rcases hd with rfl | rfl <;> exact hmatch

end PolicySample

open PolicySample in
theorem permits_iff_of_oneRange_sample :
    CheckPermits (vlanPolicy [vlanRule 80 120]) 1234 switchDevice setVlan 0 := by
  have hrange : (vlanPolicy [vlanRule 80 120]).OneRange := by
    intro x hx r hr s hs _
    rw [mem_singleton.mp hx] at hr hs
    rw [mem_singleton.mp hr, mem_singleton.mp hs]
    exact ⟨rfl, rfl⟩
  refine (permits_iff_of_oneRange (vlanPolicy [vlanRule 80 120]) 1234 switchDevice setVlan 0
    (by decide) hrange).1.mpr ⟨rfl, by decide, ?_⟩
  exact vlanPolicy_grants (.inl rfl) (mem_singleton_self _) (by decide) (by decide)

open PolicySample in
/-- The second of two rules for a port has the VLAN, and is not looked at; in the other order the
command is permitted.  On a disabled device nothing is. -/
theorem permits_depends_on_order :
    let p := vlanPolicy [vlanRule 80 89, vlanRule 100 109]
    let q := vlanPolicy [vlanRule 100 109, vlanRule 80 89]
    let off := { switchDevice with enabled := false }
    p.Reordered q ∧ p.Grants 1234 switchDevice setVlan 0 ∧ ¬ CheckPermits p 1234 switchDevice setVlan 0 ∧
      CheckPermits q 1234 switchDevice setVlan 0 ∧
      q.Grants 1234 off setVlan 0 ∧ ¬ CheckPermits q 1234 off setVlan 0 := by
  intro p q off
  have hrefused : (virpPolicyCheck p 1234 switchDevice setVlan 0).isOk = false := by decide +kernel
  have hallowed : virpPolicyCheck q 1234 switchDevice setVlan 0 = .ok
      { setVlanAction with uid := 1234, deviceId := 17, ceiling := .red } := by decide +kernel
  refine ⟨⟨.nil, .cons ⟨rfl, rfl, rfl, .swap _ _ _⟩ .nil⟩, ?_, ?_, ⟨_, hallowed⟩, ?_, ?_⟩
  · exact vlanPolicy_grants (.inl rfl) (mem_cons_of_mem _ (mem_singleton_self _))
      (by decide) (by decide)
  · rintro ⟨a, ha⟩
    rw [ha] at hrefused
    cases hrefused
  · exact vlanPolicy_grants (.inr rfl) mem_cons_self (by decide) (by decide)
  · rintro ⟨a, ha⟩
    cases ha

end Virp
