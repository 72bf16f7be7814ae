import Virp.CJson
import Virp.Policy

/-! # Reading a policy

A policy is a JSON document of its owner.  The parser checks every object against the names it may
have, and every value against its range.  The names are one text, each between two bars, and a name
is looked for in it as a substring: a name of the document that is empty, or has bars of its own,
is found there without being one of the names.  `PolicyDocument` says what a policy is meant to be.
-/
namespace Virp

open Decimal Numeral List

/-! ## The parser -/

/-- `cJSON_ParseWithOpts` with `require_null_terminated`: nothing may follow the root value. -/
def parseToEnd (L : Libc) (body : Bytes) : Option Json :=
  match parseValue L nestingLimit (skipWhitespace (skipBom (cstr body ++ [0]))) with
  | some (v, rest) => if (skipWhitespace rest).head? = some 0 then some v else none
  | none => none

/-- `str`. -/
def policyStr (o : Json) (key : Bytes) : Option Bytes :=
  match o.item key with
  | some (.string s) => some (cstr s)
  | _ => none

/-- `integer`. -/
def policyInteger (o : Json) (key : Bytes) (min max : Int) : Bool :=
  match o.item key with
  | some (.number (.finite q)) => (min : ℚ) ≤ q ∧ q ≤ max ∧ q.den = 1
  | _ => false

/-- `num`: the number, cut to an integer. -/
def policyNum (o : Json) (key : Bytes) : Int :=
  match o.item key with
  | some (.number (.finite q)) => q.num.tdiv q.den
  | _ => 0

/-- A name between bars. -/
def barred (name : Bytes) : Bytes := 0x7C :: name ++ [0x7C]

/-- The loops of `fields`. -/
def policyFieldsLoop (names : Bytes) : List (Bytes × Json) → Bool
  | [] => true
  | x :: rest =>
    decide ((barred x.1).length < 80) && (strstr names (barred x.1)).isSome &&
      rest.all (fun y => y.1 != x.1) && policyFieldsLoop names rest

/-- `fields`. -/
def policyFields (o : Json) (names : Bytes) : Bool :=
  match o with
  | .object members => policyFieldsLoop names members
  | _ => false

/-- A byte of an identifier. -/
def isIdentByte (c : UInt8) : Bool :=
  isDigit c || (0x41 ≤ c && c ≤ 0x5A) || (0x61 ≤ c && c ≤ 0x7A) || decide (c ∈ text "._:-/")

/-- `ident`. -/
def isIdent (max : Nat) (s : Bytes) : Bool :=
  decide (s ≠ []) && decide (s.length < max) && s.all isIdentByte

/-- `device_id`. -/
def isDeviceId (s : Bytes) : Bool :=
  decide (s.length = 16) && s.all (fun c => isDigit c || (0x61 ≤ c && c ≤ 0x66)) &&
    decide (s ≠ text "0000000000000000")

/-- `operations`. -/
def policyOperations : List Bytes :=
  [text "system.read", text "host.reboot", text "vm.read", text "vm.reboot", text "vm.delete",
    text "vm.start", text "port.description", text "port.vlan", text "port.access"]

/-- `valid_reason`: `BLACK-01` to `BLACK-14`. -/
def validReason (s : Bytes) : Bool :=
  match s.drop 6 with
  | [tens, units] =>
    decide (s.take 6 = text "BLACK-") && (0x30 ≤ tens && tens ≤ 0x31) && isDigit units &&
      decide (1 ≤ (tens.toNat - 48) * 10 + (units.toNat - 48) ∧
        (tens.toNat - 48) * 10 + (units.toNat - 48) ≤ 14)
  | _ => false

def policyProfiles : List Bytes := [text "observe", text "supervised", text "autonomous"]

/-- The names of the root object. -/
def rootNames : List Bytes :=
  [text "version", text "max_calls", text "max_disruptive", text "max_inflight", text "principals",
    text "protected", text "trusted_appenders"]

def protectedNames : List Bytes := [text "device_id", text "resource", text "reason"]

def principalNames : List Bytes := [text "uid", text "profile", text "expires", text "rules"]

def ruleNames : List Bytes :=
  [text "device_id", text "host", text "port", text "vendor", text "operation", text "resource",
    text "vlan_min", text "vlan_max"]

def appenderNames : List Bytes := [text "uid", text "types"]

/-- The names as `fields` is given them. -/
def barredNames (names : List Bytes) : Bytes := names.flatMap barred

/-- The largest uid: `UINT_MAX-1`. -/
def maxUid : Int := 4294967294

/-- The body of the loop over `protected`. -/
def protectedOk (x : Json) : Bool :=
  policyFields x (barredNames protectedNames) && (policyStr x (text "device_id")).any isDeviceId &&
    (policyStr x (text "resource")).any (fun s => isIdent 96 s || s == text "*") &&
    (policyStr x (text "reason")).any validReason

/-- The body of the loop over the rules of a principal. -/
def ruleOk (rule : Json) : Bool :=
  policyFields rule (barredNames ruleNames) && (policyStr rule (text "device_id")).any isDeviceId &&
    (policyStr rule (text "host")).any (isIdent 256) && policyInteger rule (text "port") 1 65535 &&
    policyInteger rule (text "vendor") 1 99 &&
    (policyStr rule (text "operation")).any (fun s => decide (s ∈ policyOperations)) &&
    (policyStr rule (text "resource")).any (isIdent 96) &&
    (if policyStr rule (text "operation") = some (text "port.vlan") then
      policyInteger rule (text "vlan_min") 1 4094 && policyInteger rule (text "vlan_max") 1 4094 &&
        decide (policyNum rule (text "vlan_min") ≤ policyNum rule (text "vlan_max"))
    else (rule.item (text "vlan_min")).isNone && (rule.item (text "vlan_max")).isNone)

/-- The entry has a number for a uid, and it is that of `x`. -/
def sameUid (x y : Json) : Bool :=
  match y.item (text "uid") with
  | some (.number _) => decide (policyNum y (text "uid") = policyNum x (text "uid"))
  | _ => false

/-- The body of the loop over the principals, with those that follow. -/
def principalOk (x : Json) (later : List Json) : Bool :=
  policyFields x (barredNames principalNames) && policyInteger x (text "uid") 1 maxUid &&
    policyInteger x (text "expires") 1 4102444800 &&
    (policyStr x (text "profile")).any (fun s => decide (s ∈ policyProfiles)) &&
    !later.any (sameUid x) &&
    match x.item (text "rules") with
    | some (.array rules) => decide (rules.length ≤ 512) && rules.all ruleOk
    | _ => false

def principalsOk : List Json → Bool
  | [] => true
  | x :: later => principalOk x later && principalsOk later

/-- The body of the loop over the trusted appenders, with those that follow. -/
def appenderOk (principals : List Json) (x : Json) (later : List Json) : Bool :=
  policyFields x (barredNames appenderNames) && policyInteger x (text "uid") 1 maxUid &&
    (match x.item (text "types") with
      | some (.array [.string type]) => cstr type == text "evidence_item"
      | _ => false) &&
    !principals.any (fun p => policyNum p (text "uid") == policyNum x (text "uid")) &&
    !later.any (sameUid x)

def appendersOk (principals : List Json) : List Json → Bool
  | [] => true
  | x :: later => appenderOk principals x later && appendersOk principals later

/-- The checks of `virp_policy_parse` on the root value. -/
def policyOk (r : Json) : Bool :=
  policyFields r (barredNames rootNames) && policyInteger r (text "version") 1 1 &&
    policyInteger r (text "max_calls") 1 1000000 && policyInteger r (text "max_disruptive") 0 1000000 &&
    policyInteger r (text "max_inflight") 1 64 &&
    match r.item (text "principals"), r.item (text "protected") with
    | some (.array ps), some (.array xs) =>
      decide (ps.length ≤ 64) && decide (xs.length ≤ 512) && xs.all protectedOk && principalsOk ps &&
        (match r.item (text "trusted_appenders") with
        | none => true
        | some (.array as) => decide (as.length ≤ 16) && appendersOk ps as
        | some _ => false)
    | _, _ => false

/-- `virp_policy_parse`: the root it keeps.  `ready` says that the database has its control row, and
that memory and the digest do not fail. -/
def virpPolicyParse (L : Libc) (ready : Bool) (json : Bytes) : Option Json :=
  if 1024 * 1024 < (cstr json).length ∨ (strstr (cstr json) (text "\\u0000")).isSome then none
  else match (parseToEnd L json).map Json.cutNames with
    | some r => if policyOk r && ready then some r else none
    | none => none

/-! ## What a policy is meant to be -/

/-- An object whose names are among these, each of them once. -/
def HasFields (o : Json) (names : List Bytes) : Prop :=
  ∃ members, o = .object members ∧ (∀ m ∈ members, m.1 ∈ names) ∧ (members.map Prod.fst).Nodup

/-- The member is an integer in the range. -/
def HasInt (o : Json) (key : Bytes) (min max n : Int) : Prop :=
  o.item key = some (.number (.finite n)) ∧ min ≤ n ∧ n ≤ max

/-- The member is a string of the kind. -/
def HasString (o : Json) (key : Bytes) (kind : Bytes → Bool) : Prop :=
  ∃ s, o.item key = some (.string s) ∧ kind s = true

structure ProtectedDocument (x : Json) : Prop where
  fields : HasFields x protectedNames
  deviceId : HasString x (text "device_id") isDeviceId
  resource : HasString x (text "resource") (fun s => isIdent 96 s || s == text "*")
  reason : HasString x (text "reason") validReason

/-- A rule; the VLANs are there for `port.vlan`, and only there. -/
structure RuleDocument (r : Json) : Prop where
  fields : HasFields r ruleNames
  deviceId : HasString r (text "device_id") isDeviceId
  host : HasString r (text "host") (isIdent 256)
  port : ∃ n, HasInt r (text "port") 1 65535 n
  vendor : ∃ n, HasInt r (text "vendor") 1 99 n
  operation : HasString r (text "operation") (fun s => decide (s ∈ policyOperations))
  resource : HasString r (text "resource") (isIdent 96)
  vlan : r.item (text "operation") = some (.string (text "port.vlan")) →
    ∃ lo hi, HasInt r (text "vlan_min") 1 4094 lo ∧ HasInt r (text "vlan_max") 1 4094 hi ∧ lo ≤ hi
  no_vlan : r.item (text "operation") ≠ some (.string (text "port.vlan")) →
    r.item (text "vlan_min") = none ∧ r.item (text "vlan_max") = none

structure PrincipalDocument (x : Json) : Prop where
  fields : HasFields x principalNames
  uid : ∃ n, HasInt x (text "uid") 1 maxUid n
  expires : ∃ n, HasInt x (text "expires") 1 4102444800 n
  profile : HasString x (text "profile") (fun s => decide (s ∈ policyProfiles))
  rules : ∃ rules, x.item (text "rules") = some (.array rules) ∧ rules.length ≤ 512 ∧
    ∀ r ∈ rules, RuleDocument r

structure AppenderDocument (x : Json) : Prop where
  fields : HasFields x appenderNames
  uid : ∃ n, HasInt x (text "uid") 1 maxUid n
  types : x.item (text "types") = some (.array [.string (text "evidence_item")])

/-- The entries have different uids. -/
def UidsApart (x y : Json) : Prop := x.item (text "uid") ≠ y.item (text "uid")

/-- A policy. -/
structure PolicyDocument (root : Json) : Prop where
  fields : HasFields root rootNames
  version : HasInt root (text "version") 1 1 1
  maxCalls : ∃ n, HasInt root (text "max_calls") 1 1000000 n
  maxDisruptive : ∃ n, HasInt root (text "max_disruptive") 0 1000000 n
  maxInflight : ∃ n, HasInt root (text "max_inflight") 1 64 n
  protected_ : ∃ xs, root.item (text "protected") = some (.array xs) ∧ xs.length ≤ 512 ∧
    ∀ x ∈ xs, ProtectedDocument x
  principals : ∃ ps, root.item (text "principals") = some (.array ps) ∧ ps.length ≤ 64 ∧
    (∀ x ∈ ps, PrincipalDocument x) ∧ ps.Pairwise UidsApart ∧
    (root.item (text "trusted_appenders") = none ∨
      ∃ as, root.item (text "trusted_appenders") = some (.array as) ∧ as.length ≤ 16 ∧
        (∀ x ∈ as, AppenderDocument x) ∧ as.Pairwise UidsApart ∧
        ∀ x ∈ as, ∀ y ∈ ps, UidsApart y x)

/-- A name that is not empty and holds neither a bar nor a zero byte. -/
structure PlainName (name : Bytes) : Prop where
  ne_nil : name ≠ []
  bar_notMem : 0x7C ∉ name
  zero_notMem : 0 ∉ name

instance instDecidablePlainName (name : Bytes) : Decidable (PlainName name) :=
  decidable_of_iff (name ≠ [] ∧ 0x7C ∉ name ∧ 0 ∉ name)
    ⟨fun h => ⟨h.1, h.2.1, h.2.2⟩, fun h => ⟨h.ne_nil, h.bar_notMem, h.zero_notMem⟩⟩

/-- All names are plain, and no string holds a zero byte. -/
inductive Json.Plain : Json → Prop where
  | null : Json.Plain .null
  | bool (b : Bool) : Json.Plain (.bool b)
  | number (n : JsonNumber) : Json.Plain (.number n)
  | string {s : Bytes} (h : 0 ∉ s) : Json.Plain (.string s)
  | array {items : List Json} (h : ∀ v ∈ items, Json.Plain v) : Json.Plain (.array items)
  | object {members : List (Bytes × Json)} (names : ∀ m ∈ members, PlainName m.1)
    (values : ∀ m ∈ members, Json.Plain m.2) : Json.Plain (.object members)

section
variable {names : List Bytes} {name : Bytes}

theorem PlainName.not_barredNames (hname : PlainName name) (b : Bytes) :
    name ++ b ≠ barredNames names := by
  obtain ⟨c, name, rfl⟩ := exists_cons_of_ne_nil hname.ne_nil
  intro h
  cases names with
  | nil => cases h
  | cons n names =>
    have hc : c = 0x7C := (cons.inj h).1
    exact hname.bar_notMem (hc ▸ mem_cons_self)

/-- A plain name that is found between bars is one of the names. -/
theorem mem_of_barred_infix (hnames : ∀ n ∈ names, 0x7C ∉ n) (hname : PlainName name)
    (h : barred name <:+: barredNames names) : name ∈ names := by
  induction names with
  | nil =>
    have := h.length_le
    simp [barred, barredNames] at this
  | cons n names ih =>
    rw [forall_mem_cons] at hnames
    obtain ⟨a, b, hab⟩ := h
    have hab : a ++ 0x7C :: (name ++ 0x7C :: b) = 0x7C :: (n ++ 0x7C :: barredNames names) := by
      simpa [barred, barredNames] using hab
    cases a with
    | nil =>
      -- the first name is the one that was found
      have heq : name ++ 0x7C :: b = n ++ 0x7C :: barredNames names := (cons.inj hab).2
      obtain ⟨rfl, -⟩ := Delimited.append_cons_inj hname.bar_notMem hnames.1 heq
      exact mem_cons_self
    | cons c a =>
      have heq : a ++ 0x7C :: (name ++ 0x7C :: b) = n ++ 0x7C :: barredNames names :=
        (cons.inj hab).2
      obtain ⟨d, hn, hd⟩ | ⟨d, -, hd⟩ := append_eq_append_iff.mp heq
      · -- the bar before the name is not in `n`, and cannot be the one that closes `n` either
        cases d with
        | nil => exact absurd (cons.inj hd).2 (hname.not_barredNames _)
        | cons e d =>
          have he : 0x7C = e := (cons.inj hd).1
          exact absurd (hn ▸ he ▸ by simp) hnames.1
      · cases d with
        | nil => exact absurd (cons.inj hd).2.symm (hname.not_barredNames _)
        | cons e d =>
          have hrest : barredNames names = d ++ 0x7C :: (name ++ 0x7C :: b) := (cons.inj hd).2
          exact mem_cons_of_mem n (ih hnames.2 ⟨d, b, by simp [hrest, barred]⟩)

theorem barred_infix_of_policyFieldsLoop (members : List (Bytes × Json)) :
    policyFieldsLoop (barredNames names) members = true →
      (∀ m ∈ members, barred m.1 <:+: barredNames names) ∧ (members.map Prod.fst).Nodup := by
  intro h
  induction members with
  | nil => exact ⟨by simp, nodup_nil⟩
  | cons m members ih =>
    simp only [policyFieldsLoop, Bool.and_eq_true, strstr_isSome_iff, all_eq_true, bne_iff_ne] at h
    obtain ⟨⟨⟨-, hm⟩, hlater⟩, hrest⟩ := h
    obtain ⟨hall, hnodup⟩ := ih hrest
    refine ⟨forall_mem_cons.mpr ⟨hm, hall⟩, ?_⟩
    rw [map_cons, nodup_cons]
    refine ⟨fun hmem => ?_, hnodup⟩
    obtain ⟨m', hm', heq⟩ := mem_map.mp hmem
    exact hlater m' hm' heq

/-- **The names of an object with plain names** are checked as they should be. -/
theorem hasFields_of_policyFields {o : Json} (hnames : ∀ n ∈ names, 0x7C ∉ n) (ho : o.Plain)
    (h : policyFields o (barredNames names) = true) : HasFields o names := by
  cases ho with
  | object hplain hvalues =>
    obtain ⟨hall, hnodup⟩ := barred_infix_of_policyFieldsLoop _ h
    exact ⟨_, rfl, fun m hm => mem_of_barred_infix hnames (hplain m hm) (hall m hm), hnodup⟩
  | _ => cases h

end

variable {kind : Bytes → Bool} {min max n m : Int} {principals later ps : List Json} {y : Json}
  {L : Libc}

/-! ## A plain document that is accepted is a policy -/

section
variable {o : Json} {key : Bytes}

theorem Json.Plain.cutNames_eq (h : o.Plain) : o.cutNames = o := by
  induction h with
  | array _ ih => rw [Json.cutNames, cutItems_eq_self ih]
  | object hnames _ ih =>
    rw [Json.cutNames, cutMembers_eq_self (fun m hm => (hnames m hm).zero_notMem) ih]
  | _ => rw [Json.cutNames]

theorem Json.Plain.item (h : o.Plain) {v : Json} (hv : o.item key = some v) : v.Plain := by
  cases h with
  | object hnames hvalues =>
    obtain ⟨m, hm, rfl⟩ := Option.map_eq_some_iff.mp hv
    exact hvalues m (mem_of_find?_eq_some hm)
  | _ => cases hv

theorem Json.Plain.items (h : o.Plain) {items : List Json} (hv : o.item key = some (.array items)) :
    ∀ v ∈ items, v.Plain := by
  have harr := h.item hv
  cases harr with
  | array hitems => exact hitems

theorem policyStr_eq_some (h : o.Plain) {s : Bytes} :
    policyStr o key = some s ↔ o.item key = some (.string s) := by
  rw [policyStr]
  split
  · next t ht =>
    have hplain := h.item ht
    cases hplain with
    | string h0 => simp [ht, cstr_eq_self h0]
  · next hne => exact iff_of_false (by simp) (hne s)

theorem hasString_of_policyStr (h : o.Plain) (hs : (policyStr o key).any kind = true) :
    HasString o key kind := by
  obtain ⟨s, hs, hkind⟩ := (Option.any_eq_true _ _).mp hs
  exact ⟨s, (policyStr_eq_some h).mp hs, hkind⟩

theorem hasInt_of_policyInteger (h : policyInteger o key min max = true) :
    ∃ n, HasInt o key min max n := by
  rw [policyInteger] at h
  split at h
  · next q hq =>
    obtain ⟨hmin, hmax, hden⟩ := of_decide_eq_true h
    obtain ⟨n, rfl⟩ : ∃ n : ℤ, q = n := ⟨q.num, ((Rat.den_eq_one_iff q).mp hden).symm⟩
    exact ⟨n, hq, Rat.intCast_le_intCast.mp hmin, Rat.intCast_le_intCast.mp hmax⟩
  · cases h

theorem HasInt.policyNum_eq (h : HasInt o key min max n) : policyNum o key = n := by
  rw [policyNum, h.1]
  simp

end

section
variable {x : Json}

theorem protectedDocument_of_protectedOk (h : x.Plain) (hok : protectedOk x = true) :
    ProtectedDocument x := by
  simp only [protectedOk, Bool.and_eq_true] at hok
  obtain ⟨⟨⟨hfields, hid⟩, hresource⟩, hreason⟩ := hok
  exact {
    fields := hasFields_of_policyFields (by decide) h hfields
    deviceId := hasString_of_policyStr h hid
    resource := hasString_of_policyStr h hresource
    reason := hasString_of_policyStr h hreason }

theorem ruleDocument_of_ruleOk (h : x.Plain) (hok : ruleOk x = true) : RuleDocument x := by
  simp only [ruleOk, Bool.and_eq_true] at hok
  obtain ⟨⟨⟨⟨⟨⟨⟨hfields, hid⟩, hhost⟩, hport⟩, hvendor⟩, hop⟩, hresource⟩, hvlan⟩ := hok
  refine {
    fields := hasFields_of_policyFields (by decide) h hfields
    deviceId := hasString_of_policyStr h hid
    host := hasString_of_policyStr h hhost
    port := hasInt_of_policyInteger hport
    vendor := hasInt_of_policyInteger hvendor
    operation := hasString_of_policyStr h hop
    resource := hasString_of_policyStr h hresource
    vlan := fun hv => ?_
    no_vlan := fun hv => ?_ }
  · rw [if_pos ((policyStr_eq_some h).mpr hv), Bool.and_eq_true, Bool.and_eq_true] at hvlan
    obtain ⟨⟨hmin, hmax⟩, hle⟩ := hvlan
    obtain ⟨lo, hlo⟩ := hasInt_of_policyInteger hmin
    obtain ⟨hi, hhi⟩ := hasInt_of_policyInteger hmax
    rw [decide_eq_true_eq, hlo.policyNum_eq, hhi.policyNum_eq] at hle
    exact ⟨lo, hi, hlo, hhi, hle⟩
  · rw [if_neg (fun hs => hv ((policyStr_eq_some h).mp hs)), Bool.and_eq_true] at hvlan
    exact ⟨Option.isNone_iff_eq_none.mp hvlan.1, Option.isNone_iff_eq_none.mp hvlan.2⟩

theorem principalDocument_of_principalOk (h : x.Plain) (hok : principalOk x later = true) :
    PrincipalDocument x := by
  simp only [principalOk, Bool.and_eq_true] at hok
  obtain ⟨⟨⟨⟨⟨hfields, huid⟩, hexpires⟩, hprofile⟩, -⟩, hrules⟩ := hok
  refine {
    fields := hasFields_of_policyFields (by decide) h hfields
    uid := hasInt_of_policyInteger huid
    expires := hasInt_of_policyInteger hexpires
    profile := hasString_of_policyStr h hprofile
    rules := ?_ }
  split at hrules
  · next rules heq =>
    rw [Bool.and_eq_true, decide_eq_true_eq, all_eq_true] at hrules
    exact ⟨rules, heq, hrules.1, fun r hr => ruleDocument_of_ruleOk (h.items heq r hr) (hrules.2 r hr)⟩
  · cases hrules

theorem appenderDocument_of_appenderOk (h : x.Plain) (hok : appenderOk principals x later = true) :
    AppenderDocument x := by
  simp only [appenderOk, Bool.and_eq_true] at hok
  obtain ⟨⟨⟨⟨hfields, huid⟩, htypes⟩, -⟩, -⟩ := hok
  refine {
    fields := hasFields_of_policyFields (by decide) h hfields
    uid := hasInt_of_policyInteger huid
    types := ?_ }
  split at htypes
  · next type heq =>
    have hplain := h.items heq _ mem_cons_self
    cases hplain with
    | string h0 =>
      rw [cstr_eq_self h0, beq_iff_eq] at htypes
      rw [heq, htypes]
  · cases htypes

/-- The test of two uids, on entries that have one. -/
theorem uidsApart_iff (hx : HasInt x (text "uid") 1 maxUid m)
    (hy : HasInt y (text "uid") 1 maxUid n) : UidsApart x y ↔ n ≠ m := by
  rw [UidsApart, hx.1, hy.1]
  simp [eq_comm]

theorem sameUid_eq_false (hx : HasInt x (text "uid") 1 maxUid m)
    (hy : HasInt y (text "uid") 1 maxUid n) : sameUid x y = false ↔ UidsApart x y := by
  rw [uidsApart_iff hx hy, sameUid, hy.1]
  simp only [hx.policyNum_eq, hy.policyNum_eq, decide_eq_false_iff_not, ne_eq]

theorem principals_of_principalsOk (h : ∀ x ∈ ps, x.Plain) (hok : principalsOk ps = true) :
    (∀ x ∈ ps, PrincipalDocument x) ∧ ps.Pairwise UidsApart := by
  induction ps with
  | nil => exact ⟨by simp, Pairwise.nil⟩
  | cons x ps ih =>
    rw [forall_mem_cons] at h
    rw [principalsOk, Bool.and_eq_true] at hok
    obtain ⟨hall, hpairs⟩ := ih h.2 hok.2
    have hx := principalDocument_of_principalOk h.1 hok.1
    refine ⟨forall_mem_cons.mpr ⟨hx, hall⟩, pairwise_cons.mpr ⟨fun y hy => ?_, hpairs⟩⟩
    have hlater : ps.any (sameUid x) = false := by
      simp only [principalOk, Bool.and_eq_true] at hok
      simpa using hok.1.1.2
    obtain ⟨m, hm⟩ := hx.uid
    obtain ⟨n, hn⟩ := (hall y hy).uid
    rw [← sameUid_eq_false hm hn]
    exact Bool.eq_false_iff.mpr fun hs => (any_eq_false.mp hlater y hy) hs

theorem appenders_of_appendersOk {as : List Json} (h : ∀ x ∈ as, x.Plain)
    (hps : ∀ y ∈ ps, PrincipalDocument y) (hok : appendersOk ps as = true) :
    (∀ x ∈ as, AppenderDocument x) ∧ as.Pairwise UidsApart ∧ ∀ x ∈ as, ∀ y ∈ ps, UidsApart y x := by
  induction as with
  | nil => exact ⟨by simp, Pairwise.nil, by simp⟩
  | cons x as ih =>
    rw [forall_mem_cons] at h
    rw [appendersOk, Bool.and_eq_true] at hok
    obtain ⟨hall, hpairs, hothers⟩ := ih h.2 hok.2
    have hx := appenderDocument_of_appenderOk h.1 hok.1
    obtain ⟨m, hm⟩ := hx.uid
    simp only [appenderOk, Bool.and_eq_true, Bool.not_eq_true', any_eq_false] at hok
    obtain ⟨⟨⟨-, hprincipals⟩, hlater⟩, -⟩ := hok
    refine ⟨forall_mem_cons.mpr ⟨hx, hall⟩, pairwise_cons.mpr ⟨fun y hy => ?_, hpairs⟩,
      forall_mem_cons.mpr ⟨fun y hy => ?_, hothers⟩⟩
    · obtain ⟨n, hn⟩ := (hall y hy).uid
      rw [← sameUid_eq_false hm hn]
      exact Bool.eq_false_iff.mpr (hlater y hy)
    · obtain ⟨n, hn⟩ := (hps y hy).uid
      rw [uidsApart_iff hn hm]
      have hne := hprincipals y hy
      rw [hn.policyNum_eq, hm.policyNum_eq, beq_iff_eq] at hne
      exact Ne.symm hne

theorem policyDocument_of_policyOk (h : x.Plain) (hok : policyOk x = true) : PolicyDocument x := by
  simp only [policyOk, Bool.and_eq_true] at hok
  obtain ⟨⟨⟨⟨⟨hfields, hversion⟩, hcalls⟩, hdisruptive⟩, hinflight⟩, hrest⟩ := hok
  split at hrest
  · next ps xs hps hxs =>
    simp only [Bool.and_eq_true, decide_eq_true_eq, all_eq_true] at hrest
    obtain ⟨⟨⟨⟨hpslen, hxslen⟩, hprotected⟩, hprincipals⟩, happenders⟩ := hrest
    obtain ⟨hall, hpairs⟩ := principals_of_principalsOk (h.items hps) hprincipals
    obtain ⟨n, hn⟩ := hasInt_of_policyInteger hversion
    obtain rfl : n = 1 := by
      have hmin := hn.2.1
      have hmax := hn.2.2
      omega
    refine {
      fields := hasFields_of_policyFields (by decide) h hfields
      version := hn
      maxCalls := hasInt_of_policyInteger hcalls
      maxDisruptive := hasInt_of_policyInteger hdisruptive
      maxInflight := hasInt_of_policyInteger hinflight
      protected_ := ⟨xs, hxs, hxslen, fun y hy =>
        protectedDocument_of_protectedOk (h.items hxs y hy) (hprotected y hy)⟩
      principals := ⟨ps, hps, hpslen, hall, hpairs, ?_⟩ }
    split at happenders
    · next hnone => exact Or.inl hnone
    · next as has =>
      rw [Bool.and_eq_true, decide_eq_true_eq] at happenders
      exact Or.inr ⟨as, has, happenders.1, appenders_of_appendersOk (h.items has) hall happenders.2⟩
    · cases happenders
  · cases hrest

end

/-! ## A policy is plain -/

section
variable {x : Json}

theorem item_of_mem {members : List (Bytes × Json)} (h : (members.map Prod.fst).Nodup)
    {m : Bytes × Json} (hm : m ∈ members) : (Json.object members).item m.1 = some m.2 := by
  induction members with
  | nil => cases hm
  | cons m' members ih =>
    rw [map_cons, nodup_cons] at h
    rw [Json.item, find?_cons]
    rcases mem_cons.mp hm with rfl | hm
    · rw [beq_self_eq_true]
      rfl
    · have hne : (m'.1 == m.1) = false := by
        rw [beq_eq_false_iff_ne]
        exact fun heq => h.1 (heq ▸ mem_map_of_mem hm)
      rw [hne]
      exact ih h.2 hm

/-- An object with plain names whose values are plain is plain. -/
theorem HasFields.plain {names : List Bytes} (h : HasFields x names)
    (hnames : ∀ n ∈ names, PlainName n)
    (hvalues : ∀ n ∈ names, ∀ v, x.item n = some v → v.Plain) : x.Plain := by
  obtain ⟨members, rfl, hall, hnodup⟩ := h
  exact .object (fun m hm => hnames m.1 (hall m hm)) fun m hm =>
    hvalues m.1 (hall m hm) m.2 (item_of_mem hnodup hm)

variable {key : Bytes} {v : Json}

theorem HasInt.plain (h : ∃ n, HasInt x key min max n) (hv : x.item key = some v) : v.Plain := by
  obtain ⟨n, hn, -⟩ := h
  obtain rfl := Option.mem_unique hv hn
  exact .number _

theorem HasString.plain (h : HasString x key kind) (hkind : ∀ s, kind s = true → 0 ∉ s)
    (hv : x.item key = some v) : v.Plain := by
  obtain ⟨s, hs, hk⟩ := h
  obtain rfl := Option.mem_unique hv hs
  exact .string (hkind s hk)

theorem plain_of_item_eq_array {items : List Json} (h : x.item key = some (.array items))
    (hitems : ∀ y ∈ items, y.Plain) (hv : x.item key = some v) : v.Plain := by
  obtain rfl := Option.mem_unique hv h
  exact .array hitems

theorem zero_notMem_of_isDeviceId (s : Bytes) (h : isDeviceId s = true) : 0 ∉ s := by
  simp only [isDeviceId, Bool.and_eq_true, all_eq_true] at h
  exact fun h0 => absurd (h.1.2 0 h0) (by decide)

theorem zero_notMem_of_isIdent (max : Nat) (s : Bytes) (h : isIdent max s = true) : 0 ∉ s := by
  simp only [isIdent, Bool.and_eq_true, all_eq_true] at h
  exact fun h0 => absurd (h.2 0 h0) (by decide)

theorem zero_notMem_of_validReason (s : Bytes) (h : validReason s = true) : 0 ∉ s := by
  rw [validReason] at h
  split at h
  · next tens units hdrop =>
    simp only [Bool.and_eq_true, decide_eq_true_eq] at h
    obtain ⟨⟨⟨htake, htens⟩, hunits⟩, -⟩ := h
    rw [← take_append_drop 6 s, htake, hdrop]
    simp only [mem_append, mem_cons, not_mem_nil, or_false, not_or]
    refine ⟨by decide, ?_, ?_⟩
    · rintro rfl
      exact absurd htens.1 (by decide)
    · rintro rfl
      exact absurd hunits (by decide)
  · cases h

theorem zero_notMem_of_mem {words : List Bytes} (hwords : ∀ w ∈ words, 0 ∉ w) (s : Bytes)
    (h : decide (s ∈ words) = true) : 0 ∉ s := hwords s (of_decide_eq_true h)

theorem zero_notMem_of_resource (s : Bytes) (h : (isIdent 96 s || s == text "*") = true) :
    0 ∉ s := by
  rw [Bool.or_eq_true, beq_iff_eq] at h
  rcases h with h | rfl
  · exact zero_notMem_of_isIdent 96 s h
  · decide

theorem ProtectedDocument.plain (h : ProtectedDocument x) : x.Plain := by
  refine h.fields.plain (by decide) ?_
  simp only [protectedNames, forall_mem_cons, not_mem_nil, false_implies, implies_true, and_true]
  exact ⟨fun v hv => h.deviceId.plain zero_notMem_of_isDeviceId hv,
    fun v hv => h.resource.plain zero_notMem_of_resource hv,
    fun v hv => h.reason.plain zero_notMem_of_validReason hv⟩

theorem RuleDocument.vlan_plain (h : RuleDocument x) :
    (∀ v, x.item (text "vlan_min") = some v → v.Plain) ∧
      ∀ v, x.item (text "vlan_max") = some v → v.Plain := by
  by_cases hop : x.item (text "operation") = some (.string (text "port.vlan"))
  · obtain ⟨lo, hi, hlo, hhi, -⟩ := h.vlan hop
    exact ⟨fun v hv => HasInt.plain ⟨lo, hlo⟩ hv, fun v hv => HasInt.plain ⟨hi, hhi⟩ hv⟩
  · obtain ⟨hmin, hmax⟩ := h.no_vlan hop
    exact ⟨fun v hv => by simp [hmin] at hv, fun v hv => by simp [hmax] at hv⟩

theorem RuleDocument.plain (h : RuleDocument x) : x.Plain := by
  refine h.fields.plain (by decide) ?_
  simp only [ruleNames, forall_mem_cons, not_mem_nil, false_implies, implies_true, and_true]
  exact ⟨fun v hv => h.deviceId.plain zero_notMem_of_isDeviceId hv,
    fun v hv => h.host.plain (zero_notMem_of_isIdent 256) hv,
    fun v hv => HasInt.plain h.port hv, fun v hv => HasInt.plain h.vendor hv,
    fun v hv => h.operation.plain (zero_notMem_of_mem (by decide)) hv,
    fun v hv => h.resource.plain (zero_notMem_of_isIdent 96) hv, h.vlan_plain⟩

theorem PrincipalDocument.plain (h : PrincipalDocument x) : x.Plain := by
  refine h.fields.plain (by decide) ?_
  simp only [principalNames, forall_mem_cons, not_mem_nil, false_implies, implies_true, and_true]
  obtain ⟨rules, hrules, -, hall⟩ := h.rules
  exact ⟨fun v hv => HasInt.plain h.uid hv,
    fun v hv => h.profile.plain (zero_notMem_of_mem (by decide)) hv,
    fun v hv => HasInt.plain h.expires hv,
    fun v hv => plain_of_item_eq_array hrules (fun r hr => (hall r hr).plain) hv⟩

theorem AppenderDocument.plain (h : AppenderDocument x) : x.Plain := by
  refine h.fields.plain (by decide) ?_
  simp only [appenderNames, forall_mem_cons, not_mem_nil, false_implies, implies_true, and_true]
  refine ⟨fun v hv => HasInt.plain h.uid hv, fun v hv => plain_of_item_eq_array h.types ?_ hv⟩
  rw [forall_mem_singleton]
  exact .string (by decide)

/-- **A policy is plain.** -/
theorem PolicyDocument.plain (h : PolicyDocument x) : x.Plain := by
  refine h.fields.plain (by decide) ?_
  simp only [rootNames, forall_mem_cons, not_mem_nil, false_implies, implies_true, and_true]
  obtain ⟨xs, hxs, -, hprotected⟩ := h.protected_
  obtain ⟨ps, hps, -, hprincipals, -, happenders⟩ := h.principals
  refine ⟨fun v hv => HasInt.plain ⟨1, h.version⟩ hv, fun v hv => HasInt.plain h.maxCalls hv,
    fun v hv => HasInt.plain h.maxDisruptive hv, fun v hv => HasInt.plain h.maxInflight hv,
    fun v hv => plain_of_item_eq_array hps (fun y hy => (hprincipals y hy).plain) hv,
    fun v hv => plain_of_item_eq_array hxs (fun y hy => (hprotected y hy).plain) hv, fun v hv => ?_⟩
  rcases happenders with hnone | ⟨as, has, -, hall, -⟩
  · simp [hnone] at hv
  · exact plain_of_item_eq_array has (fun y hy => (hall y hy).plain) hv

end

/-! ## The accepted texts -/

/-- **A text that is accepted** holds a policy, with known names and no name twice, exactly when all
of its names are plain and no string of it holds a zero byte. -/
theorem accepted_policyDocument_iff {L : Libc} {ready : Bool} {json : Bytes} {doc root : Json}
    (hdoc : parseToEnd L json = some doc) (h : virpPolicyParse L ready json = some root) :
    PolicyDocument doc ↔ doc.Plain := by
  refine ⟨PolicyDocument.plain, fun hplain => policyDocument_of_policyOk hplain ?_⟩
  rw [virpPolicyParse] at h
  split at h
  · cases h
  · rw [hdoc, Option.map_some, hplain.cutNames_eq] at h
    simp only [Option.ite_none_right_eq_some, Bool.and_eq_true] at h
    exact h.1.1

theorem parseToEnd_printValue {v : Json} (h : Printable L nestingLimit v) :
    parseToEnd L (printValue L v) = some v := by
  rw [parseToEnd, parseValue_text h]
  exact if_pos (by decide)

/-- A printed document that passes the checks is accepted. -/
theorem virpPolicyParse_printValue {v : Json} (h : Printable L nestingLimit v)
    (hlength : (cstr (printValue L v)).length ≤ 1024 * 1024)
    (hescape : (strstr (cstr (printValue L v)) (text "\\u0000")).isSome = false)
    (hok : policyOk v = true) : virpPolicyParse L true (printValue L v) = some v := by
  rw [virpPolicyParse, if_neg (by simp [hescape]; omega), parseToEnd_printValue h, Option.map_some,
    h.cutNames_eq]
  exact if_pos (by simp [hok])

namespace PolicyTextSample

/-- A C library that knows the natural numbers. -/
def libc : Libc where
  strtod t := (.finite (natOf t), t.length)
  formatG _ q := unsigned q.num.toNat

theorem libc_standard : libc.Standard where
  strtod_unsigned n _ := by simp only [libc, natOf_unsigned]
  formatG_natCast n _ := by simp only [libc, Rat.num_natCast, Int.toNat_natCast]

def number (n : Nat) : Json := .number (.finite n)

theorem printable_number {n : Nat} {levels : Nat} (h : n < 10 ^ 15) :
    Printable libc levels (number n) := .number (numberPrintable_natCast libc_standard h)

/-- One VLAN of one port. -/
def rule : Json := .object
  [(text "device_id", .string (text "00000000000000a1")), (text "host", .string (text "10.0.0.1")),
    (text "port", number 22), (text "vendor", number 1), (text "operation", .string (text "port.vlan")),
    (text "resource", .string (text "Gi1/0/1")), (text "vlan_min", number 10),
    (text "vlan_max", number 20)]

def principal : Json := .object
  [(text "uid", number 1001), (text "profile", .string (text "autonomous")),
    (text "expires", number 1900000000), (text "rules", .array [rule])]

/-- A policy with these principals, and more members of these names. -/
def policy (principals : List Json) (extra : List Bytes) : Json := .object
  ([(text "version", number 1), (text "max_calls", number 10), (text "max_disruptive", number 0),
    (text "max_inflight", number 1), (text "principals", .array principals),
    (text "protected", .array [])] ++ extra.map (fun name => (name, number 0)))

theorem printable_rule : Printable libc 996 rule := by
  refine @Printable.object libc 995 _ (by decide) ?_
  simp only [forall_mem_cons, not_mem_nil, false_imp_iff, implies_true, and_true]
  exact ⟨.string (by decide), .string (by decide), printable_number (by decide),
    printable_number (by decide), .string (by decide), .string (by decide),
    printable_number (by decide), printable_number (by decide)⟩

theorem printable_principal : Printable libc 998 principal := by
  refine @Printable.object libc 997 _ (by decide) ?_
  simp only [forall_mem_cons, not_mem_nil, false_imp_iff, implies_true, and_true]
  exact ⟨printable_number (by decide), .string (by decide), printable_number (by decide),
    @Printable.array libc 996 _ (forall_mem_singleton.mpr printable_rule)⟩

theorem printable_policy {extra : List Bytes} (hprincipals : ∀ x ∈ principals, Printable libc 998 x)
    (h : ∀ name ∈ extra, 0 ∉ name) :
    Printable libc nestingLimit (policy principals extra) := by
  refine @Printable.object libc 999 _ ?_ ?_
  · rw [forall_mem_append, forall_mem_map]
    simp only [forall_mem_cons, not_mem_nil, false_imp_iff, implies_true, and_true]
    exact ⟨by decide, h⟩
  · rw [forall_mem_append, forall_mem_map]
    simp only [forall_mem_cons, not_mem_nil, false_imp_iff, implies_true, and_true]
    exact ⟨⟨printable_number (by decide), printable_number (by decide), printable_number (by decide),
      printable_number (by decide), @Printable.array libc 998 _ hprincipals,
      @Printable.array libc 998 _ (by simp)⟩, fun name _ => printable_number (by decide)⟩

theorem plain_rule : rule.Plain := by
  refine .object (by decide) ?_
  simp only [forall_mem_cons, not_mem_nil, false_imp_iff, implies_true, and_true]
  exact ⟨.string (by decide), .string (by decide), .number _, .number _, .string (by decide),
    .string (by decide), .number _, .number _⟩

theorem plain_principal : principal.Plain := by
  refine .object (by decide) ?_
  simp only [forall_mem_cons, not_mem_nil, false_imp_iff, implies_true, and_true]
  exact ⟨.number _, .string (by decide), .number _, .array (forall_mem_singleton.mpr plain_rule)⟩

theorem plain_policy : (policy [principal] []).Plain := by
  refine .object (by decide) ?_
  simp only [map_nil, append_nil, forall_mem_cons, not_mem_nil, false_imp_iff,
    implies_true, and_true]
  exact ⟨.number _, .number _, .number _, .number _,
    .array (forall_mem_singleton.mpr plain_principal), .array (by simp)⟩

end PolicyTextSample

open PolicyTextSample in
/-- A text with one principal is accepted, and holds a policy. -/
theorem accepted_policyDocument_iff_sample :
    virpPolicyParse libc true (printValue libc (policy [principal] [])) = some (policy [principal] []) ∧
      PolicyDocument (policy [principal] []) := by
  have hprint : Printable libc nestingLimit (policy [principal] []) :=
    printable_policy (forall_mem_singleton.mpr printable_principal) (by simp)
  have haccept := virpPolicyParse_printValue hprint (by decide +kernel) (by decide +kernel)
    (by decide +kernel)
  exact ⟨haccept,
    (accepted_policyDocument_iff (parseToEnd_printValue hprint) haccept).mpr plain_policy⟩

open PolicyTextSample in
/-- A text with one more member, whose name is empty or holds bars, is accepted as well. -/
theorem unknown_name_accepted :
    ∀ name ∈ [[], text "version||max_calls", text "|max_calls", text "protected|"],
      virpPolicyParse libc true (printValue libc (policy [] [name])) = some (policy [] [name]) ∧
        parseToEnd libc (printValue libc (policy [] [name])) = some (policy [] [name]) ∧
        name ∉ rootNames ∧ ¬ PolicyDocument (policy [] [name]) := by
  have names : ∀ name ∈ [[], text "version||max_calls", text "|max_calls", text "protected|"],
      0 ∉ name ∧ name ∉ rootNames ∧ policyOk (policy [] [name]) = true ∧
      (cstr (printValue libc (policy [] [name]))).length ≤ 1024 * 1024 ∧
      (strstr (cstr (printValue libc (policy [] [name]))) (text "\\u0000")).isSome = false := by
    decide +kernel
  intro name hname
  obtain ⟨h0, hnot, hok, hlength, hescape⟩ := names name hname
  have hprint : Printable libc nestingLimit (policy [] [name]) :=
    printable_policy (by simp) (by simpa using h0)
  refine ⟨virpPolicyParse_printValue hprint hlength hescape hok, parseToEnd_printValue hprint, hnot,
    fun hdoc => hnot ?_⟩
  obtain ⟨members, heq, hall, -⟩ := hdoc.fields
  cases heq
  exact hall (name, number 0) (by simp)

open PolicyTextSample in
/-- So the names a policy may hold are not checked. -/
theorem unknown_names_accepted :
    List.Forall (fun name =>
      virpPolicyParse libc true (printValue libc (policy [] [name])) = some (policy [] [name]) ∧
        parseToEnd libc (printValue libc (policy [] [name])) = some (policy [] [name]) ∧
        name ∉ rootNames ∧ ¬ PolicyDocument (policy [] [name]))
      [[], text "version||max_calls", text "|max_calls", text "protected|"] :=
  forall_iff_forall_mem.mpr unknown_name_accepted

end Virp
