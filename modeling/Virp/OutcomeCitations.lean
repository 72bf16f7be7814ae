import Virp.IngressRuns
import Virp.CJson

/-! # The citation of an outcome

A `fed_outcome` names the body it reports on by a hash at the root of its JSON text.  The
gate counts the members of each of the two names, takes the one that is there exactly once,
and asks that an outcome backed by an error does not claim an execution.

A later reader of the text sees every member, whole names and whole strings, and of two members
with one name most take the last.  `OneCitation` is what the text says to any of them,
`accepted_citation_iff` when the gate's answer is that.  Three texts pass the gate and say more: a
second citation behind its own repetition, a value that goes on behind an escaped zero, and an
execution claimed behind a denial.
-/
namespace Virp

open List Json

/-- The member that holds a citation. -/
def FedCiteKind.member : FedCiteKind → Bytes
  | .observation => text "observation_sha256"
  | .error => text "error_sha256"

/-- The other citation. -/
def FedCiteKind.other : FedCiteKind → FedCiteKind
  | .observation => .error
  | .error => .observation

/-- The citation check accepts the body of an outcome, with this citation in force. -/
structure CitationAccepted (lc : Libc) (body : Bytes) (cite : FedCitation) : Prop where
  cited : fedOutcomeCitation (cjsonParse lc) body = some cite
  honest : cite.kind = .error → cite.executed = false

/-- A member that is a citation to any reader: one of the two names, and a hash. -/
def citesHash (m : Bytes × Json) : Bool :=
  (m.1 == FedCiteKind.observation.member || m.1 == FedCiteKind.error.member) &&
    match m.2 with
    | .string s => artifactHashOk s
    | _ => false

/-- **The text has one citation**: of all the members at the root exactly one cites a hash, it
is the one in force with its complete value, and next to an error no member says that
something was executed. -/
structure OneCitation (members : List (Bytes × Json)) (cite : FedCitation) : Prop where
  only : members.filter citesHash = [(cite.kind.member, .string cite.hash)]
  notExecuted : cite.kind = .error → (text "executed", Json.bool true) ∉ members

/-! ## What the gate sees -/

/-- The members that `strcmp` takes for this name. -/
def matching (members : List (Bytes × Json)) (name : Bytes) : List (Bytes × Json) :=
  members.filter (fun m => cstr m.1 == name)

/-- The string is a hash up to its first zero byte. -/
def readsAsHash : Json → Bool
  | .string s => artifactHashOk (cstr s)
  | _ => false

/-- There is no zero byte in the name, nor in the value if it is a string. -/
def ZeroFree (m : Bytes × Json) : Prop := (0 : UInt8) ∉ m.1 ∧ ∀ s, m.2 = .string s → (0 : UInt8) ∉ s

/-- **The text cannot be misread**: a citation that is repeated holds no hash, a hash that is
read has no zero byte in its name or behind it, and next to an error the first member called
`executed` is true if any is. -/
structure Unambiguous (members : List (Bytes × Json)) : Prop where
  repeated : ∀ kind : FedCiteKind, 1 < (matching members kind.member).length →
    ∀ m ∈ matching members kind.member, citesHash m = false
  complete : ∀ (kind : FedCiteKind) m, matching members kind.member = [m] →
    readsAsHash m.2 = true → ZeroFree m
  executed : ∀ m, matching members FedCiteKind.error.member = [m] → readsAsHash m.2 = true →
    (text "executed", Json.bool true) ∈ members →
    ∃ name, (matching members (text "executed")).head? = some (name, .bool true)

theorem zero_notMem_member (kind : FedCiteKind) : 0 ∉ kind.member := by
  cases kind <;> decide +kernel

theorem zero_notMem_of_artifactHashOk {s : Bytes} (h : artifactHashOk s = true) :
    0 ∉ s := by
  simp only [artifactHashOk, Bool.and_eq_true, all_eq_true] at h
  intro h0
  exact absurd (h.2 0 h0) (by decide)

variable {m : Bytes × Json}

/-- A member of one of the two names whose value is a hash. -/
theorem citesHash_iff : citesHash m = true ↔
      ∃ (kind : FedCiteKind) (s : Bytes), m = (kind.member, .string s) ∧
        artifactHashOk s = true := by
  obtain ⟨name, v⟩ := m
  simp only [citesHash, Bool.and_eq_true, Bool.or_eq_true, beq_iff_eq]
  constructor
  · rintro ⟨hname, hv⟩
    cases v with
    | string s =>
      rcases hname with rfl | rfl
      · exact ⟨.observation, s, rfl, hv⟩
      · exact ⟨.error, s, rfl, hv⟩
    | _ => cases hv
  · rintro ⟨kind, s, hm, hs⟩
    cases hm
    cases kind
    · exact ⟨.inl rfl, hs⟩
    · exact ⟨.inr rfl, hs⟩

section
variable {members : List (Bytes × Json)}

theorem mem_matching {name : Bytes} :
    m ∈ matching members name ↔ m ∈ members ∧ cstr m.1 = name := by
  simp [matching, mem_filter]

theorem readsAsHash_iff {v : Json} :
    readsAsHash v = true ↔ ∃ s, v = .string s ∧ artifactHashOk (cstr s) = true := by
  cases v <;> simp [readsAsHash]

theorem filter_cutMembers (name : Bytes) : (cutMembers members).filter (fun m => m.1 == name) =
      (matching members name).map fun m => (cstr m.1, m.2.cutNames) := by
  rw [cutMembers_eq_map, filter_map]
  rfl

theorem cutNames_eq_string {v : Json} {s : Bytes} : v.cutNames = .string s ↔ v = .string s := by
  cases v <;> simp [cutNames]

/-- What `fed_hash_member` finds. -/
theorem fedHashMember_cutMembers {name hash : Bytes} :
    fedHashMember (.object (cutMembers members)) name = some hash ↔
      ∃ m s, matching members name = [m] ∧ m.2 = .string s ∧ artifactHashOk (cstr s) = true ∧
        hash = cstr s := by
  simp only [fedHashMember, filter_cutMembers]
  constructor
  · intro h
    split at h
    · rename_i n s hlist
      obtain ⟨m, hm, hcut⟩ := map_eq_singleton_iff.mp hlist
      have hs := cutNames_eq_string.mp (Prod.mk.inj hcut).2
      split at h
      · rename_i hok
        exact ⟨m, s, hm, hs, hok, (Option.some.inj h).symm⟩
      · cases h
    · cases h
  · rintro ⟨m, s, hm, hs, hok, rfl⟩
    rw [hm]
    simp only [map_cons, map_nil, hs, cutNames]
    rw [if_pos hok]

/-- What `cJSON_GetObjectItemCaseSensitive` finds. -/
theorem item_cutMembers (name : Bytes) : (Json.object (cutMembers members)).item name =
      (matching members name).head?.map fun m => m.2.cutNames := by
  rw [item, cutMembers_eq_map, find?_map, matching, head?_filter, Option.map_map]
  rfl

end

/-! ## When the two agree -/

/-- What the gate saw of an accepted text. -/
structure GateSees (members : List (Bytes × Json)) (cite : FedCitation) : Prop where
  cited : fedHashMember (.object (cutMembers members)) cite.kind.member = some cite.hash
  alone : fedHashMember (.object (cutMembers members)) cite.kind.other.member = none
  executed : cite.executed = false →
    ∀ name, (matching members (text "executed")).head? ≠ some (name, .bool true)

/-- An accepted text has an object at its root. -/
theorem CitationAccepted.gateSees {lc : Libc} {body : Bytes} {cite : FedCitation}
    (h : CitationAccepted lc body cite) :
    ∃ members, parseText lc body = some (.object members) ∧ GateSees members cite := by
  have hcited := h.cited
  unfold fedOutcomeCitation cjsonParse at hcited
  cases hparse : parseText lc body with
  | none => simp [hparse] at hcited
  | some root =>
    cases root with
    | object members =>
      refine ⟨members, rfl, ?_⟩
      simp only [hparse, Option.map_some, cutNames, item_cutMembers] at hcited
      have hclaims : ∀ name, (matching members (text "executed")).head? = some (name, .bool true) →
          ((matching members (text "executed")).head?.map fun m => m.2.cutNames) =
            some (.bool true) := by
        intro name hhead
        rw [hhead]
        rfl
      split at hcited
      · rename_i hash hobs herr
        cases hcited
        refine ⟨hobs, herr, fun hfalse name hhead => ?_⟩
        simp only [hclaims name hhead] at hfalse
        cases hfalse
      · rename_i hash hobs herr
        cases hcited
        refine ⟨herr, hobs, fun hfalse name hhead => ?_⟩
        simp only [hclaims name hhead] at hfalse
        cases hfalse
      · cases hcited
    | _ => simp [hparse, cutNames, fedHashMember] at hcited

section
variable {members : List (Bytes × Json)} {cite : FedCitation}

/-- The other citation is not there once with a hash. -/
theorem GateSees.not_other (h : GateSees members cite)
    (hm : matching members cite.kind.other.member = [m]) : readsAsHash m.2 ≠ true := by
  intro hr
  obtain ⟨s, hs, hok⟩ := readsAsHash_iff.mp hr
  have := fedHashMember_cutMembers.mpr ⟨m, s, hm, hs, hok, rfl⟩
  rw [h.alone] at this
  cases this

/-- A hash that is read is that of the citation in force. -/
theorem GateSees.kind_eq (h : GateSees members cite) {kind : FedCiteKind}
    (hm : matching members kind.member = [m]) (hr : readsAsHash m.2 = true) : kind = cite.kind := by
  by_contra hne
  have hother : kind = cite.kind.other := by
    revert hne
    cases kind <;> cases cite.kind <;> simp [FedCiteKind.other]
  subst hother
  exact h.not_other hm hr

/-- One citation in the text cannot be misread. -/
theorem OneCitation.unambiguous (h : OneCitation members cite) (hg : GateSees members cite) :
    Unambiguous members := by
  obtain ⟨m₀, s, hm₀, hs, hok, hhash⟩ := fedHashMember_cutMembers.mp hg.cited
  have hforce : (cite.kind.member, string cite.hash) ∈ members :=
    (mem_filter.mp (h.only ▸ mem_singleton.mpr rfl)).1
  have heq : (cite.kind.member, string cite.hash) = m₀ := mem_singleton.mp
      (hm₀ ▸ mem_matching.mpr ⟨hforce, cstr_eq_self (zero_notMem_member cite.kind)⟩)
  refine ⟨?_, ?_, ?_⟩
  · -- a repeated name is the other one, and a hash under it would be a second citation
    intro kind hlen m hm
    by_contra hcites
    have hmem := (mem_matching.mp hm)
    have honly : m ∈ members.filter citesHash := mem_filter.mpr ⟨hmem.1, by simpa using hcites⟩
    rw [h.only, mem_singleton] at honly
    subst honly
    have hkind : kind.member = cite.kind.member := by
      rw [← hmem.2]
      exact cstr_eq_self (zero_notMem_member cite.kind)
    rw [hkind, hm₀] at hlen
    simp at hlen
  · intro kind m hm hr
    obtain rfl := hg.kind_eq hm hr
    obtain rfl : m₀ = m := by simpa using hm₀.symm.trans hm
    rw [← heq]
    refine ⟨zero_notMem_member _, ?_⟩
    intro t ht
    cases ht
    rw [hhash]
    exact zero_notMem_cstr s
  · intro m hm hr hexec
    exact absurd hexec (h.notExecuted (hg.kind_eq hm hr).symm)

/-- In a text that cannot be misread, every citation is the one in force. -/
theorem Unambiguous.cstr_eq_of_citesHash (h : Unambiguous members) (hg : GateSees members cite)
    (hm : m ∈ members) (hc : citesHash m = true) :
    cstr m.1 = cite.kind.member := by
  obtain ⟨kind, s, rfl, hs⟩ := citesHash_iff.mp hc
  have hmatch := mem_matching.mpr ⟨hm, cstr_eq_self (zero_notMem_member kind)⟩
  dsimp only at hmatch
  have hlen : ¬ 1 < (matching members kind.member).length := fun hlen => by
    rw [h.repeated kind hlen _ hmatch] at hc
    cases hc
  obtain ⟨m', hm'⟩ : ∃ m', matching members kind.member = [m'] := by
    refine length_eq_one_iff.mp ?_
    have := length_pos_of_mem hmatch
    omega
  have hhere : (kind.member, string s) = m' := mem_singleton.mp (hm' ▸ hmatch)
  subst hhere
  have hr : readsAsHash (string s) = true := by
    rw [readsAsHash, cstr_eq_self (zero_notMem_of_artifactHashOk hs)]
    exact hs
  rw [← hg.kind_eq hm' hr]
  exact cstr_eq_self (zero_notMem_member kind)

/-- A text that cannot be misread has one citation. -/
theorem Unambiguous.oneCitation (h : Unambiguous members) (hg : GateSees members cite)
    (honest : cite.kind = .error → cite.executed = false) : OneCitation members cite := by
  obtain ⟨m₀, s, hm₀, hs, hok, hhash⟩ := fedHashMember_cutMembers.mp hg.cited
  have hr : readsAsHash m₀.2 = true := readsAsHash_iff.mpr ⟨s, hs, hok⟩
  have hzero := h.complete cite.kind m₀ hm₀ hr
  have hname : m₀.1 = cite.kind.member := by
    have hmem : m₀ ∈ matching members cite.kind.member := hm₀ ▸ mem_singleton.mpr rfl
    rw [← (mem_matching.mp hmem).2, cstr_eq_self hzero.1]
  have hvalue : m₀.2 = .string cite.hash := by
    rw [hs, hhash, cstr_eq_self (hzero.2 s hs)]
  have heq : m₀ = (cite.kind.member, .string cite.hash) := Prod.ext hname hvalue
  have hcites : citesHash m₀ = true :=
    citesHash_iff.mpr ⟨cite.kind, cite.hash, heq, by rw [hhash]; exact hok⟩
  constructor
  · have hsame :
        members.filter citesHash = (matching members cite.kind.member).filter citesHash := by
      rw [matching, filter_filter]
      refine filter_congr fun m hm => ?_
      by_cases hc : citesHash m = true
      · simp [hc, h.cstr_eq_of_citesHash hg hm hc]
      · simp [hc]
    rw [hsame, hm₀, filter_cons_of_pos hcites, filter_nil, heq]
  · intro hkind hexec
    rw [hkind] at hm₀
    obtain ⟨name, hhead⟩ := h.executed m₀ hm₀ hr hexec
    exact hg.executed (honest hkind) name hhead

end

/-- **An accepted text has one citation exactly if it cannot be misread.** -/
theorem accepted_citation_iff (lc : Libc) (body : Bytes) (cite : FedCitation)
    (h : CitationAccepted lc body cite) :
    ∃ members, parseText lc body = some (.object members) ∧
      (OneCitation members cite ↔ Unambiguous members) := by
  obtain ⟨members, hparse, hg⟩ := h.gateSees
  exact ⟨members, hparse, fun hone => hone.unambiguous hg, fun hun => hun.oneCitation hg h.honest⟩

namespace OutcomeSample

/-- No number is read. -/
def libc : Libc := ⟨fun _ => (.finite 0, 0), fun _ _ => []⟩

def first : Bytes := List.replicate 64 0x61

def second : Bytes := List.replicate 64 0x62

/-- An error that denies an execution. -/
def denied : List (Bytes × Json) :=
  [(text "error_sha256", .string second), (text "executed", .bool false)]

/-- An observation, and a repeated error. -/
def masked : List (Bytes × Json) :=
  [(text "observation_sha256", .string first), (text "error_sha256", .string second),
    (text "error_sha256", .string second)]

/-- An error that denies an execution and then claims it. -/
def claimed : List (Bytes × Json) :=
  [(text "error_sha256", .string second), (text "executed", .bool false),
    (text "executed", .bool true)]

/-- A body with these members. -/
def body (members : List (Bytes × Json)) : Bytes := printValue libc (.object members)

/-- An observation whose value goes on behind a zero. -/
def longer : Bytes :=
  text "\x7b\"observation_sha256\":\"" ++ first ++ text "\\u0000x\"\x7d"

theorem parseText_body : parseText libc (body denied) = some (.object denied) ∧
    parseText libc (body masked) = some (.object masked) ∧
    parseText libc (body claimed) = some (.object claimed) := by
  have string : ∀ {s : Bytes}, 0 ∉ s → Printable libc 999 (.string s) := .string
  have bool : ∀ b, Printable libc 999 (.bool b) := .bool
  have hfirst : 0 ∉ first := by decide +kernel
  have hsecond : 0 ∉ second := by decide +kernel
  refine ⟨parseText_printValue (@Printable.object libc 999 _ (by decide +kernel) ?_),
    parseText_printValue (@Printable.object libc 999 _ (by decide +kernel) ?_),
    parseText_printValue (@Printable.object libc 999 _ (by decide +kernel) ?_)⟩
  · simp [denied, string hsecond, bool]
  · simp [masked, string hfirst, string hsecond]
  · simp [claimed, string hsecond, bool]

end OutcomeSample

section
open OutcomeSample

/-- An outcome backed by an error, as it should be. -/
theorem accepted_citation_iff_denied :
    CitationAccepted libc (body denied) ⟨.error, second, false⟩ ∧
    ∃ members, parseText libc (body denied) = some (.object members) ∧
      (OneCitation members ⟨.error, second, false⟩ ↔ Unambiguous members) ∧
      OneCitation members ⟨.error, second, false⟩ := by
  have haccepted : CitationAccepted libc (body denied) ⟨.error, second, false⟩ :=
    ⟨by decide +kernel, fun _ => rfl⟩
  obtain ⟨members, hmembers, hiff⟩ := accepted_citation_iff libc (body denied) _ haccepted
  obtain rfl := object.inj (Option.some.inj (parseText_body.1.symm.trans hmembers))
  exact ⟨haccepted, _, hmembers, hiff, rfl, fun _ => by simp [denied]⟩

/-- Three texts that pass the check and do not have one citation. -/
theorem accepted_texts_misread :
    (CitationAccepted libc (body masked) ⟨.observation, first, false⟩ ∧
      parseText libc (body masked) = some (.object masked) ∧
      (text "error_sha256", Json.string second) ∈ masked ∧
      ¬ OneCitation masked ⟨.observation, first, false⟩) ∧
    (CitationAccepted libc longer ⟨.observation, first, false⟩ ∧
      parseText libc longer =
        some (.object [(text "observation_sha256", .string (first ++ [0x00, 0x78]))]) ∧
      ¬ OneCitation [(text "observation_sha256", .string (first ++ [0x00, 0x78]))]
        ⟨.observation, first, false⟩) ∧
    (CitationAccepted libc (body claimed) ⟨.error, second, false⟩ ∧
      parseText libc (body claimed) = some (.object claimed) ∧
      (text "executed", Json.bool true) ∈ claimed ∧
      ¬ OneCitation claimed ⟨.error, second, false⟩) := by
  refine ⟨⟨⟨by decide +kernel, fun _ => rfl⟩, parseText_body.2.1, by simp [masked], fun h => ?_⟩,
    ⟨⟨by decide +kernel, fun _ => rfl⟩, rfl, fun h => ?_⟩,
    ⟨by decide +kernel, fun _ => rfl⟩, parseText_body.2.2, by simp [claimed], fun h => ?_⟩
  · exact absurd (congrArg List.length h.only) (by decide +kernel)
  · exact absurd (congrArg List.length h.only) (by decide +kernel)
  · exact h.notExecuted rfl (by simp [claimed])

end

end Virp
