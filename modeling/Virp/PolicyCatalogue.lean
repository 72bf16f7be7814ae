import Virp.Policy
import Mathlib.Data.List.Chain

/-! # The catalogue of a policy

Before a command is looked up, its blanks are squeezed, a shell's metacharacters are refused, and on
a network device the keywords are put in lower case and a leading `do` is dropped; what is executed
is the command as normalised, with the port's name spelled as the device does.  `InCatalogue` is the
grammar of what can be accepted.  A command that is accepted has been brought into that grammar, and
classifying the result again gives the same (`classified_command`).
-/
namespace Virp

open Decimal List

/-! ## Single spaces -/

/-- The bytes `normalize` refuses although they can be printed. -/
def policyMetacharacters : Bytes :=
  [0x3B, 0x7C, 0x26, 0x24, 0x60, 0x3C, 0x3E, 0x5C, 0x22, 0x27, 0x7B, 0x7D, 0x5B, 0x5D, 0x21]

/-- A byte that can be printed, other than a space, and is no metacharacter. -/
def PlainByte (c : UInt8) : Prop := 33 ≤ c ∧ c ≤ 126 ∧ c ∉ policyMetacharacters

instance decidablePlainByte (c : UInt8) : Decidable (PlainByte c) :=
  inferInstanceAs (Decidable (_ ∧ _ ∧ _))

/-- Plain bytes with single spaces between them. -/
structure SingleSpaced (s : Bytes) : Prop where
  ne_nil : s ≠ []
  bytes : ∀ c ∈ s, c = 0x20 ∨ PlainByte c
  head : s.head? ≠ some 0x20
  last : s.getLast? ≠ some 0x20
  apart : s.IsChain (fun a b => ¬ (a = 0x20 ∧ b = 0x20))

variable {v : Vendor} {a : PolicyAction}

section
variable {s t out rest : Bytes} {c : UInt8} {space : Bool}

theorem PlainByte.ne_space (h : PlainByte c) : c ≠ 0x20 := by
  rintro rfl
  exact absurd h (by decide)

/-- What `normalize` does with a plain byte. -/
theorem normalizeLoop_plain (h : PlainByte c) :
    normalizeLoop (c :: rest) out space =
      normalizeLoop rest (out ++ (if space then [0x20] else []) ++ [c]) false := by
  obtain ⟨hlo, hhi, hmeta⟩ := h
  have hblank : ¬ (c = 0x20 ∨ c = 0x09) := by
    rintro (rfl | rfl) <;> exact absurd hlo (by decide)
  have hgood : ¬ (c < 33 ∨ 126 < c ∨ c ∈ policyMetacharacters) := by
    rintro (hc | hc | hc)
    · exact UInt8.not_lt.mpr hlo hc
    · exact UInt8.not_lt.mpr hhi hc
    · exact hmeta hc
  rw [normalizeLoop, if_neg hblank]
  exact if_neg hgood

theorem singleSpaced_singleton (h : PlainByte c) : SingleSpaced [c] := by
  refine ⟨cons_ne_nil c [], ?_, ?_, ?_, isChain_singleton c⟩
  · intro x hx
    rw [mem_singleton.mp hx]
    exact .inr h
  · simpa using h.ne_space
  · simpa using h.ne_space

/-- One more byte, in the last word or in a new one. -/
theorem SingleSpaced.concat (h : SingleSpaced s) (hc : PlainByte c) (space : Bool) :
    SingleSpaced (s ++ (if space then [0x20] else []) ++ [c]) := by
  have hhead : (s ++ (if space then [0x20] else []) ++ [c]).head? = s.head? := by
    rw [append_assoc, head?_append_of_ne_nil _ h.ne_nil]
  refine ⟨by simp, ?_, hhead ▸ h.head, ?_, ?_⟩
  · intro x hx
    rcases mem_append.mp hx with hx | hx
    · rcases mem_append.mp hx with hx | hx
      · exact h.bytes x hx
      · cases space
        · cases hx
        · exact .inl (mem_singleton.mp hx)
    · rw [mem_singleton.mp hx]
      exact .inr hc
  · rw [getLast?_concat]
    simpa using hc.ne_space
  · rw [append_assoc, isChain_append]
    refine ⟨h.apart, ?_, ?_⟩
    · cases space
      · exact isChain_singleton c
      · simpa using hc.ne_space
    intro x hx y _
    exact fun hxy => h.last (hxy.1 ▸ hx)

theorem normalizeLoop_singleSpaced (h : normalizeLoop rest out space = some s)
    (hout : out = [] ∨ SingleSpaced out) (hspace : space = true → out ≠ []) :
    SingleSpaced s ∧ s.length ≤ out.length + rest.length + space.toNat := by
  induction rest generalizing out space with
  | nil =>
    rw [normalizeLoop] at h
    split_ifs at h with hnil
    cases h
    exact ⟨hout.resolve_left hnil, by omega⟩
  | cons c rest ih =>
    by_cases hblank : c = 0x20 ∨ c = 0x09
    · rw [normalizeLoop, if_pos hblank] at h
      obtain ⟨hs, hlen⟩ := ih h hout (by split_ifs with hnil <;> simp_all)
      refine ⟨hs, hlen.trans ?_⟩
      rw [length_cons]
      split_ifs
      · omega
      · have := Bool.toNat_le true
        omega
    · have hplain : PlainByte c := by
        by_contra hplain
        have hbad : c < 33 ∨ 126 < c ∨ c ∈ policyMetacharacters := by
          by_contra hgood
          obtain ⟨hlo, hhi, hmeta⟩ := not_or.mp hgood |>.imp_right not_or.mp
          exact hplain ⟨UInt8.not_lt.mp hlo, UInt8.not_lt.mp hhi, hmeta⟩
        rw [normalizeLoop, if_neg hblank] at h
        cases (if_pos hbad).symm.trans h
      have hspaced : SingleSpaced (out ++ (if space then [0x20] else []) ++ [c]) := by
        rcases hout with rfl | hout
        · cases space
          · exact singleSpaced_singleton hplain
          · exact absurd rfl (hspace rfl)
        · exact hout.concat hplain space
      rw [normalizeLoop_plain hplain] at h
      obtain ⟨hs, hlen⟩ := ih h (.inr hspaced) (by simp)
      refine ⟨hs, hlen.trans ?_⟩
      rw [length_append, length_append, length_cons]
      cases space <;> simp <;> omega

/-- What `normalize` returns. -/
theorem normalize_singleSpaced {command : Bytes} (h : normalize command = some s) :
    SingleSpaced s ∧ s.length < 512 := by
  unfold normalize at h
  split_ifs at h with hlen
  obtain ⟨hs, hle⟩ := normalizeLoop_singleSpaced h (.inl rfl) (by simp)
  refine ⟨hs, ?_⟩
  simp at hle
  omega

/-- A text with single spaces is written as it is read. -/
theorem normalizeLoop_of_apart (hbytes : ∀ c ∈ s, c = 0x20 ∨ PlainByte c)
    (hhead : out = [] → s.head? ≠ some 0x20) (hlast : s.getLast? ≠ some 0x20)
    (hapart : s.IsChain (fun a b => ¬ (a = 0x20 ∧ b = 0x20))) (hne : out ++ s ≠ []) :
    normalizeLoop s out false = some (out ++ s) := by
  induction hn : s.length using Nat.strong_induction_on generalizing s out with
  | _ n ih =>
    cases s with
    | nil =>
      rw [append_nil] at hne ⊢
      rw [normalizeLoop, if_neg hne]
    | cons c rest =>
      rw [forall_mem_cons] at hbytes
      rcases hbytes with ⟨rfl | hc, hbytes⟩
      · -- a space: a plain byte is behind it
        have hout : out ≠ [] := fun h => hhead h rfl
        cases rest with
        | nil => exact absurd rfl hlast
        | cons x rest =>
          rw [forall_mem_cons] at hbytes
          rw [isChain_cons_cons] at hapart
          have hx : PlainByte x := hbytes.1.resolve_left fun hx => hapart.1 ⟨rfl, hx⟩
          have hstep : normalizeLoop (0x20 :: x :: rest) out false =
              normalizeLoop rest (out ++ [0x20] ++ [x]) false := by
            rw [normalizeLoop, if_pos (.inl rfl), if_neg hout, normalizeLoop_plain hx]
            rfl
          rw [hstep, ih rest.length (by simp at hn; omega) hbytes.2 (by simp) ?_ hapart.2.tail
            (by simp) rfl]
          · simp
          · cases rest with
            | nil => simp
            | cons y rest => simpa using hlast
      · rw [normalizeLoop_plain hc, ih rest.length (by simp at hn; omega) hbytes (by simp) ?_
          hapart.tail (by simp) rfl]
        · simp
        · cases rest with
          | nil => simp
          | cons y rest => simpa using hlast

theorem SingleSpaced.normalize_eq (h : SingleSpaced s) (hlen : s.length < 512) :
    normalize s = some s := by
  rw [normalize, if_neg (Nat.not_le.mpr hlen)]
  exact normalizeLoop_of_apart h.bytes (fun _ => h.head) h.last h.apart (by simpa using h.ne_nil)

/-! ## Case -/

theorem toLower_facts (c : UInt8) : (toLower c = 0x20 ↔ c = 0x20) ∧
    (PlainByte (toLower c) ↔ PlainByte c) ∧ toLower (toLower c) = toLower c := by
  have table : ∀ n : Fin 256, (toLower (UInt8.ofNat n) = 0x20 ↔ UInt8.ofNat n = 0x20) ∧
      (PlainByte (toLower (UInt8.ofNat n)) ↔ PlainByte (UInt8.ofNat n)) ∧
      toLower (toLower (UInt8.ofNat n)) = toLower (UInt8.ofNat n) := by decide +kernel
  simpa using table ⟨c.toNat, c.toNat_lt⟩

theorem map_toLower_map_toLower (s : Bytes) : (s.map toLower).map toLower = s.map toLower := by
  rw [map_map]
  exact map_congr_left fun c _ => (toLower_facts c).2.2

theorem singleSpaced_map_toLower : SingleSpaced (s.map toLower) ↔ SingleSpaced s := by
  have hspace : ∀ o : Option UInt8, o.map toLower = some 0x20 ↔ o = some 0x20 := by
    intro o
    cases o with
    | none => simp
    | some c => simpa using (toLower_facts c).1
  have hchain : (s.map toLower).IsChain (fun a b => ¬ (a = 0x20 ∧ b = 0x20)) ↔
      s.IsChain (fun a b => ¬ (a = 0x20 ∧ b = 0x20)) := by
    rw [isChain_map]
    simp only [(toLower_facts _).1]
  have hbytes : (∀ c ∈ s.map toLower, c = 0x20 ∨ PlainByte c) ↔
      ∀ c ∈ s, c = 0x20 ∨ PlainByte c := by
    rw [forall_mem_map]
    simp only [(toLower_facts _).1, (toLower_facts _).2.1]
  constructor
  · rintro ⟨hne, hb, hhead, hlast, hapart⟩
    rw [head?_map, Ne, hspace] at hhead
    rw [getLast?_map, Ne, hspace] at hlast
    exact ⟨by simpa using hne, hbytes.mp hb, hhead, hlast, hchain.mp hapart⟩
  · rintro ⟨hne, hb, hhead, hlast, hapart⟩
    refine ⟨by simpa using hne, hbytes.mpr hb, ?_, ?_, hchain.mpr hapart⟩
    · rwa [head?_map, Ne, hspace]
    · rwa [getLast?_map, Ne, hspace]

/-- Texts that differ in case only. -/
theorem SingleSpaced.of_case (h : SingleSpaced s) (hst : t.map toLower = s.map toLower) :
    SingleSpaced t := by
  rw [← singleSpaced_map_toLower, hst, singleSpaced_map_toLower]
  exact h

theorem strstr_cons (c : UInt8) (s pattern : Bytes) : strstr (c :: s) pattern =
      if pattern.isPrefixOf (c :: s) then some 0 else (strstr s pattern).map (· + 1) := by
  rw [strstr, length_cons, range_succ_eq_map, find?_cons, drop_zero]
  cases pattern.isPrefixOf (c :: s) with
  | true => rfl
  | false =>
    rw [find?_map]
    rfl

theorem text_description : text " description " = 0x20 :: text "description " := by decide

/-- The keywords are put in lower case from the left, up to a `description`. -/
theorem lowerKeywords_cons (c : UInt8) (s : Bytes) : lowerKeywords (c :: s) =
      if (text " description ").isPrefixOf ((c :: s).map toLower) then
        ((c :: s).take 13).map toLower ++ (c :: s).drop 13
      else toLower c :: lowerKeywords s := by
  simp only [lowerKeywords, map_cons, strstr_cons]
  split_ifs with h
  · simp only [← map_cons, ← map_take]
  · cases strstr (s.map toLower) (text " description ") with
    | none => simp
    | some i => simp

theorem map_toLower_lowerKeywords (s : Bytes) : (lowerKeywords s).map toLower = s.map toLower := by
  induction s with
  | nil => rfl
  | cons c s ih =>
    rw [lowerKeywords_cons]
    split_ifs
    · rw [map_append, map_toLower_map_toLower, ← map_append, take_append_drop]
    · rw [map_cons, map_cons, ih, (toLower_facts c).2.2]

@[simp] theorem length_lowerKeywords (s : Bytes) : (lowerKeywords s).length = s.length := by
  have := congrArg List.length (map_toLower_lowerKeywords s)
  simpa using this

theorem lowerKeywords_of_description (h : (text " description ").isPrefixOf (s.map toLower) = true) :
    13 ≤ s.length ∧ lowerKeywords s = (s.take 13).map toLower ++ s.drop 13 := by
  cases s with
  | nil => exact absurd h (by decide)
  | cons c s =>
    have hlen := (List.isPrefixOf_iff_prefix.mp h).length_le
    rw [length_map] at hlen
    exact ⟨hlen, by rw [lowerKeywords_cons, if_pos h]⟩

@[simp] theorem lowerKeywords_lowerKeywords (s : Bytes) :
    lowerKeywords (lowerKeywords s) = lowerKeywords s := by
  induction s with
  | nil => rfl
  | cons c s ih =>
    have hlower := map_toLower_lowerKeywords (c :: s)
    by_cases h : (text " description ").isPrefixOf ((c :: s).map toLower) = true
    · obtain ⟨hlen, heq⟩ := lowerKeywords_of_description h
      rw [← hlower] at h
      rw [(lowerKeywords_of_description h).2, heq]
      have htake : (((c :: s).take 13).map toLower).length = 13 := by
        rw [length_map, length_take, Nat.min_eq_left hlen]
      rw [take_left' htake, drop_left' htake, map_toLower_map_toLower]
    · have heq : lowerKeywords (c :: s) = toLower c :: lowerKeywords s := by
        rw [lowerKeywords_cons, if_neg h]
      rw [← hlower] at h
      rw [heq] at h ⊢
      rw [lowerKeywords_cons, if_neg h, (toLower_facts c).2.2, ih]

/-- A word has no `description` in it. -/
theorem lowerKeywords_append {w : Bytes} (hw : 0x20 ∉ w) (r : Bytes) :
    lowerKeywords (w ++ r) = w.map toLower ++ lowerKeywords r := by
  induction w with
  | nil => rfl
  | cons c w ih =>
    rw [mem_cons, not_or] at hw
    have hc : toLower c ≠ 0x20 := fun h => hw.1 ((toLower_facts c).1.mp h).symm
    rw [cons_append, lowerKeywords_cons, if_neg, ih hw.2, map_cons, cons_append]
    rw [text_description, map_cons, isPrefixOf_iff_prefix, cons_prefix_cons]
    exact fun h => hc h.1.symm

/-- A word that does not start a description. -/
theorem lowerKeywords_space {r : Bytes}
    (h : ¬ (text "description ").isPrefixOf (r.map toLower) = true) :
    lowerKeywords (0x20 :: r) = 0x20 :: lowerKeywords r := by
  rw [lowerKeywords_cons, if_neg]
  · rfl
  · rw [text_description, map_cons, isPrefixOf_iff_prefix, cons_prefix_cons]
    rw [List.isPrefixOf_iff_prefix] at h
    exact fun hp => h hp.2

/-- What is behind a space. -/
theorem SingleSpaced.of_append {w : Bytes} (h : SingleSpaced (w ++ 0x20 :: s)) : SingleSpaced s := by
  have hne : s ≠ [] := by
    rintro rfl
    exact h.last (by simp)
  have hchain := (isChain_append.mp h.apart).2.1
  refine ⟨hne, fun c hc => h.bytes c (by simp [hc]), ?_, ?_, hchain.tail⟩
  · intro hhead
    obtain ⟨r, rfl⟩ := head?_eq_some_iff.mp hhead
    exact (isChain_cons_cons.mp hchain).1 ⟨rfl, rfl⟩
  · intro hlast
    have hlast' : (w ++ 0x20 :: s).getLast? = s.getLast? := by
      rw [getLast?_append_of_ne_nil _ (cons_ne_nil _ _), getLast?_cons_of_ne_nil hne]
    exact h.last (hlast'.trans hlast)

/-- The vendors with keywords. -/
def IsCli (v : Vendor) : Prop :=
  (v = .ciscoIos ∨ v = .ciscoIosxe) ∨ v = .ciscoAsa ∨ v = .juniper ∨ v = .fortinet

instance decidableIsCli (v : Vendor) : Decidable (IsCli v) :=
  inferInstanceAs (Decidable ((_ ∨ _) ∨ _))

theorem isPrefixOf_do_iff : (text "do ").isPrefixOf s = true ↔ ∃ r, s = text "do" ++ 0x20 :: r := by
  rw [List.isPrefixOf_iff_prefix]
  constructor
  · rintro ⟨r, rfl⟩
    exact ⟨r, rfl⟩
  · rintro ⟨r, rfl⟩
    exact ⟨r, rfl⟩

/-- A command as it is looked up has single spaces, and its keywords are in lower case unless it
starts with a description. -/
theorem normalizeFor_some {command : Bytes} (h : normalizeFor v command = some s) :
    SingleSpaced s ∧ s.length < 512 ∧
      (IsCli v → ¬ (text "description ").isPrefixOf (s.map toLower) = true → lowerKeywords s = s) := by
  obtain ⟨c, hc, h⟩ := Option.map_eq_some_iff.mp h
  obtain ⟨hspaced, hlen⟩ := normalize_singleSpaced hc
  dsimp only at h
  split_ifs at h with hcli hdo
  · subst h
    obtain ⟨r, hr⟩ := isPrefixOf_do_iff.mp hdo.2
    have hspaced' : SingleSpaced (lowerKeywords c) := hspaced.of_case (map_toLower_lowerKeywords c)
    have hlen' : (lowerKeywords c).length < 512 := by rwa [length_lowerKeywords]
    have hidem := lowerKeywords_lowerKeywords c
    rw [hr] at hspaced' hlen' hidem ⊢
    refine ⟨hspaced'.of_append, ?_, fun _ hdesc => ?_⟩
    · change r.length < 512
      rw [length_append, length_cons] at hlen'
      omega
    · change lowerKeywords r = r
      have hdesc' : ¬ (text "description ").isPrefixOf (r.map toLower) = true := hdesc
      rw [lowerKeywords_append (by decide), lowerKeywords_space hdesc'] at hidem
      exact (cons.inj (append_cancel_left hidem)).2
  · subst h
    refine ⟨hspaced.of_case (map_toLower_lowerKeywords c), by rwa [length_lowerKeywords], ?_⟩
    exact fun _ _ => lowerKeywords_lowerKeywords c
  · subst h
    exact ⟨hspaced, hlen, fun h => absurd h hcli⟩

/-- What is normalised to a text that is spelled as it is looked up. -/
theorem normalizeFor_eq (ht : SingleSpaced t) (hlen : t.length < 512)
    (hcli : IsCli v → lowerKeywords t = s) (hplain : ¬ IsCli v → t = s)
    (hdo : IsCli v → ¬ (text "do ").isPrefixOf s = true) : normalizeFor v t = some s := by
  rw [normalizeFor, ht.normalize_eq hlen, Option.map_some]
  dsimp only
  split_ifs with hv hdo'
  · rw [hcli hv] at hdo'
    exact absurd hdo'.2 (hdo hv)
  · rw [hcli hv]
  · rw [hplain hv]

end

/-! ## The grammar -/

/-- The reads of a network device. -/
def networkReads : List Bytes :=
  [text "show version", text "show clock", text "show interfaces", text "show interfaces status",
    text "show ip route"]

/-- The reads of a host. -/
def hostReads : List Bytes := [text "uptime", text "hostname", text "uname -sr"]

/-- The forms of `system.read`. -/
def systemReads : Vendor → List Bytes
  | .ciscoIos | .ciscoIosxe | .ciscoAsa | .juniper => networkReads
  | .fortinet => networkReads ++ [text "get system status"]
  | .linux | .proxmox => hostReads
  | .mock => hostReads ++ [text "show version"]
  | _ => []

/-- The forms of `host.reboot`. -/
def hostReboots : Vendor → List Bytes
  | .ciscoIos | .ciscoIosxe => [text "reload"]
  | .ciscoAsa => [text "reload noconfirm"]
  | .juniper => [text "request system reboot"]
  | .fortinet => [text "execute reboot"]
  | .linux | .proxmox | .mock => [text "reboot", text "systemctl reboot"]
  | _ => []

/-- The tools for virtual machines and containers, and what they call their resources. -/
def vmTools : List (Bytes × Bytes) := [(text "qm", text "vm:"), (text "pct", text "ct:")]

/-- The verbs of these tools, their operations and effects. -/
def vmVerbs : List (Bytes × Bytes × Effect) :=
  [(text "status", text "vm.read", .read), (text "reboot", text "vm.reboot", .disruptive),
    (text "destroy", text "vm.delete", .disruptive), (text "start", text "vm.start", .change)]

/-- A full port name: its kind, and numbers with slashes between them. -/
structure PortName (port : Bytes) : Prop where
  spelled : ∃ kind ∈ [text "Ethernet", text "GigabitEthernet"], ∃ numbers : List Bytes,
    numbers ≠ [] ∧ (∀ w ∈ numbers, w ≠ [] ∧ ∀ c ∈ w, isDigit c = true) ∧
      port = kind ++ [0x2F].intercalate numbers
  length_lt : port.length < 80

/-- What may be said of a port: the line, its operation and its VLAN. -/
inductive PortLine : Bytes → Bytes → Nat → Prop
  | description {payload : Bytes} (hpos : payload ≠ []) (hle : payload.length ≤ 128) :
    PortLine (text "description " ++ payload) (text "port.description") 0
  | vlan {n : Nat} (hpos : 1 ≤ n) (hle : n ≤ 4094) :
    PortLine (text "switchport access vlan " ++ unsigned n) (text "port.vlan") n
  | access : PortLine (text "switchport mode access") (text "port.access") 0

/-- The catalogue: the forms a vendor has, and the operation, effect, resource and VLAN that each
form names. -/
inductive InCatalogue (v : Vendor) : Bytes → Bytes → Effect → Bytes → Nat → Prop
  | systemRead {s : Bytes} (h : s ∈ systemReads v) :
    InCatalogue v s (text "system.read") .read (text "host") 0
  | hostReboot {s : Bytes} (h : s ∈ hostReboots v) :
    InCatalogue v s (text "host.reboot") .disruptive (text "host") 0
  | machine {tool kind verb operation : Bytes} {effect : Effect} {id : Nat}
    (hv : v = .linux ∨ v = .proxmox) (htool : (tool, kind) ∈ vmTools)
    (hverb : (verb, operation, effect) ∈ vmVerbs) (hmin : 100 ≤ id) (hmax : id ≤ 100000000) :
    InCatalogue v (tool ++ 0x20 :: verb ++ 0x20 :: unsigned id) operation effect
      (kind ++ unsigned id) 0
  | port {port line operation : Bytes} {vlan : Nat} (hv : v = .ciscoIos ∨ v = .ciscoIosxe)
    (hport : PortName port) (hline : PortLine line operation vlan) :
    InCatalogue v (text "interface " ++ port ++ 0x20 :: line) operation .change
      (text "port:" ++ port.map toLower) vlan

theorem mem_systemReads {s : Bytes} (h : isSystemRead v s = true) : s ∈ systemReads v := by
  cases v <;> simp_all [isSystemRead, isHost, systemReads, networkReads, hostReads, or_assoc]

theorem mem_hostReboots {s : Bytes} (h : isHostReboot v s = true) : s ∈ hostReboots v := by
  cases v <;> simp_all [isHostReboot, isHost, hostReboots]

/-- The fixed forms are spelled as they are looked up. -/
theorem normalizeFor_fixed {s : Bytes} (h : s ∈ systemReads v ++ hostReboots v) :
    normalizeFor v s = some s := by
  have table : ∀ s ∈ systemReads v ++ hostReboots v, normalizeFor v s = some s := by
    cases v <;> decide +kernel
  exact table s h

/-! ## Virtual machines -/

section
variable {s : Bytes} {n w : Nat}

theorem digit_of_isDigit {c : UInt8} (h : isDigit c = true) : 48 ≤ c.toNat ∧ c.toNat ≤ 57 := by
  simp only [isDigit, Bool.and_eq_true, decide_eq_true_eq, UInt8.le_iff_toNat_le] at h
  exact h

/-- A number is read from its numeral only. -/
theorem policyNumber_eq_some (h : policyNumber s = some n) : s = unsigned n ∧ n ≤ 100000000 := by
  unfold policyNumber at h
  dsimp only at h
  split_ifs at h with hbad
  simp only [not_or] at hbad
  obtain ⟨hne, hzero, hdigits, hmax⟩ := hbad
  cases h
  rw [Bool.not_eq_false, all_eq_true] at hdigits
  refine ⟨(unsigned_natOf (fun c hc => digit_of_isDigit (hdigits c hc)) hne ?_).symm,
    Nat.not_lt.mp hmax⟩
  intro hhead
  have hlen : ¬ 1 < s.length := fun hlen => hzero ⟨hhead, hlen⟩
  have := length_pos_iff.mpr hne
  omega

/-- The text up to its first space. -/
theorem takeWhile_space (s : Bytes) : (0x20 ∉ s ∧ s.takeWhile (· != 0x20) = s) ∨
    ∃ x r, s = x ++ 0x20 :: r ∧ 0x20 ∉ x ∧ s.takeWhile (· != 0x20) = x := by
  have hword : ∀ {x : Bytes}, 0x20 ∉ x → ∀ c ∈ x, (c != 0x20) = true := by
    intro x hx c hc
    simpa using fun h : c = 0x20 => hx (h ▸ hc)
  by_cases hs : 0x20 ∈ s
  · obtain ⟨x, r, rfl, hx⟩ := eq_append_cons_of_mem hs
    refine .inr ⟨x, r, rfl, hx, ?_⟩
    rw [takeWhile_append_of_pos (hword hx)]
    simp
  · exact .inl ⟨hs, takeWhile_eq_self_iff.mpr (hword hs)⟩

theorem SingleSpaced.dropWhile_eq (hs : SingleSpaced s) : s.dropWhile (· == 0x20) = s := by
  obtain ⟨c, r, rfl⟩ := exists_cons_of_ne_nil hs.ne_nil
  have hc : c ≠ 0x20 := fun h => hs.head (by simp [h])
  exact dropWhile_cons_of_neg (by simpa using hc)

/-- A token that is shorter than its field ends at a space or with the text. -/
theorem scanToken_spaced (hs : SingleSpaced s) (h : (scanToken w s).1.length < w) :
    (s = (scanToken w s).1 ∧ (scanToken w s).2 = []) ∨
      ∃ r, s = (scanToken w s).1 ++ 0x20 :: r ∧ (scanToken w s).2 = 0x20 :: r ∧ SingleSpaced r := by
  simp only [scanToken, hs.dropWhile_eq] at h ⊢
  rw [length_take] at h
  rw [take_of_length_le (by omega)]
  rcases takeWhile_space s with ⟨-, htake⟩ | ⟨x, r, rfl, -, htake⟩
  · rw [htake, drop_length]
    exact .inl ⟨rfl, rfl⟩
  · rw [htake, drop_left]
    exact .inr ⟨r, rfl, rfl, hs.of_append⟩

theorem scanToken_cons_space (w : Nat) (s : Bytes) : scanToken w (0x20 :: s) = scanToken w s := by
  simp [scanToken]

/-- Three words, and nothing else. -/
theorem scanThree_spaced {tool verb id : Bytes} (hs : SingleSpaced s)
    (h : scanThree s = some (tool, verb, id)) (htool : tool.length < 7) (hverb : verb.length < 15)
    (hid : id.length < 15) : s = tool ++ 0x20 :: verb ++ 0x20 :: id := by
  unfold scanThree at h
  dsimp only at h
  split_ifs at h with hbad
  simp only [not_or, not_not] at hbad
  obtain ⟨-, hverb', hid', hend⟩ := hbad
  obtain ⟨rfl, rfl, rfl⟩ : _ = tool ∧ _ = verb ∧ _ = id := by simpa using h
  rcases scanToken_spaced hs htool with ⟨-, hnil⟩ | ⟨r, hs', hr, hrs⟩
  · rw [hnil] at hverb'
    exact absurd rfl hverb'
  rw [hr, scanToken_cons_space] at hverb hid hid' hend ⊢
  rcases scanToken_spaced hrs hverb with ⟨-, hnil⟩ | ⟨q, hr', hq, hqs⟩
  · rw [hnil] at hid'
    exact absurd rfl hid'
  rw [hq, scanToken_cons_space] at hid hend ⊢
  rcases scanToken_spaced hqs hid with ⟨hq', -⟩ | ⟨p, -, hp, hps⟩
  · rw [← hq', append_assoc, cons_append, ← hr']
    exact hs'
  · rw [hp, dropWhile_cons_of_pos (by simp), hps.dropWhile_eq] at hend
    exact absurd hend hps.ne_nil

theorem SingleSpaced.zero_notMem (hs : SingleSpaced s) : 0 ∉ s := by
  intro h
  rcases hs.bytes 0 h with h0 | h0
  · exact absurd h0 (by decide)
  · exact absurd h0 (by decide)

/-- What an action says, where its texts fit. -/
structure PolicyAction.Says (a : PolicyAction) (command operation : Bytes) (effect : Effect)
    (resource : Bytes) (vlan : Nat) : Prop where
  command : a.command.bytes = command
  operation : a.operation.bytes = operation
  effect : a.effect = effect
  resource : a.resource.bytes = resource
  vlan : a.vlan = vlan

theorem policyOp_says {command resource operation : Bytes} (effect : Effect) (vlan : Nat)
    (hcommand : 0 ∉ command ∧ command.length < 512) (hresource : 0 ∉ resource ∧ resource.length < 96)
    (hoperation : 0 ∉ operation ∧ operation.length < 48) :
    (policyOp command resource operation effect vlan).Says command operation effect resource vlan :=
  ⟨snprintfS_eq_self hcommand.1 hcommand.2, snprintfS_eq_self hoperation.1 hoperation.2, rfl,
    snprintfS_eq_self hresource.1 hresource.2, rfl⟩

/-- The tool, the verb and the number of a command that is accepted. -/
theorem classifyVm_some (h : classifyVm s = some a) :
    ∃ tool kind verb operation effect id, scanThree s = some (tool, verb, unsigned id) ∧
      (tool, kind) ∈ vmTools ∧ (verb, operation, effect) ∈ vmVerbs ∧ 100 ≤ id ∧ id ≤ 100000000 ∧
      a = policyOp s (kind ++ unsigned id) operation effect 0 := by
  unfold classifyVm at h
  split at h
  · cases h
  rename_i tool verb idText hscan
  split at h
  · cases h
  rename_i htool
  split at h
  · cases h
  rename_i id hid
  obtain ⟨rfl, hmax⟩ := policyNumber_eq_some hid
  dsimp only at h
  split at h
  · cases h
  rename_i hmin
  obtain ⟨kind, hkind, hresource⟩ : ∃ kind, (tool, kind) ∈ vmTools ∧
      (if tool = text "qm" then text "vm" else text "ct") ++ 0x3A :: unsigned id =
        kind ++ unsigned id := by
    by_cases hqm : tool = text "qm"
    · exact ⟨text "vm:", by simp [vmTools, hqm], by rw [if_pos hqm]; rfl⟩
    have hpct : tool = text "pct" := by
      by_contra hpct
      exact htool ⟨hqm, hpct⟩
    exact ⟨text "ct:", by simp [vmTools, hpct], by rw [if_neg hqm]; rfl⟩
  rw [hresource] at h
  suffices hverb : ∃ operation effect, (verb, operation, effect) ∈ vmVerbs ∧
      a = policyOp s (kind ++ unsigned id) operation effect 0 by
    obtain ⟨operation, effect, hverb, ha⟩ := hverb
    exact ⟨tool, kind, verb, operation, effect, id, hscan, hkind, hverb, by omega, hmax, ha⟩
  split_ifs at h with hstatus hreboot hdestroy hstart
  · exact ⟨_, _, by simp [vmVerbs, hstatus], (Option.some.inj h).symm⟩
  · exact ⟨_, _, by simp [vmVerbs, hreboot], (Option.some.inj h).symm⟩
  · exact ⟨_, _, by simp [vmVerbs, hdestroy], (Option.some.inj h).symm⟩
  · exact ⟨_, _, by simp [vmVerbs, hstart], (Option.some.inj h).symm⟩

/-- The command of a virtual machine is what was looked up, and in the catalogue. -/
theorem classifyVm_inCatalogue (hs : SingleSpaced s) (hlen : s.length < 512)
    (hv : v = .linux ∨ v = .proxmox) (h : classifyVm s = some a) : a.command.bytes = s ∧
      InCatalogue v s a.operation.bytes a.effect a.resource.bytes a.vlan := by
  obtain ⟨tool, kind, verb, operation, effect, id, hscan, htool, hverb, hmin, hmax, rfl⟩ :=
    classifyVm_some h
  have htools : ∀ x ∈ vmTools, x.1.length < 7 ∧ 0 ∉ x.2 ∧ x.2.length = 3 := by decide
  have hverbs : ∀ x ∈ vmVerbs, x.1.length < 15 ∧ 0 ∉ x.2.1 ∧ x.2.1.length < 48 := by decide
  obtain ⟨htoolLen, hkind0, hkindLen⟩ := htools _ htool
  obtain ⟨hverbLen, hop⟩ := hverbs _ hverb
  have hidLen : (unsigned id).length ≤ 9 := length_unsigned_le (by decide) (by omega)
  have hsplit := scanThree_spaced hs hscan htoolLen hverbLen (by omega)
  have hresource : 0 ∉ kind ++ unsigned id ∧ (kind ++ unsigned id).length < 96 := by
    dsimp only at hkind0 hkindLen
    rw [mem_append, length_append]
    exact ⟨not_or.mpr ⟨hkind0, notMem_unsigned (.inl (by decide)) id⟩, by omega⟩
  obtain ⟨hcommand, hoperation, heffect, hres, hvlan⟩ :=
    policyOp_says effect 0 ⟨hs.zero_notMem, hlen⟩ hresource hop
  refine ⟨hcommand, ?_⟩
  rw [hoperation, hres, hsplit]
  exact .machine hv htool hverb hmin hmax

end

/-! ## Ports -/

section
variable {s port rest : Bytes}

/-- The numbers of a port, with slashes between them. -/
theorem portNumber_numbers {t : Bytes} {digit : Bool} (h : portNumber t digit = true) :
    ∃ w numbers, (digit = false → w ≠ []) ∧ (∀ c ∈ w, isDigit c = true) ∧
      (∀ x ∈ numbers, x ≠ [] ∧ ∀ c ∈ x, isDigit c = true) ∧
      t = [0x2F].intercalate (w :: numbers) := by
  induction t generalizing digit with
  | nil =>
    have hdigit : digit = true := h
    refine ⟨[], [], fun hf => ?_, by simp, by simp, rfl⟩
    rw [hdigit] at hf
    cases hf
  | cons c t ih =>
    rw [portNumber] at h
    split_ifs at h with hc hslash
    · obtain ⟨w, numbers, -, hw, hnumbers, rfl⟩ := ih h
      refine ⟨c :: w, numbers, fun _ => cons_ne_nil c w, ?_, hnumbers, ?_⟩
      · exact forall_mem_cons.mpr ⟨hc, hw⟩
      · cases numbers <;> simp [intercalate]
    · obtain ⟨w, numbers, hne, hw, hnumbers, rfl⟩ := ih h
      refine ⟨[], w :: numbers, fun hf => ?_, by simp, ?_, ?_⟩
      · rw [hslash.2] at hf
        cases hf
      · exact forall_mem_cons.mpr ⟨⟨hne rfl, hw⟩, hnumbers⟩
      · simp [intercalate, hslash.1]

theorem portNumber_bytes {t : Bytes} {digit : Bool} (h : portNumber t digit = true) :
    t.map toLower = t ∧ 0x20 ∉ t := by
  induction t generalizing digit with
  | nil => exact ⟨rfl, not_mem_nil⟩
  | cons c t ih =>
    have table : ∀ n : Fin 256, (isDigit (UInt8.ofNat n) = true ∨ UInt8.ofNat n = 0x2F) →
        toLower (UInt8.ofNat n) = UInt8.ofNat n ∧ UInt8.ofNat n ≠ 0x20 := by decide +kernel
    have hbyte : (isDigit c = true ∨ c = 0x2F) → toLower c = c ∧ c ≠ 0x20 := by
      simpa using table ⟨c.toNat, c.toNat_lt⟩
    have hc : (isDigit c = true ∨ c = 0x2F) ∧ ∃ digit, portNumber t digit = true := by
      rw [portNumber] at h
      split_ifs at h with hdigit hslash
      · exact ⟨.inl hdigit, _, h⟩
      · exact ⟨.inr hslash.1, _, h⟩
    obtain ⟨hclass, digit', ht⟩ := hc
    obtain ⟨hlower, hspace⟩ := hbyte hclass
    rw [map_cons, hlower, (ih ht).1, mem_cons, not_or]
    exact ⟨rfl, hspace.symm, (ih ht).2⟩

/-- A physical port has one of two kinds, in either case, and numbers. -/
theorem physical_kind (h : physical port = true) :
    ∃ kind ∈ [text "Ethernet", text "GigabitEthernet"],
      port.map toLower = kind.map toLower ++ port.drop kind.length ∧
      portNumber (port.drop kind.length) false = true ∧
      (if (text "gigabitethernet").take 14 = (port.map toLower).take 14
        then text "GigabitEthernet" else text "Ethernet") = kind := by
  have hsplit : ∀ kind : Bytes, (kind.map toLower).isPrefixOf (port.map toLower) = true →
      portNumber (port.drop kind.length) false = true →
      port.map toLower = kind.map toLower ++ port.drop kind.length := by
    intro kind hkind hnumber
    obtain ⟨r, hr⟩ := isPrefixOf_iff_prefix.mp hkind
    have hdrop := congrArg (List.drop kind.length) hr
    rw [drop_left' (by simp), ← map_drop, (portNumber_bytes hnumber).1] at hdrop
    rw [← hr, hdrop]
  unfold physical at h
  split_ifs at h with heth hgig
  · have hlower := hsplit (text "Ethernet") heth h
    refine ⟨text "Ethernet", by simp, hlower, h, if_neg ?_⟩
    rw [hlower]
    intro hcontra
    have hfirst := congrArg (List.take 1) hcontra
    rw [take_take, take_take, take_append_of_le_length (by decide)] at hfirst
    exact absurd hfirst (by decide)
  · have hlower := hsplit (text "GigabitEthernet") hgig h
    refine ⟨text "GigabitEthernet", by simp, hlower, h, if_pos ?_⟩
    rw [hlower, take_append_of_le_length (by decide)]
    decide

theorem snprintfS_of_short {cap : Nat} {b : Bytes} (h0 : 0 ∉ b)
    (h : (snprintfS cap b).length < cap - 1) : snprintfS cap b = b := by
  rw [snprintfS, cstr_eq_self h0] at h ⊢
  rw [length_take] at h
  exact take_of_length_le (by omega)

/-- The keywords of a line for a port. -/
theorem lowerKeywords_interface (hport : 0x20 ∉ port)
    (hdesc : ¬ (text "description ").isPrefixOf ((port ++ 0x20 :: rest).map toLower) = true) :
    lowerKeywords (text "interface " ++ port ++ 0x20 :: rest) =
      text "interface " ++ port.map toLower ++ lowerKeywords (0x20 :: rest) := by
  have htext : text "interface " = text "interface" ++ [0x20] := by decide
  have hword : (text "interface").map toLower = text "interface" := by decide
  rw [htext, append_assoc, append_assoc, lowerKeywords_append (by decide), hword,
    singleton_append, lowerKeywords_space hdesc, lowerKeywords_append hport]
  simp

/-- The parts of a line for a port: the port as it is looked up, and what is said of it. -/
structure PortForm (s port line kind operation : Bytes) (vlan : Nat) : Prop where
  eq : s = text "interface " ++ port ++ 0x20 :: line
  space_notMem : 0x20 ∉ port
  length_lt : port.length < 80
  kind_mem : kind ∈ [text "Ethernet", text "GigabitEthernet"]
  lower : port.map toLower = kind.map toLower ++ port.drop kind.length
  number : portNumber (port.drop kind.length) false = true
  line : PortLine line operation vlan

theorem classifyPort_some (h0 : 0 ∉ s) (h : classifyPort s = some a) :
    ∃ port line kind operation vlan, PortForm s port line kind operation vlan ∧
      a = policyOp (text "interface " ++ (kind ++ port.drop kind.length) ++ 0x20 :: line)
        (text "port:" ++ port) operation .change vlan := by
  unfold classifyPort at h
  dsimp only at h
  split at h
  · cases h
  rename_i hform
  simp only [not_or, Bool.not_eq_false] at hform
  obtain ⟨hinterface, hspace, hlen, hphysical⟩ := hform
  obtain ⟨after, rfl⟩ := isPrefixOf_iff_prefix.mp hinterface
  have hafter : (text "interface " ++ after).drop 10 = after := rfl
  rw [hafter] at hspace hlen hphysical h
  rcases takeWhile_space after with ⟨-, hall⟩ | ⟨port, rest, rfl, hport, hall⟩
  · exact absurd (congrArg List.length hall) hspace
  rw [hall] at hlen hphysical h
  obtain ⟨kind, hkind, hlower, hnumber, hkeyword⟩ := physical_kind hphysical
  have hdrop : (port ++ 0x20 :: rest).drop (port.length + 1) = rest := by
    rw [drop_append]
    simp
  rw [hkeyword, hdrop, append_assoc (text "interface ") kind] at h
  have hrest0 : 0 ∉ rest := fun hmem => h0 (by simp [hmem])
  -- no line that is accepted has been cut to the size of its buffer
  have hfound : ∀ {operation vlan}, PortLine (snprintfS 384 rest) operation vlan →
      (snprintfS 384 rest).length < 383 →
      PortForm (text "interface " ++ (port ++ 0x20 :: rest)) port (snprintfS 384 rest) kind
        operation vlan := by
    intro operation vlan hline hshort
    rw [snprintfS_of_short hrest0 hshort] at hline ⊢
    exact ⟨by simp, hport, by omega, hkind, hlower, hnumber, hline⟩
  split_ifs at h with hdesc hvlan haccess
  · refine ⟨port, _, kind, _, _, hfound ?_ (by omega), (Option.some.inj h).symm⟩
    obtain ⟨payload, hpayload⟩ := isPrefixOf_iff_prefix.mp hdesc.1
    have hlength := congrArg List.length hpayload
    rw [length_append] at hlength
    change 12 + _ = _ at hlength
    rw [← hpayload]
    refine .description ?_ (by omega)
    rintro rfl
    simp at hlength
    omega
  · obtain ⟨hswitchport, hany⟩ := hvlan
    obtain ⟨digits, hdigits⟩ := isPrefixOf_iff_prefix.mp hswitchport
    have hnumeral : (snprintfS 384 rest).drop 23 = digits := by
      rw [← hdigits]
      rfl
    rw [hnumeral] at h hany
    cases hn : policyNumber digits with
    | none =>
      rw [hn] at hany
      cases hany
    | some n =>
      rw [hn] at h hany
      obtain ⟨hpos, hle⟩ : 1 ≤ n ∧ n ≤ 4094 := by simpa using hany
      obtain ⟨rfl, -⟩ := policyNumber_eq_some hn
      refine ⟨port, _, kind, _, _, hfound ?_ ?_, (Option.some.inj h).symm⟩
      · rw [← hdigits]
        exact .vlan hpos hle
      · have hshort : (unsigned n).length ≤ 4 := length_unsigned_le (by decide) (by omega)
        rw [← hdigits, length_append]
        change 23 + _ < _
        omega
  · refine ⟨port, _, kind, _, _, hfound ?_ ?_, (Option.some.inj h).symm⟩
    · rw [haccess]
      exact .access
    · rw [haccess]
      decide

/-- A line for a port, with the port spelled as the device does. -/
def PortForm.command (kind port line : Bytes) : Bytes :=
  text "interface " ++ (kind ++ port.drop kind.length) ++ 0x20 :: line

namespace PortForm

variable {line kind operation : Bytes} {vlan : Nat}

section
variable (h : PortForm s port line kind operation vlan)
include h

/-- The kinds, as the forms are looked up. -/
theorem kind_cases :
    (kind = text "Ethernet" ∨ kind = text "GigabitEthernet") ∧ 0x20 ∉ kind ∧ 0 ∉ kind := by
  have table : ∀ kind ∈ [text "Ethernet", text "GigabitEthernet"], 0x20 ∉ kind ∧ 0 ∉ kind := by
    decide
  exact ⟨by simpa using h.kind_mem, table kind h.kind_mem⟩

theorem not_description :
    ¬ (text "description ").isPrefixOf ((port ++ 0x20 :: line).map toLower) = true := by
  rw [map_append, h.lower, isPrefixOf_iff_prefix]
  rintro ⟨r, hr⟩
  have hfirst := congrArg (List.take 1) hr
  rcases h.kind_cases.1 with rfl | rfl
  · rw [append_assoc, take_append_of_le_length (by decide),
      take_append_of_le_length (by decide)] at hfirst
    exact absurd hfirst (by decide)
  · rw [append_assoc, take_append_of_le_length (by decide),
      take_append_of_le_length (by decide)] at hfirst
    exact absurd hfirst (by decide)

/-- A line for a port starts neither with a description nor with a `do`. -/
theorem not_keyword : ¬ (text "description ").isPrefixOf (s.map toLower) = true ∧
      ¬ (text "do ").isPrefixOf s = true := by
  rw [h.eq, append_assoc]
  generalize port ++ 0x20 :: line = x
  have hdesc : (text "description ").isPrefixOf ((text "interface " ++ x).map toLower) = false := rfl
  have hdo : (text "do ").isPrefixOf (text "interface " ++ x) = false := rfl
  rw [hdesc, hdo]
  decide

theorem map_toLower_command : (command kind port line).map toLower = s.map toLower := by
  have hspelled : (kind ++ port.drop kind.length).map toLower = port.map toLower := by
    rw [map_append, (portNumber_bytes h.number).1, h.lower]
  rw [command, h.eq, map_append, map_append, hspelled, map_append, map_append]

/-- With the keywords in lower case, the port is looked up as it was. -/
theorem lowerKeywords_command (hs : lowerKeywords s = s) :
    lowerKeywords (command kind port line) = s ∧ port.map toLower = port := by
  have hspelled : (kind ++ port.drop kind.length).map toLower = port.map toLower := by
    rw [map_append, (portNumber_bytes h.number).1, h.lower]
  have hspace : 0x20 ∉ kind ++ port.drop kind.length := by
    rw [mem_append, not_or]
    exact ⟨h.kind_cases.2.1, (portNumber_bytes h.number).2⟩
  have hdesc : ¬ (text "description ").isPrefixOf
      (((kind ++ port.drop kind.length) ++ 0x20 :: line).map toLower) = true := by
    rw [map_append, hspelled, ← map_append]
    exact h.not_description
  have hlowered := lowerKeywords_interface h.space_notMem h.not_description
  rw [← h.eq, hs] at hlowered
  refine ⟨?_, ?_⟩
  · rw [command, lowerKeywords_interface hspace hdesc, hspelled, ← hlowered]
  · rw [h.eq, append_assoc, append_assoc] at hlowered
    exact (append_inj (append_cancel_left hlowered) (by simp)).1.symm

end

end PortForm

/-- A line for a port that is accepted is in the catalogue as it is executed, and is looked up
again as it was. -/
theorem classifyPort_inCatalogue (hs : SingleSpaced s) (hlen : s.length < 512)
    (hlower : lowerKeywords s = s) (hv : v = .ciscoIos ∨ v = .ciscoIosxe)
    (h : classifyPort s = some a) :
    InCatalogue v a.command.bytes a.operation.bytes a.effect a.resource.bytes a.vlan ∧
      a.command.bytes.map toLower = s.map toLower ∧ lowerKeywords a.command.bytes = s := by
  obtain ⟨port, line, kind, operation, vlan, hform, rfl⟩ := classifyPort_some hs.zero_notMem h
  obtain ⟨hagain, hport⟩ := hform.lowerKeywords_command hlower
  have hcase := hform.map_toLower_command
  have hspaced := hs.of_case hcase
  have hlength : (PortForm.command kind port line).length < 512 := by
    have := congrArg List.length hcase
    simp only [length_map] at this
    omega
  have hport0 : 0 ∉ text "port:" ++ port ∧ (text "port:" ++ port).length < 96 := by
    have hmem : 0 ∉ port := fun hmem => hs.zero_notMem (by rw [hform.eq]; simp [hmem])
    have := hform.length_lt
    rw [mem_append, not_or, length_append]
    exact ⟨⟨by decide, hmem⟩, by change 5 + _ < _; omega⟩
  have hoperation : 0 ∉ operation ∧ operation.length < 48 := by
    cases hform.line <;> decide
  obtain ⟨hcommand, hop, heffect, hres, hvlan⟩ := policyOp_says .change vlan
    ⟨hspaced.zero_notMem, hlength⟩ hport0 hoperation
  unfold PortForm.command at hcommand hop heffect hres hvlan hagain hcase
  rw [hcommand, hop, heffect, hres, hvlan]
  refine ⟨?_, hcase, hagain⟩
  have hspelled : (kind ++ port.drop kind.length).map toLower = port := by
    rw [map_append, (portNumber_bytes hform.number).1, ← hform.lower, hport]
  have hname : PortName (kind ++ port.drop kind.length) := by
    obtain ⟨w, numbers, hne, hw, hnumbers, heq⟩ := portNumber_numbers hform.number
    refine ⟨⟨kind, hform.kind_mem, w :: numbers, cons_ne_nil _ _, ?_, by rw [← heq]⟩, ?_⟩
    · exact forall_mem_cons.mpr ⟨⟨hne rfl, hw⟩, hnumbers⟩
    · have hlength := congrArg List.length hspelled
      rw [length_map] at hlength
      exact hlength ▸ hform.length_lt
  have hcatalogue : InCatalogue v _ operation .change _ vlan := .port hv hname hform.line
  rw [hspelled] at hcatalogue
  exact hcatalogue

end

/-- **A command that is accepted** is, as normalised, of plain characters with single spaces, and in
the catalogue with the operation, effect, resource and VLAN that are reported; and the classifier
accepts it again with the same answer. -/
theorem classified_command (v : Vendor) (command : Bytes) (a : PolicyAction)
    (h : virpPolicyClassify v command = some a) :
    SingleSpaced a.command.bytes ∧
    InCatalogue v a.command.bytes a.operation.bytes a.effect a.resource.bytes a.vlan ∧
    virpPolicyClassify v a.command.bytes = some a := by
  cases hs : normalizeFor v command with
  | none =>
    rw [virpPolicyClassify, hs] at h
    cases h
  | some s =>
    obtain ⟨hspaced, hlen, hlower⟩ := normalizeFor_some hs
    have hlooked := h
    rw [virpPolicyClassify, hs] at hlooked
    -- it is enough that the command is looked up as it was
    suffices hgoal : SingleSpaced a.command.bytes ∧
        InCatalogue v a.command.bytes a.operation.bytes a.effect a.resource.bytes a.vlan ∧
        normalizeFor v a.command.bytes = some s by
      refine ⟨hgoal.1, hgoal.2.1, ?_⟩
      rw [virpPolicyClassify, hgoal.2.2]
      exact hlooked
    have hfixed : ∀ {operation effect}, 0 ∉ operation ∧ operation.length < 48 →
        s ∈ systemReads v ++ hostReboots v → InCatalogue v s operation effect (text "host") 0 →
        some (policyOp s (text "host") operation effect 0) = some a → SingleSpaced a.command.bytes ∧
        InCatalogue v a.command.bytes a.operation.bytes a.effect a.resource.bytes a.vlan ∧
        normalizeFor v a.command.bytes = some s := by
      intro operation effect hop hmem hin ha
      cases ha
      obtain ⟨hcommand, hoperation, -, hres, -⟩ := policyOp_says effect 0
        ⟨hspaced.zero_notMem, hlen⟩ (by decide : 0 ∉ text "host" ∧ (text "host").length < 96) hop
      rw [hcommand, hoperation, hres]
      exact ⟨hspaced, hin, normalizeFor_fixed hmem⟩
    dsimp only at hlooked
    split_ifs at hlooked with hread hreboot hvm hport
    · have hmem := mem_systemReads hread
      exact hfixed (by decide) (mem_append_left _ hmem) (.systemRead hmem) hlooked
    · have hmem := mem_hostReboots hreboot
      exact hfixed (by decide) (mem_append_right _ hmem) (.hostReboot hmem) hlooked
    · obtain ⟨hcommand, hin⟩ := classifyVm_inCatalogue hspaced hlen hvm hlooked
      rw [hcommand]
      have hcli : ¬ IsCli v := by
        rcases hvm with rfl | rfl <;> decide
      exact ⟨hspaced, hin, normalizeFor_eq hspaced hlen (absurd · hcli) (fun _ => rfl) (absurd · hcli)⟩
    · have hcli : IsCli v := .inl hport
      obtain ⟨port, line, kind, operation, vlan, hform, -⟩ := classifyPort_some hspaced.zero_notMem hlooked
      obtain ⟨hdesc, hdo⟩ := hform.not_keyword
      obtain ⟨hin, hcase, hagain⟩ := classifyPort_inCatalogue hspaced hlen (hlower hcli hdesc) hport
        hlooked
      have hcommand := hspaced.of_case hcase
      have hlength := congrArg List.length hcase
      simp only [length_map] at hlength
      exact ⟨hcommand, hin, normalizeFor_eq hcommand (by omega) (fun _ => hagain)
        (absurd hcli ·) (fun _ => hdo)⟩

theorem classified_command_port :
    let a := policyOp (text "interface GigabitEthernet1/0/1 description Customer Port")
      (text "port:gigabitethernet1/0/1") (text "port.description") .change 0
    virpPolicyClassify .ciscoIos (text " do interface GigabitEthernet1/0/1 DESCRIPTION  Customer Port ")
      = some a ∧ virpPolicyClassify .ciscoIos a.command.bytes = some a := by
  intro a
  have h : virpPolicyClassify .ciscoIos
      (text " do interface GigabitEthernet1/0/1 DESCRIPTION  Customer Port ") = some a := by
    decide +kernel
  exact ⟨h, (classified_command _ _ _ h).2.2⟩

end Virp
