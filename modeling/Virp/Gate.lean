import Virp.Crypto
import Virp.Library.Decimal
import Mathlib.Data.List.DropRight

/-! # The tier gate

What the gate decides on before it touches a device: the separator check, the tier of
a command, the ceiling of the caller, and the hash by which an approval names a
command.  All of it is pure; the programs that use it are in `Virp.Execute`.
-/
namespace Virp

open Decimal

/-! ## Tiers, modes and drivers -/

/-- `virp_trust_tier_t`. -/
inductive Tier where
  | unclassified | green | yellow | red | black
deriving DecidableEq, Repr

/-- The number of a tier. -/
def Tier.value : Tier → Nat
  | .unclassified => 0x00
  | .green => 0x01
  | .yellow => 0x02
  | .red => 0x03
  | .black => 0xFF

/-- `onode_gate_mode_t`. -/
inductive GateMode where
  | shadow | enforce
deriving DecidableEq, Repr

/-- `virp_vendor_t`. -/
inductive Vendor where
  | unknown | ciscoIos | fortinet | linux | juniper | paloalto | windows | proxmox | ciscoAsa
  | wazuh | ciscoIosxe | librenms | pbs | zammad | gns3 | mock
deriving DecidableEq, Repr

/-- The number of a vendor. -/
def Vendor.code : Vendor → Nat
  | .unknown => 0 | .ciscoIos => 1 | .fortinet => 2 | .linux => 3 | .juniper => 4 | .paloalto => 5
  | .windows => 6 | .proxmox => 7 | .ciscoAsa => 8 | .wazuh => 9 | .ciscoIosxe => 10
  | .librenms => 11 | .pbs => 12 | .zammad => 13 | .gns3 => 14 | .mock => 99

/-- `virp_driver_t`, apart from what talks to the device.  A hook that is absent is a
null pointer. -/
structure Driver where
  name : Field 32
  routeCommand : Option (Bytes → Tier)
  routeReason : Option (Bytes → Option Bytes)
  healthCheck : Bool
  typedProfile : Option Bytes

/-- `virp_device_t`, as far as the gate and the policy read it. -/
structure Device where
  hostname : Field 64
  host : Field 256
  port : UInt16
  username : Field 64
  vendor : Vendor
  nodeId : UInt32
  deviceId : UInt64
  enabled : Bool

def toLower (c : UInt8) : UInt8 := if 0x41 ≤ c ∧ c ≤ 0x5A then c + 32 else c

/-- `(uid_t)-1`: an internal caller. -/
def internalUid : UInt32 := 0xFFFFFFFF

def gateTierName : Tier → Bytes
  | .unclassified => text "UNCLASSIFIED"
  | .green => text "GREEN"
  | .yellow => text "YELLOW"
  | .red => text "RED"
  | .black => text "BLACK"

/-- The name a record gives a mode. -/
def gateModeName : GateMode → Bytes
  | .enforce => text "ENFORCE"
  | .shadow => text "SHADOW"

def gateTierBlocks (tier maxTier : Tier) : Bool :=
  if tier = .unclassified then true
  else if tier = .black then true
  else maxTier.value < tier.value

def gateObsTier : Tier → Tier
  | .black => .red
  | t => t

def gateClassify (drv : Driver) (command : Bytes) : Tier :=
  match drv.routeCommand with
  | some route => route command
  | none => .unclassified

def gateEffectiveMode (overrides : List (Bytes × GateMode)) (default : GateMode) (driver : Bytes) :
    GateMode :=
  ((overrides.find? (·.1 == driver)).map Prod.snd).getD default

def onodeEffectiveMaxTier (gateMaxTier : Tier) (uidCeilings : List (UInt32 × Tier))
    (uid : UInt32) : Tier :=
  if uid = internalUid then gateMaxTier
  else ((uidCeilings.find? (·.1 == uid)).map Prod.snd).getD gateMaxTier

def onodeCeilingSource (uidCeilings : List (UInt32 × Tier)) (uid : UInt32) : Bytes :=
  if uid ≠ internalUid ∧ uidCeilings.any (·.1 == uid) then text "per-uid" else text "node-wide"

def findDevice (devices : List Device) (name : Bytes) : Option Device :=
  devices.find? (·.hostname.bytes == name)

/-- The separator a command starts with, as the refusal renders it. -/
def separatorAt : Bytes → Option Bytes
  | [] => none
  | c :: rest =>
    if c < 0x20 ∨ c = 0x7F then some (text "\\x" ++ hexEncode [c])
    -- one of ; | & backquote > <
    else if c ∈ [0x3B, 0x7C, 0x26, 0x60, 0x3E, 0x3C] then some [c]
    -- a dollar sign, with a parenthesis or a brace behind it
    else if c = 0x24 ∧ (rest.head? = some 0x28 ∨ rest.head? = some 0x7B) then some (c :: rest.take 1)
    else none

/-- The first separator from an offset on: what it is and where. -/
def findSeparator (offset : Nat) : Bytes → Option (Bytes × Nat)
  | [] => none
  | c :: rest =>
    match separatorAt (c :: rest) with
    | some what => some (what, offset)
    | none => findSeparator (offset + 1) rest

/-- `virp_command_check_separators`: why the command is refused, if it is. -/
def commandCheckSeparators (command : Bytes) : Option Bytes :=
  (findSeparator 0 command).map (fun p => snprintfS 160
    (text "illegal separator '" ++ p.1 ++ text "' at offset " ++ unsigned p.2))

/-- No tail of the command starts with a separator. -/
def SeparatorFree (command : Bytes) : Prop := ∀ t, t <:+ command → separatorAt t = none

theorem findSeparator_eq_none {command : Bytes} (n : Nat) (h : findSeparator n command = none) :
    SeparatorFree command := by
  intro t ht
  induction command generalizing n with
  | nil =>
    rw [List.suffix_nil.mp ht]
    rfl
  | cons c rest ih =>
    unfold findSeparator at h
    split at h
    · cases h
    rename_i hnone
    rcases List.suffix_cons_iff.mp ht with rfl | ht
    · exact hnone
    · exact ih (n + 1) h ht

/-- **The separator check accepts single commands only.** -/
theorem separatorFree_of_check {command : Bytes} (h : commandCheckSeparators command = none) :
    SeparatorFree command := by
  refine findSeparator_eq_none 0 ?_
  simpa [commandCheckSeparators] using h

/-- The loop of `virp_canonicalize_command`, on what is left of the command and what
has been written. -/
def canonicalizeLoop (outLen : Nat) : Bytes → Bytes → Bool → Option Bytes
  | [], out, _ => some out
  | c :: rest, out, lastWasSpace =>
    if c = 0x0D then canonicalizeLoop outLen rest out lastWasSpace
    else if c = 0x20 ∨ c = 0x09 then
      if lastWasSpace = false ∧ 0 < out.length then
        if outLen - 1 ≤ out.length then none
        else canonicalizeLoop outLen rest (out ++ [0x20]) true
      else canonicalizeLoop outLen rest out lastWasSpace
    else if outLen - 1 ≤ out.length then none
    else canonicalizeLoop outLen rest (out ++ [c]) false

def canonicalizeCommand (outLen : Nat) (command : Bytes) : Option Bytes :=
  let start := command.dropWhile (fun c => c == 0x20 || c == 0x09 || c == 0x0D || c == 0x0A)
  (canonicalizeLoop outLen start [] false).map (fun out => out.rdropWhile (· == 0x20))

/-- Four bytes, most significant first. -/
def putBe32 (n : Nat) : Bytes :=
  [(n / 2 ^ 24).toUInt8, (n / 2 ^ 16).toUInt8, (n / 2 ^ 8).toUInt8, n.toUInt8]

/-- Eight bytes, most significant first. -/
def putBe64 (n : Nat) : Bytes := putBe32 (n / 2 ^ 32) ++ putBe32 n

theorem putBe32_inj {m n : Nat} (hm : m < 2 ^ 32) (hn : n < 2 ^ 32) (h : putBe32 m = putBe32 n) :
    m = n := by
  simp only [putBe32, List.cons.injEq, and_true, ← UInt8.toNat_inj, Nat.toUInt8,
    UInt8.toNat_ofNat'] at h
  omega

theorem putBe64_inj {m n : Nat} (hm : m < 2 ^ 64) (hn : n < 2 ^ 64) (h : putBe64 m = putBe64 n) :
    m = n := by
  obtain ⟨hhi, hlo⟩ := List.append_inj h rfl
  have hhi' := putBe32_inj (by omega) (by omega) hhi
  simp only [putBe32, List.cons.injEq, and_true, ← UInt8.toNat_inj, Nat.toUInt8,
    UInt8.toNat_ofNat'] at hlo
  omega

def typedOpHash (C : Crypto) (profile command : Bytes) : Option Digest :=
  if profile.length = 0 ∨ 64 < profile.length then none
  else if command.length = 0 ∨ 65536 < command.length then none
  else some (C.sha256 (text "VIRP-TYPED-OP" ++ 0 :: putBe32 profile.length ++ profile ++
    putBe32 command.length ++ command))

def commandHashHex (C : Crypto) (command : Bytes) (typedProfile : Option Bytes) : Option Bytes :=
  match typedProfile with
  | some profile => (typedOpHash C profile command).map (fun d => hexEncode d.bytes)
  | none => (canonicalizeCommand 512 command).map C.sha256Hex

end Virp
