import Virp.Policy

/-! # The gate of the Linux driver

The driver runs a command through a shell, so its gate refuses what is not one plain command before
it looks at a table.  First, a command that halts the host or takes the gate down is BLACK, whatever
stands around it.  Then come the rows for `vtysh`, those for the Proxmox tools behind the check of
protected guests, and a few exact spellings.

The tier is modelled as `linux_gate_tier` asks for it, without the reason: where rows differ in the
reason only, they are one.
-/
namespace Virp

/-! ## Words -/

/-- The loop of `linux_gate_canon`, on what is left of the command and what has been written. -/
def linuxCanonLoop (outLen : Nat) : Bytes → Bytes → Bool → Option Bytes
  | [], out, _ => some out
  | c :: rest, out, lastWasSpace =>
    if c = 0x20 ∨ c = 0x09 then
      if lastWasSpace then linuxCanonLoop outLen rest out true
      else if outLen ≤ out.length + 1 then none
      else linuxCanonLoop outLen rest (out ++ [0x20]) true
    else if outLen ≤ out.length + 1 then none
    else linuxCanonLoop outLen rest (out ++ [c]) false

def linuxGateCanon (outLen : Nat) (command : Bytes) : Option Bytes :=
  (linuxCanonLoop outLen command [] true).map (fun out => out.rdropWhile (· == 0x20))

def linuxGateCanonMax : Nat := 1024

/-- `tok_prefix`: the text starts with the full word. -/
def tokPrefix (canon tok : Bytes) : Bool :=
  tok.isPrefixOf canon && (canon.drop tok.length).head?.all (· == 0x20)

def tokRest (canon tok : Bytes) : Bytes := (canon.drop tok.length).dropWhile (· == 0x20)

variable (c : UInt8)

def isLower : Bool := 0x61 ≤ c && c ≤ 0x7A

def isUpper : Bool := 0x41 ≤ c && c ≤ 0x5A

def restCharsetOk (rest : Bytes) : Bool :=
  rest.all fun c => isLower c || isDigit c || c == 0x20 || c == 0x2E || c == 0x2F || c == 0x2D

/-- `word_prefixes`: the first word is a nonempty beginning of `full`. -/
def wordPrefixes (rest full : Bytes) : Bool :=
  let word := rest.takeWhile (· != 0x20)
  decide (word ≠ []) && word.isPrefixOf full

/-! ## Commands that are never run -/

/-- `linux_black_is_shell_quote`: bytes that the shell removes. -/
def isShellQuote : Bool := c == 0x22 || c == 0x27 || c == 0x5C

/-- The loop of `linux_tok_basename`. -/
def basenameLoop : Bytes → Bytes → Bytes
  | [], out => out
  | c :: s, out => if c = 0x2F then basenameLoop s s else basenameLoop s out

def linuxTokBasename (t : Bytes) : Bytes := basenameLoop t t

/-- `linux_black_word_eq`: the token is the word, but for quoting bytes. -/
def blackWordEq : Bytes → Bytes → Bool
  | [], word => word.isEmpty
  | c :: t, word =>
    if isShellQuote c then blackWordEq t word
    else match word with
      | [] => false
      | w :: word => if c = w then blackWordEq t word else false

/-- `linux_black_word_in`. -/
def blackWordIn (t : Bytes) (set : List Bytes) : Bool := set.any (blackWordEq t)

/-- The loop of `linux_tok_names_virp`, with what is still to match of the name. -/
def namesVirpLoop : Bytes → Bytes → Bool
  | _, [] => false
  | wanted, c :: t =>
    if isShellQuote c then namesVirpLoop wanted t
    else match wanted with
      | w :: more =>
        if c = w then if more = [] then true else namesVirpLoop more t
        else namesVirpLoop (if c = 0x76 then text "irp" else text "virp") t
      | [] => true

/-- `linux_tok_names_virp`. -/
def tokNamesVirp (t : Bytes) : Bool := namesVirpLoop (text "virp") t

/-- `LINUX_BLACK_HALT_CMDS`. -/
def blackHaltCmds : List Bytes :=
  [text "shutdown", text "poweroff", text "halt", text "reboot", text "telinit", text "init"]

/-- `LINUX_BLACK_SYSTEMCTL_HOST`. -/
def blackSystemctlHost : List Bytes :=
  [text "poweroff", text "reboot", text "halt", text "kexec", text "emergency", text "rescue"]

/-- `LINUX_BLACK_SYSTEMCTL_UNIT`. -/
def blackSystemctlUnit : List Bytes :=
  [text "stop", text "disable", text "mask", text "kill", text "restart", text "reload-or-restart"]

/-- `LINUX_BLACK_KILLERS`. -/
def blackKillers : List Bytes := [text "pkill", text "killall"]

/-- `black_seg_t`. -/
structure BlackSeg where
  haveCmd : Bool
  haltCmd : Bool
  isSystemctl : Bool
  isKiller : Bool
  systemctlHostVerb : Bool
  takedownVerb : Bool
  namesVirp : Bool
deriving DecidableEq

/-- `linux_black_seg_reset`. -/
def BlackSeg.reset : BlackSeg := ⟨false, false, false, false, false, false, false⟩

/-- `linux_black_seg_token`. -/
def BlackSeg.token (s : BlackSeg) (t : Bytes) : BlackSeg :=
  if s.haveCmd then
    { s with
      systemctlHostVerb := s.systemctlHostVerb || (s.isSystemctl && blackWordIn t blackSystemctlHost)
      takedownVerb := s.takedownVerb || (s.isSystemctl && blackWordIn t blackSystemctlUnit)
      namesVirp := s.namesVirp || tokNamesVirp t }
  else
    let cmd := linuxTokBasename t
    { s with
      haveCmd := true
      haltCmd := blackWordIn cmd blackHaltCmds
      isSystemctl := blackWordEq cmd (text "systemctl")
      isKiller := blackWordIn cmd blackKillers }

/-- `linux_black_seg_verdict`. -/
def BlackSeg.verdict (s : BlackSeg) : Bool :=
  s.haveCmd && (s.haltCmd || (s.isSystemctl && s.systemctlHostVerb) ||
    (s.isSystemctl && s.takedownVerb && s.namesVirp) || (s.isKiller && s.namesVirp))

/-- `;`, `|` or `&`. -/
def isSegmentEnd : Bool := c == 0x3B || c == 0x7C || c == 0x26

def isShellSpace : Bool := c == 0x20 || c == 0x09 || c == 0x0A || c == 0x0D

/-- A byte that goes on with a word of the scan. -/
def isBlackWord : Bool := !isShellSpace c && !isSegmentEnd c

/-- The loop of `linux_black_self_harm`. -/
def blackLoop (seg : BlackSeg) (raw : Bytes) : Bool :=
  match raw with
  | [] => seg.verdict
  | c :: s =>
    if isSegmentEnd c then if seg.verdict then true else blackLoop .reset s
    else if isShellSpace c then blackLoop seg s
    else blackLoop (seg.token (c :: s.takeWhile isBlackWord)) (s.dropWhile isBlackWord)
termination_by raw.length
decreasing_by
  · simp
  · simp
  · have := (List.dropWhile_suffix (l := s) isBlackWord).length_le
    simp only [List.length_cons]
    omega

def linuxBlackSelfHarm (raw : Bytes) : Bool := blackLoop .reset raw

/-! ## Tokens of a Proxmox command -/

/-- `linux_prox_has_metachar`. -/
def proxHasMetachar : Bytes → Bool
  | [] => false
  | c :: s => (separatorAt (c :: s)).isSome || proxHasMetachar s

/-- `linux_prox_quotes_raw_ok`, in a quoted region or not. -/
def proxQuotesRawOk : Bool → Bytes → Bool
  | inQuote, [] => !inQuote
  | inQuote, c :: s =>
    if c = 0x22 then proxQuotesRawOk (!inQuote) s
    else if inQuote = false then proxQuotesRawOk inQuote s
    else if c = 0x09 then false
    else if c = 0x20 ∧ s.head? = some 0x20 then false
    else proxQuotesRawOk inQuote s

def proxByteBareOk : Bool :=
  isLower c || isUpper c || isDigit c || c == 0x20 || c == 0x2E || c == 0x5F || c == 0x2F ||
    c == 0x3A || c == 0x3D || c == 0x2C || c == 0x2D

def proxByteQuotedOk : Bool :=
  proxByteBareOk c ||
    (0x20 ≤ c && c ≤ 0x7E && !(c == 0x22 || c == 0x5C || c == 0x24 || c == 0x60 || c == 0x3B ||
      c == 0x7C || c == 0x26 || c == 0x3C || c == 0x3E))

/-- `prox_tok_t`: the bytes without quotes, and whether there were any. -/
structure ProxTok where
  text : Bytes
  quoted : Bool
deriving DecidableEq

/-- `prox_tok_status_t`, but for OK. -/
inductive ProxTokError where
  | badCharset | badQuote | tooMany
deriving DecidableEq

/-- What is wrong with a bare token: the first byte that is refused decides. -/
def proxBareError (word : Bytes) : Option ProxTokError :=
  (word.find? fun c => c == 0x22 || !proxByteBareOk c).map fun c =>
    if c = 0x22 then .badQuote else .badCharset

/-- `linux_prox_tokenize`, where `max` more tokens fit. -/
def proxTokenize (max : Nat) (s : Bytes) : Except ProxTokError (List ProxTok) :=
  match _h : s.dropWhile (· == 0x20) with
  | [] => .ok []
  | c :: rest =>
    if max = 0 then .error .tooMany
    else if c = 0x22 then
      if (rest.takeWhile (· != 0x22)).all proxByteQuotedOk = false then .error .badCharset
      else match _h' : rest.dropWhile (· != 0x22) with
        | [] => .error .badQuote
        | _ :: after =>
          if after.head?.all (· == 0x20) = false then .error .badQuote
          else (proxTokenize (max - 1) after).map (⟨rest.takeWhile (· != 0x22), true⟩ :: ·)
    else
      match proxBareError ((c :: rest).takeWhile (· != 0x20)) with
      | some e => .error e
      | none =>
        (proxTokenize (max - 1) (rest.dropWhile (· != 0x20))).map
          (⟨(c :: rest).takeWhile (· != 0x20), false⟩ :: ·)
termination_by s.length
decreasing_by
  · have h₁ := (List.dropWhile_suffix (l := s) (· == 0x20)).length_le
    have h₂ := (List.dropWhile_suffix (l := rest) (· != 0x22)).length_le
    rw [_h] at h₁
    rw [_h'] at h₂
    simp only [List.length_cons] at h₁ h₂
    omega
  · have h₁ := (List.dropWhile_suffix (l := s) (· == 0x20)).length_le
    have h₂ := (List.dropWhile_suffix (l := rest) (· != 0x20)).length_le
    rw [_h] at h₁
    simp only [List.length_cons] at h₁
    omega

/-- `prox_tok_eq_bare`. -/
def ProxTok.eqBare (t : ProxTok) (s : Bytes) : Bool := !t.quoted && t.text == s

/-- `prox_tok_in`. -/
def ProxTok.isIn (t : ProxTok) (set : List Bytes) : Bool := !t.quoted && set.contains t.text

/-- `prox_flag_in`: what stands before the first `=` decides. -/
def ProxTok.flagIn (t : ProxTok) (set : List Bytes) : Bool := set.contains (t.text.takeWhile (· != 0x3D))

/-! ## Guests -/

/-- `prox_vmid_digits`. -/
def vmidDigits (s : Bytes) : Option Nat :=
  if s.length = 0 ∨ 9 < s.length then none
  else if s.all isDigit then some (Decimal.natOf s) else none

/-- `prox_sid_vmid`: an id in the form `vm:` or `ct:`. -/
def sidVmid (s : Bytes) : Option Nat :=
  if s.take 3 = text "vm:" ∨ s.take 3 = text "ct:" then vmidDigits (s.drop 3) else none

/-- The nonempty runs between separators, as the loops over segments and fields see them. -/
def runsBetween (sep : UInt8) (s : Bytes) : List Bytes :=
  match s with
  | [] => []
  | c :: s =>
    if c = sep then runsBetween sep s
    else (c :: s.takeWhile (· != sep)) :: runsBetween sep (s.dropWhile (· != sep))
termination_by s.length
decreasing_by
  · simp
  · have := (List.dropWhile_suffix (l := s) (· != sep)).length_le
    simp only [List.length_cons]
    omega

/-- The protected guests: `linux_protected_vmids` and whether they are configured. -/
structure GuestSet where
  configured : Bool
  vmids : List Nat
deriving DecidableEq

variable (G : GuestSet)

/-- A protected guest of a configured set. -/
def GuestSet.protects (vmid : Nat) : Bool := G.configured && G.vmids.contains vmid

/-- `prox_id_scan_t`. -/
inductive ProxIdScan where
  | none | clear | isProtected
deriving DecidableEq

/-- The guest a field names, and whether in the form `vm:` or `ct:`. -/
def fieldVmid (numericOk : Bool) (field : Bytes) : Option (Nat × Bool) :=
  match sidVmid field with
  | some v => some (v, true)
  | none => if numericOk then (vmidDigits field).map (·, false) else none

/-- The loop of `prox_scan_token_ids` over the fields: the result, and whether one was in the form
`vm:` or `ct:`. -/
def scanFields (G : GuestSet) (numericOk : Bool) : List Bytes → ProxIdScan × Bool
  | [] => (.none, false)
  | f :: fs =>
    match fieldVmid numericOk f with
    | none => scanFields G numericOk fs
    | some (v, sid) =>
      if G.protects v then (.isProtected, sid)
      else
        let (r, sid') := scanFields G numericOk fs
        (if r = .none then .clear else r, sid || sid')

/-- `prox_scan_token_ids`. -/
def scanTokenIds (numericOk : Bool) (t : ProxTok) : ProxIdScan × Bool :=
  scanFields G numericOk (runsBetween 0x2C t.text)

/-- `prox_parse_vmid`. -/
def ProxTok.parseVmid (t : ProxTok) : Option Nat := if t.quoted then none else vmidDigits t.text

/-- `prox_is_storage_id`. -/
def ProxTok.isStorageId (t : ProxTok) : Bool :=
  !t.quoted && decide (t.text.length ≤ 64) &&
    match t.text with
    | [] => false
    | c :: s => (isLower c || isUpper c || isDigit c) &&
        s.all fun b => isLower b || isUpper b || isDigit b || b == 0x2E || b == 0x5F || b == 0x2D

/-- `prox_path_has_seg_in`. -/
def ProxTok.hasSegIn (t : ProxTok) (set : List Bytes) : Bool :=
  (runsBetween 0x2F t.text).any set.contains

def proxAgentSegs : List Bytes := [text "agent"]

def proxPveshShellSegs : List Bytes :=
  [text "execute", text "termproxy", text "vncshell", text "spiceshell", text "vncproxy",
    text "spiceproxy"]

/-- `prox_vmid_verdict_t`. -/
inductive VmidVerdict where
  | none | clear | isProtected | bad | unconfigured
deriving DecidableEq

/-- A verdict that ends the check, or whether a guest was seen so far. -/
abbrev GuestScan := Except VmidVerdict Bool

/-- The walk of a path for the segment behind `qemu` or `lxc`. -/
def walkGuestPath (G : GuestSet) : List Bytes → Bool → GuestScan
  | [], saw => .ok saw
  | seg :: rest, saw =>
    if seg = text "qemu" ∨ seg = text "lxc" then
      match rest with
      | [] => .error .bad
      | v :: rest =>
        match vmidDigits v with
        | none => .error .bad
        | some vmid => if G.protects vmid then .error .isProtected else walkGuestPath G rest true
    else walkGuestPath G rest saw

/-- The path segments in the form `vm:` or `ct:`. -/
def walkSids (G : GuestSet) : List Bytes → Bool → GuestScan
  | [], saw => .ok saw
  | seg :: rest, saw =>
    match sidVmid seg with
    | some v => if G.protects v then .error .isProtected else walkSids G rest true
    | none => walkSids G rest saw

/-- The scan of argument tokens, where `counts` says which scans count as a guest seen. -/
def walkTokens (G : GuestSet) (numericOk : Bool) (counts : ProxIdScan × Bool → Bool) :
    List ProxTok → Bool → GuestScan
  | [], saw => .ok saw
  | t :: ts, saw =>
    let r := scanTokenIds G numericOk t
    if r.1 = .isProtected then .error .isProtected
    else walkTokens G numericOk counts ts (saw || counts r)

/-- A path of the cluster or of a pool. -/
def clusterScope (path : Bytes) : Bool :=
  (text "/cluster").isPrefixOf path || (text "/pools").isPrefixOf path

variable (tok : List ProxTok)

/-- What a branch of `linux_prox_self_protect` finds for `qm` and `pct`. -/
def guestScanQm (tool verb : ProxTok) : GuestScan :=
  if verb.eqBare (text "list") then .ok false
  else
    let vpos := if tool.eqBare (text "qm") && verb.eqBare (text "guest") then 3 else 2
    match tok.drop vpos with
    | [] => .error .bad
    | v :: ts =>
      match v.parseVmid with
      | none => .error .bad
      | some _ => walkTokens G true (fun _ => false) (v :: ts) true

variable (args : List ProxTok)

/-- The same for `pvesh`. -/
def guestScanPvesh (path : Bytes) : GuestScan := do
  let saw ← walkGuestPath G (runsBetween 0x2F path) false
  let saw ← walkSids G (runsBetween 0x2F path) saw
  walkTokens G (clusterScope path) (·.2) args saw

def linuxProxSelfProtect : VmidVerdict :=
  let scan : GuestScan :=
    match tok with
    | [] => .ok false
    | tool :: args =>
      if tool.eqBare (text "qm") || tool.eqBare (text "pct") then
        match args with
        | [] => .ok false
        | verb :: _ => guestScanQm G tok tool verb
      else if tool.eqBare (text "pvesh") then
        match args with
        | _ :: path :: _ => guestScanPvesh G args path.text
        | _ => .ok false
      else if tool.eqBare (text "vzdump") then
        walkTokens G true (fun r => decide (r.1 ≠ .none)) args false
      else .ok false
  match scan with
  | .error v => v
  | .ok saw => if saw = false then .none else if G.configured = false then .unconfigured else .clear

/-! ## The Proxmox rows -/

def proxGuestYellowVerbs : List Bytes :=
  [text "start", text "stop", text "shutdown", text "reboot", text "suspend", text "resume",
    text "create", text "set", text "clone", text "migrate", text "snapshot"]

def proxGuestGreenVerbs : List Bytes := [text "status", text "config"]

def proxStorageBlackVerbs : List Bytes :=
  [text "remove", text "free", text "wipedisk", text "zfsscan-destroy", text "destroy"]

def proxVzdumpBlackFlags : List Bytes :=
  [text "--delete", text "--remove", text "--prune-backups", text "-delete", text "-remove"]

def proxVzdumpRedFlags : List Bytes :=
  [text "--script", text "-script", text "--stdout", text "-stdout"]

/-- The rows of `linux_prox_classify` for `qm` and `pct`. -/
def proxGuestRow (tool : ProxTok) (args : List ProxTok) : Tier :=
  match args with
  | [] => .red
  | verb :: rest =>
    if verb.eqBare (text "destroy") then .black
    else if tool.eqBare (text "qm") && verb.eqBare (text "guest") then .red
    else if tool.eqBare (text "pct") && (verb.eqBare (text "exec") || verb.eqBare (text "enter")) then .red
    else if verb.eqBare (text "agent") then .red
    else if rest.length = 0 ∧ verb.eqBare (text "list") then .green
    else if rest.length = 1 ∧ verb.isIn proxGuestGreenVerbs then .green
    else if 1 ≤ rest.length ∧ verb.isIn proxGuestYellowVerbs then .yellow
    else .red

/-- The rows for `pvesh`. -/
def proxPveshRow : Tier :=
  match args with
  | [] => .red
  | verb :: rest =>
    if verb.eqBare (text "delete") then .black
    else match rest with
      | [] => .red
      | path :: more =>
        if path.hasSegIn proxAgentSegs then .red
        else if path.hasSegIn proxPveshShellSegs then .red
        else
          let pathOk := !path.quoted && path.text.head? == some 0x2F
          let access := (text "/access").isPrefixOf path.text
          if verb.eqBare (text "get") && more.isEmpty && pathOk then
            if access then .yellow else .green
          else if (verb.eqBare (text "create") || verb.eqBare (text "set")) && pathOk then
            if access then .red else .yellow
          else .red

/-- The rows for `pvesm`. -/
def proxPvesmRow : Tier :=
  match args with
  | [] => .red
  | verb :: rest =>
    if verb.isIn proxStorageBlackVerbs then .black
    else if rest.isEmpty && verb.eqBare (text "status") then .green
    else match rest with
      | [storage] => if verb.eqBare (text "list") && storage.isStorageId then .green else .red
      | _ => .red

/-- The rows for `vzdump`. -/
def proxVzdumpRow : Tier :=
  if args.any (·.flagIn proxVzdumpBlackFlags) then .black
  else if args.any (·.flagIn proxVzdumpRedFlags) then .red
  else .yellow

/-- The rows of `linux_prox_classify`, each for its tool. -/
def proxRow : Tier :=
  match tok with
  | [] => .red
  | tool :: args =>
    if tool.eqBare (text "qm") || tool.eqBare (text "pct") then proxGuestRow tool args
    else if tool.eqBare (text "pvesh") then proxPveshRow args
    else if tool.eqBare (text "pvesm") then proxPvesmRow args
    else if tool.eqBare (text "vzdump") then proxVzdumpRow args
    else if tool.eqBare (text "pveversion") then if args.isEmpty then .green else .red
    else if tool.eqBare (text "pvecm") then
      match args with
      | [verb] => if verb.eqBare (text "status") || verb.eqBare (text "nodes") then .green else .red
      | _ => .red
    else .red

def linuxProxMaxTok : Nat := 64

/-- What `linux_prox_classify` does with the tokens. -/
def proxTokenTier : Tier :=
  match linuxProxSelfProtect G tok with
  | .isProtected => .black
  | .bad => .red
  | .unconfigured => .red
  | .none => proxRow tok
  | .clear => proxRow tok

def linuxProxClassify (command canon : Bytes) : Tier :=
  if proxHasMetachar command then .red
  else if proxQuotesRawOk false command = false then .red
  else match proxTokenize linuxProxMaxTok canon with
    | .error _ => .red
    | .ok tok => proxTokenTier G tok

/-- `linux_prox_is_tool`. -/
def linuxProxTools : List Bytes :=
  [text "qm", text "pct", text "pvesh", text "pveversion", text "pvecm", text "pvesm", text "vzdump"]

def linuxProxIsTool (canon : Bytes) : Bool := linuxProxTools.any (tokPrefix canon)

def linuxPeerGreenExact : List Bytes :=
  [text "systemctl is-active virp-onode",
    text "/opt/virp/build/virp-tool chain tail -n 1 --db /var/lib/virp/chain.db",
    text "cat /var/lib/virp/autopilot/published.json"]

def linuxHostGreenExact : List Bytes := [text "df -h", text "uptime", text "uname -a"]

/-- The flags `-c` that the loop of the second guard counts, where `before` is the byte in front. -/
def countCFlags : Option UInt8 → Bytes → Nat
  | _, [] => 0
  | before, c :: s =>
    (if c = 0x2D ∧ s.head? = some 0x63 ∧ before.all (· == 0x20) ∧ (s.drop 1).head?.all (· == 0x20)
      then 1 else 0) + countCFlags (some c) s

/-- The rows for the argument of `vtysh`. -/
def vtyshRow (vcmd : Bytes) : Tier :=
  let permits := fun row => tokPrefix vcmd row && restCharsetOk (tokRest vcmd row)
  if tokPrefix vcmd (text "configure") then .red
  else if tokPrefix vcmd (text "clear ip ospf process") then .red
  else if tokPrefix vcmd (text "show") &&
      ((wordPrefixes (tokRest vcmd (text "show")) (text "running-config") ||
        wordPrefixes (tokRest vcmd (text "show")) (text "startup-config")) &&
      restCharsetOk (tokRest vcmd (text "show"))) then .yellow
  else if permits (text "show") then .green
  else if permits (text "clear ip ospf interface") then .yellow
  else if permits (text "clear ip ospf neighbor") then .yellow
  else if permits (text "ping") then .yellow
  else if permits (text "traceroute") then .yellow
  else .red

/-- The branch for `vtysh`: exactly one quoted argument. -/
def vtyshTier (canon : Bytes) : Tier :=
  if 2 ≤ countCFlags none canon then .red
  else if (text "vtysh -c \"").isPrefixOf canon = false then .red
  else
    let arg := canon.drop (text "vtysh -c \"").length
    if arg.dropWhile (· != 0x22) = [0x22] ∧ arg.takeWhile (· != 0x22) ≠ [] then
      vtyshRow (arg.takeWhile (· != 0x22))
    else .red

def linuxGateTier (command : Bytes) : Tier :=
  if linuxBlackSelfHarm command then .black
  else if (commandCheckSeparators command).isSome then .red
  else match linuxGateCanon linuxGateCanonMax command with
    | none => .red
    | some canon =>
      if canon = [] then .red
      else if tokPrefix canon (text "vtysh") then vtyshTier canon
      else if linuxProxIsTool canon then linuxProxClassify G command canon
      else if linuxPeerGreenExact.contains canon then .green
      else if linuxHostGreenExact.contains canon then .green
      else .red

end Virp
