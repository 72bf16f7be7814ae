import Virp.Library.Words
import Virp.Gate

/-! # What a command's hash stands for

An observation and an approval name their command by a hash.  For a command line that is the
hash of its canonical form: its words with single spaces between them.  For a command of a typed
profile it is the hash of the profile and the exact bytes, behind a domain of its own.
-/
namespace Virp
open Words List

variable (C : Crypto)

/-- `command_hash` of the observations. -/
def commandHash (command : Bytes) (typedProfile : Option Bytes) : Option Digest :=
  match typedProfile with
  | some profile => typedOpHash C profile command
  | none => (canonicalizeCommand 512 command).map C.sha256

/-- The hash in an approval is the one in an observation, as text. -/
theorem commandHashHex_eq (command : Bytes) (typedProfile : Option Bytes) :
    commandHashHex C command typedProfile =
      (commandHash C command typedProfile).map (fun d => hexEncode d.bytes) := by
  cases typedProfile with
  | some profile => rfl
  | none =>
    simp only [commandHashHex, commandHash, Option.map_map]
    rfl

variable {command a x : Bytes}

variable {c : UInt8}

/-- A command that passed the separator check has no byte below the space. -/
theorem SeparatorFree.space_le (h : SeparatorFree command) (hc : c ∈ command) :
    0x20 ≤ c := by
  obtain ⟨front, rest, rfl⟩ := append_of_mem hc
  have hat := h (c :: rest) (suffix_append front _)
  by_contra hlt
  rw [separatorAt, if_pos (Or.inl (UInt8.not_le.mp hlt))] at hat
  cases hat

/-- A byte is written if there is room for it; `r` is what the loop ends with. -/
theorem room_eq {n k : Nat} {r : Bytes} {next : Option Bytes} (hk : k < n)
    (hr : k + 1 ≤ r.length)
    (hnext : k + 1 < n → next = if r.length < n then some r else none) :
    (if n - 1 ≤ k then none else next) = if r.length < n then some r else none := by
  split_ifs with hfull hlt hlt
  · omega
  · rfl
  · rw [hnext (by omega), if_pos hlt]
  · rw [hnext (by omega), if_neg hlt]

/-- The loop of the canonicaliser writes the words out, as long as they fit. -/
theorem canonicalizeLoop_eq {n : Nat} {ws : List Bytes} {w rest : Bytes} {lastWasSpace : Bool}
    (hrest : ∀ c ∈ rest, c ≠ 0x0D ∧ c ≠ 0x09) (hw : 0x20 ∉ w)
    (hlast : lastWasSpace = true ↔ w = [] ∧ ws ≠ [])
    (hstart : w = [] → ws = [] → rest.head? ≠ some 0x20)
    (hfit : (ended 0x20 ws ++ w).length < n) :
    canonicalizeLoop n rest (ended 0x20 ws ++ w) lastWasSpace =
      if (written 0x20 ws w rest).length < n then some (written 0x20 ws w rest) else none := by
  induction rest generalizing ws w lastWasSpace with
  | nil => rw [canonicalizeLoop, written_nil hw, if_pos hfit]
  | cons c rest ih =>
    obtain ⟨⟨hcr, htab⟩, hrest'⟩ := forall_mem_cons.mp hrest
    simp only [canonicalizeLoop, if_neg hcr, htab, or_false]
    by_cases hspace : c = 0x20
    · subst hspace
      rw [if_pos rfl]
      rcases eq_or_ne w [] with rfl | hne
      · -- a space at the start was dropped before the loop, so this one follows a space
        have hws : ws ≠ [] := fun h => hstart rfl h rfl
        have hl : lastWasSpace = true := hlast.mpr ⟨rfl, hws⟩
        rw [if_neg (by simp [hl]), written_skip hws]
        exact ih hrest' hw hlast (fun _ h => absurd h hws) hfit
      · have hl : lastWasSpace = false := by
          cases lastWasSpace with
          | false => rfl
          | true => exact absurd (hlast.mp rfl).1 hne
        have hpos : 0 < (ended 0x20 ws ++ w).length := by
          have := length_pos_iff.mpr hne
          rw [length_append]
          omega
        rw [if_pos ⟨hl, hpos⟩, written_end hw hne]
        have hnext : ended 0x20 ws ++ w ++ [0x20] = ended 0x20 (ws ++ [w]) ++ [] := by
          rw [ended_concat, append_nil]
        have hle : (ended 0x20 (ws ++ [w]) ++ []).length ≤
            (written 0x20 (ws ++ [w]) [] rest).length := le_length_written not_mem_nil rest
        rw [← hnext, length_append, length_singleton] at hle
        refine room_eq hfit hle (fun hroom => ?_)
        rw [hnext]
        refine ih hrest' not_mem_nil (by simp) (by simp) ?_
        rwa [← hnext, length_append, length_singleton]
    · rw [if_neg hspace, written_cons]
      have hw' : 0x20 ∉ w ++ [c] := by simp [hw, Ne.symm hspace]
      have hle : (ended 0x20 ws ++ (w ++ [c])).length ≤ (written 0x20 ws (w ++ [c]) rest).length :=
        le_length_written hw' rest
      rw [← append_assoc, length_append, length_singleton] at hle
      refine room_eq hfit hle (fun hroom => ?_)
      rw [append_assoc]
      refine ih hrest' hw' (by simp) (by simp) ?_
      rwa [← append_assoc, length_append, length_singleton]

/-- A text without its carriage returns, with spaces for its tabs. -/
def untabbed (l : Bytes) : Bytes :=
  (l.filter (· ≠ 0x0D)).map fun c => if c = 0x09 then 0x20 else c

/-- What the canonicaliser makes words of. -/
def lineText (command : Bytes) : Bytes :=
  untabbed (command.dropWhile fun c => c == 0x20 || c == 0x09 || c == 0x0D || c == 0x0A)

theorem untabbed_cons (hcr : c ≠ 0x0D) (l : Bytes) :
    untabbed (c :: l) = (if c = 0x09 then 0x20 else c) :: untabbed l := by
  simp [untabbed, hcr]

variable {l : Bytes}

theorem of_mem_untabbed (h : c ∈ untabbed l) : c ≠ 0x0D ∧ c ≠ 0x09 := by
  simp only [untabbed, mem_map, mem_filter, decide_eq_true_eq] at h
  obtain ⟨b, ⟨-, hb⟩, rfl⟩ := h
  split_ifs with htab
  · decide
  · exact ⟨hb, htab⟩

theorem untabbed_eq_self (h : ∀ c ∈ l, c ≠ 0x0D ∧ c ≠ 0x09) : untabbed l = l := by
  induction l with
  | nil => rfl
  | cons c l ih =>
    obtain ⟨hc, hl⟩ := forall_mem_cons.mp h
    rw [untabbed_cons hc.1, if_neg hc.2, ih hl]

theorem canonicalizeLoop_untabbed (n : Nat) (rest out : Bytes) (lastWasSpace : Bool) :
    canonicalizeLoop n (untabbed rest) out lastWasSpace =
      canonicalizeLoop n rest out lastWasSpace := by
  induction rest generalizing out lastWasSpace with
  | nil => rfl
  | cons c rest ih =>
    by_cases hcr : c = 0x0D
    · rw [canonicalizeLoop, if_pos hcr, ← ih]
      simp [untabbed, hcr]
    · rw [untabbed_cons hcr]
      by_cases htab : c = 0x09
      · simp [canonicalizeLoop, htab, ih]
      · simp [canonicalizeLoop, hcr, htab, ih]

/-- The text starts with no blank, nor with a new line. -/
theorem head?_lineText (h : (lineText command).head? = some c) : c ≠ 0x20 ∧ c ≠ 0x0A := by
  rw [lineText] at h
  have hnot := head?_dropWhile_not
    (fun c : UInt8 => c == 0x20 || c == 0x09 || c == 0x0D || c == 0x0A) command
  cases hd : command.dropWhile fun c => c == 0x20 || c == 0x09 || c == 0x0D || c == 0x0A with
  | nil =>
    rw [hd] at h
    cases h
  | cons b rest =>
    rw [hd] at h hnot
    simp only [head?_cons, Bool.or_eq_false_iff, beq_eq_false_iff_ne] at hnot
    rw [untabbed_cons hnot.1.2, if_neg hnot.1.1.2] at h
    cases h
    exact ⟨hnot.1.1.1, hnot.2⟩

/-- The bytes that the canonicaliser takes in front of the terminator: the words of the text with
single spaces between them, and a space if spaces follow the last word, which is written before it
is taken back. -/
def canonicalRoom (command : Bytes) : Nat :=
  (squeeze 0x20 (lineText command)).length +
    if (lineText command).getLast? = some 0x20 then 1 else 0

/-- **The canonical form** of any command: the words of its text with single spaces between them,
if there is room for it. -/
theorem canonicalizeCommand_lineText {n : Nat} (hn : 0 < n) (command : Bytes) :
    canonicalizeCommand n command =
      if canonicalRoom command < n then some (squeeze 0x20 (lineText command)) else none := by
  have hlast : false = true ↔ ([] : Bytes) = [] ∧ ([] : List Bytes) ≠ [] := by simp
  have hmem : ∀ c ∈ lineText command, c ≠ 0x0D ∧ c ≠ 0x09 := fun _ => of_mem_untabbed
  have hloop : canonicalizeLoop n (lineText command) [] false = _ :=
    canonicalizeLoop_eq hmem not_mem_nil hlast (fun _ _ h => (head?_lineText h).1 rfl) hn
  have hroom : (written 0x20 [] [] (lineText command)).length = canonicalRoom command := by
    simp only [written, ended, flatMap_nil, nil_append, length_append, canonicalRoom, squeeze]
    split_ifs <;> rfl
  rw [canonicalizeCommand, ← canonicalizeLoop_untabbed, ← lineText]
  simp only [hloop, hroom]
  split_ifs
  · rw [Option.map_some, rdropWhile_written]
  · rfl

theorem lineText_eq (h : ∀ c ∈ command, 0x20 ≤ c) :
    lineText command = command.dropWhile (· == 0x20) := by
  have hne : ∀ c ∈ command, ∀ b < 0x20, (c == b) = false := fun c hc b hb =>
    beq_false_of_ne (UInt8.ne_of_lt (UInt8.lt_of_lt_of_le hb (h c hc))).symm
  have hdrop : (command.dropWhile fun c => c == 0x20 || c == 0x09 || c == 0x0D || c == 0x0A) =
      command.dropWhile (· == 0x20) := by
    clear h
    induction command with
    | nil => rfl
    | cons c rest ih =>
      obtain ⟨hc, hrest⟩ := forall_mem_cons.mp hne
      rw [dropWhile_cons, dropWhile_cons, hc 0x09 (by decide), hc 0x0D (by decide),
        hc 0x0A (by decide), ih hrest]
      simp only [Bool.or_false]
  rw [lineText, hdrop]
  refine untabbed_eq_self fun c hc => ?_
  have hc := hne c ((dropWhile_suffix _).mem hc)
  exact ⟨ne_of_beq_false (hc 0x0D (by decide)), ne_of_beq_false (hc 0x09 (by decide))⟩

/-- For a command that passed the separator check its own words are taken. -/
theorem canonicalizeCommand_eq {n : Nat} (hn : 0 < n) (h : commandCheckSeparators command = none) :
    canonicalizeCommand n command =
      if canonicalRoom command < n then some (squeeze 0x20 command) else none := by
  rw [canonicalizeCommand_lineText hn, lineText_eq fun c => (separatorFree_of_check h).space_le,
    squeeze_dropWhile]

theorem head?_squeeze (h : l.head? ≠ some 0x20) : (squeeze 0x20 l).head? = l.head? := by
  cases l with
  | nil => simp [squeeze, words]
  | cons c l =>
    have hc : c ≠ 0x20 := fun he => h (by rw [he]; rfl)
    by_cases hd : 0x20 ∈ l
    · obtain ⟨w, rest, rfl, hw⟩ := eq_append_cons_of_mem hd
      rw [squeeze, ← cons_append, words_append_cons (by simp [Ne.symm hc, hw])]
      cases hws : words 0x20 rest <;> simp [intercalate]
    · rw [squeeze, words_of_notMem (by simp [Ne.symm hc, hd])]
      simp [intercalate]

theorem of_mem_canonical (h : c ∈ squeeze 0x20 (lineText command)) : c ≠ 0x0D ∧ c ≠ 0x09 := by
  rcases eq_or_ne c 0x20 with rfl | hspace
  · decide
  · exact of_mem_untabbed ((mem_squeeze_iff hspace).mp h)

theorem lineText_squeeze (command : Bytes) :
    lineText (squeeze 0x20 (lineText command)) = squeeze 0x20 (lineText command) := by
  have hhead := head?_squeeze fun h : (lineText command).head? = _ => (head?_lineText h).1 rfl
  have hclean : ∀ c ∈ squeeze 0x20 (lineText command), c ≠ 0x0D ∧ c ≠ 0x09 :=
    fun _ => of_mem_canonical
  cases hs : squeeze 0x20 (lineText command) with
  | nil => rfl
  | cons c r =>
    rw [hs] at hhead hclean
    obtain ⟨hspace, hline⟩ := head?_lineText hhead.symm
    obtain ⟨hcr, htab⟩ := hclean c mem_cons_self
    rw [lineText, dropWhile_cons_of_neg (by simp [hspace, htab, hcr, hline]), untabbed_eq_self hclean]

theorem separatorFree_cons :
    SeparatorFree (c :: l) ↔ separatorAt (c :: l) = none ∧ SeparatorFree l := by
  simp only [SeparatorFree, suffix_cons_iff, forall_eq_or_imp]

theorem check_of_separatorFree (h : SeparatorFree command) : commandCheckSeparators command = none := by
  have hfind (n : Nat) : findSeparator n command = none := by
    induction command generalizing n with
    | nil => rfl
    | cons c rest ih =>
      obtain ⟨hc, hrest⟩ := separatorFree_cons.mp h
      rw [findSeparator, hc]
      exact ih hrest (n + 1)
  rw [commandCheckSeparators, hfind, Option.map_none]

/-- A space keeps separators apart. -/
theorem separatorFree_append {w : Bytes} :
    SeparatorFree (w ++ 0x20 :: l) ↔ SeparatorFree w ∧ SeparatorFree l := by
  induction w with
  | nil =>
    rw [nil_append, separatorFree_cons]
    simp [separatorAt, SeparatorFree]
  | cons c w ih =>
    have hat : separatorAt (c :: (w ++ 0x20 :: l)) = none ↔ separatorAt (c :: w) = none := by
      cases w <;> simp [separatorAt]
    rw [cons_append, separatorFree_cons, separatorFree_cons, ih, hat, and_assoc]

theorem separatorFree_intercalate {ws : List Bytes} :
    SeparatorFree ([0x20].intercalate ws) ↔ ∀ w ∈ ws, SeparatorFree w := by
  induction ws with
  | nil => simp [intercalate, SeparatorFree, separatorAt]
  | cons w ws ih =>
    cases ws with
    | nil => simp [intercalate]
    | cons v ws =>
      rw [forall_mem_cons, ← ih, ← separatorFree_append]
      simp [intercalate]

theorem SeparatorFree.squeeze (h : SeparatorFree command) : SeparatorFree (squeeze 0x20 command) := by
  have hwords : SeparatorFree ([0x20].intercalate (command.splitOn 0x20)) := by
    rwa [intercalate_splitOn]
  exact separatorFree_intercalate.mpr fun w hw =>
    separatorFree_intercalate.mp hwords w (mem_of_mem_filter hw)

/-- The text behind the domain of typed operations. -/
def typedText (profile command : Bytes) : Bytes :=
  text "VIRP-TYPED-OP" ++ 0 :: putBe32 profile.length ++ profile ++ putBe32 command.length ++ command

variable (typedProfile : Option Bytes)

/-- The text of which the hash of a command is taken. -/
def hashedText (command : Bytes) : Option Bytes :=
  match typedProfile with
  | none => canonicalizeCommand 512 command
  | some profile =>
    if profile.length = 0 ∨ 64 < profile.length ∨ command.length = 0 ∨ 65536 < command.length then
      none
    else some (typedText profile command)

theorem commandHash_eq (command : Bytes) :
    commandHash C command typedProfile = (hashedText typedProfile command).map C.sha256 := by
  cases typedProfile with
  | none => rfl
  | some profile =>
    simp only [commandHash, typedOpHash, hashedText, typedText]
    split_ifs <;> first | rfl | omega

/-- The command as it is meant to be named by its hash: the words of a command line, the exact
bytes of a typed operation and its profile. -/
def SameCommand : Option Bytes → Bytes → Option Bytes → Bytes → Prop
  | none, a, none, b => words 0x20 a = words 0x20 b
  | some p, a, some q, b => p = q ∧ a = b
  | _, _, _, _ => False

/-- The text of a typed operation spells out both parts. -/
theorem typedText_inj {p q b : Bytes} (hp : p.length < 2 ^ 32) (hq : q.length < 2 ^ 32)
    (h : typedText p a = typedText q b) : p = q ∧ a = b := by
  simp only [typedText, append_assoc, cons_append] at h
  have h := tail_eq_of_cons_eq (append_cancel_left h)
  obtain ⟨hplen, h⟩ := append_inj h rfl
  obtain ⟨hpq, h⟩ := append_inj h (putBe32_inj hp hq hplen)
  obtain ⟨halen, hab⟩ := append_inj h rfl
  exact ⟨hpq, hab⟩

theorem zero_mem_typedText (profile command : Bytes) : 0 ∈ typedText profile command := by
  simp [typedText]

/-- What is hashed for a command line. -/
theorem hashedText_none (ha : commandCheckSeparators a = none) (hx : hashedText none a = some x) :
    x = squeeze 0x20 a := by
  rw [hashedText, canonicalizeCommand_eq (by decide) ha] at hx
  split at hx
  · exact (Option.some.inj hx).symm
  · cases hx

theorem zero_notMem_hashedText (ha : commandCheckSeparators a = none)
    (hx : hashedText none a = some x) : 0 ∉ x := by
  intro h
  rw [hashedText_none ha hx] at h
  have hmem := (mem_squeeze_iff (by decide)).mp h
  exact absurd ((separatorFree_of_check ha).space_le hmem) (by decide)

/-- What is hashed for a typed operation. -/
theorem hashedText_some {p : Bytes} (hx : hashedText (some p) a = some x) :
    p.length < 2 ^ 32 ∧ x = typedText p a := by
  rw [hashedText] at hx
  split at hx
  · cases hx
  · exact ⟨by omega, (Option.some.inj hx).symm⟩

/-- **The hashed text stands for the command.** -/
theorem hashedText_eq_iff {p q : Option Bytes} {b y : Bytes}
    (ha : p = none → commandCheckSeparators a = none)
    (hb : q = none → commandCheckSeparators b = none) (hx : hashedText p a = some x)
    (hy : hashedText q b = some y) : x = y ↔ SameCommand p a q b := by
  match p, q with
  | none, none =>
    rw [hashedText_none (ha rfl) hx, hashedText_none (hb rfl) hy]
    exact squeeze_eq_iff
  | some p, some q =>
    obtain ⟨hp, rfl⟩ := hashedText_some hx
    obtain ⟨hq, rfl⟩ := hashedText_some hy
    refine ⟨typedText_inj hp hq, ?_⟩
    rintro ⟨rfl, rfl⟩
    rfl
  | some p, none =>
    obtain ⟨-, rfl⟩ := hashedText_some hx
    refine ⟨fun h => ?_, False.elim⟩
    exact zero_notMem_hashedText (hb rfl) hy (h ▸ zero_mem_typedText p a)
  | none, some q =>
    obtain ⟨-, rfl⟩ := hashedText_some hy
    refine ⟨fun h => ?_, False.elim⟩
    exact zero_notMem_hashedText (ha rfl) hx (h ▸ zero_mem_typedText q b)

/-- Equal hashes are equal commands, if the hash tells their two texts apart. -/
theorem commandHash_eq_of_hashedText {p q : Option Bytes} {a b x y : Bytes}
    (ha : p = none → commandCheckSeparators a = none)
    (hb : q = none → commandCheckSeparators b = none) (hx : hashedText p a = some x)
    (hy : hashedText q b = some y) (hsha : C.sha256 x = C.sha256 y → x = y) :
    (commandHash C a p = commandHash C b q ↔ SameCommand p a q b) ∧
    (commandHashHex C a p = commandHashHex C b q ↔ SameCommand p a q b) := by
  have hdigest : C.sha256 x = C.sha256 y ↔ SameCommand p a q b :=
    ⟨fun h => (hashedText_eq_iff ha hb hx hy).mp (hsha h),
      fun h => congrArg C.sha256 ((hashedText_eq_iff ha hb hx hy).mpr h)⟩
  have hhex : hexEncode (C.sha256 x).bytes = hexEncode (C.sha256 y).bytes ↔
      C.sha256 x = C.sha256 y := by
    rw [hexEncode_injective.eq_iff]
    exact Digest.mk.injEq .. ▸ Iff.rfl
  simp only [commandHashHex_eq, commandHash_eq, hx, hy, Option.map_some, Option.some.injEq]
  exact ⟨hdigest, hhex.trans hdigest⟩

/-- A command line that passed the separator check has a hash exactly if there is room for its
canonical form. -/
theorem isSome_commandHash (ha : commandCheckSeparators a = none) :
    (commandHash C a none).isSome = true ↔ canonicalRoom a < 512 := by
  rw [commandHash, Option.isSome_map, canonicalizeCommand_eq (by decide) ha]
  split_ifs with h <;> simp [h]

/-- **Equal hashes are equal commands.**  Two command lines that passed the separator check, with
canonical forms that fit, have hashes that are equal exactly if they have the same words, if and
only if there is room for both.  Two typed operations that have a hash have the same one exactly if
they have the same profile and the same bytes; and none has the hash of a command line.  The hash is
taken to tell the two texts in question apart. -/
theorem commandHash_eq_iff :
    (∀ a b, commandCheckSeparators a = none → commandCheckSeparators b = none →
      (squeeze 0x20 a).length < 512 → (squeeze 0x20 b).length < 512 →
      (C.sha256 (squeeze 0x20 a) = C.sha256 (squeeze 0x20 b) → squeeze 0x20 a = squeeze 0x20 b) →
      ((commandHash C a none).isSome = true ∧ (commandHash C b none).isSome = true ∧
        (commandHash C a none = commandHash C b none ↔ words 0x20 a = words 0x20 b) ∧
        (commandHashHex C a none = commandHashHex C b none ↔ words 0x20 a = words 0x20 b) ↔
      canonicalRoom a < 512 ∧ canonicalRoom b < 512)) ∧
    (∀ p q a b, (commandHash C a (some p)).isSome = true → (commandHash C b (some q)).isSome = true →
      (C.sha256 (typedText p a) = C.sha256 (typedText q b) → typedText p a = typedText q b) →
      (commandHash C a (some p) = commandHash C b (some q) ↔ p = q ∧ a = b) ∧
      (commandHashHex C a (some p) = commandHashHex C b (some q) ↔ p = q ∧ a = b)) ∧
    (∀ p a b, commandCheckSeparators b = none → (commandHash C a (some p)).isSome = true →
      (commandHash C b none).isSome = true →
      (C.sha256 (typedText p a) = C.sha256 (squeeze 0x20 b) → typedText p a = squeeze 0x20 b) →
      commandHash C a (some p) ≠ commandHash C b none ∧
      commandHashHex C a (some p) ≠ commandHashHex C b none) := by
  have line {a : Bytes} (ha : commandCheckSeparators a = none)
      (h : (commandHash C a none).isSome = true) : hashedText none a = some (squeeze 0x20 a) := by
    rw [hashedText, canonicalizeCommand_eq (by decide) ha, if_pos ((isSome_commandHash C ha).mp h)]
  have typed {p a : Bytes} (h : (commandHash C a (some p)).isSome = true) :
      hashedText (some p) a = some (typedText p a) := by
    rw [commandHash_eq, Option.isSome_map] at h
    obtain ⟨x, hx⟩ := Option.isSome_iff_exists.mp h
    rw [hx, (hashedText_some hx).2]
  refine ⟨fun a b ha hb _ _ hsha => ?_, fun p q a b hp hq hsha => ?_, fun p a b hb hp hl hsha => ?_⟩
  · rw [isSome_commandHash C ha, isSome_commandHash C hb]
    refine ⟨fun h => ⟨h.1, h.2.1⟩, fun h => ⟨h.1, h.2, ?_⟩⟩
    exact commandHash_eq_of_hashedText C (fun _ => ha) (fun _ => hb)
      (line ha ((isSome_commandHash C ha).mpr h.1)) (line hb ((isSome_commandHash C hb).mpr h.2)) hsha
  · exact commandHash_eq_of_hashedText C nofun nofun (typed hp) (typed hq) hsha
  · obtain ⟨hdigest, hhex⟩ := commandHash_eq_of_hashedText C (p := some p) nofun (fun _ => hb)
      (typed hp) (line hb hl) hsha
    exact ⟨hdigest.mp, hhex.mp⟩

namespace CommandSample

/-- A line of as many bytes as fit. -/
def longLine : Bytes := List.replicate 511 0x78

/-- The texts that are hashed below. -/
def crypto : Crypto := .known
  [(longLine, text "8f635db74975c62baf2dde0e0739fbe268c25c5d5fa6768d7f232dfc502d12ac"),
   (text "show version",
      text "000ed199c85567b4592fdb330ba588887166a2eb9b93fe500b86698aa7913be6"),
   (typedText (text "pbs") (text "show version"),
      text "5332d5ff09cd07df399e291e497066104b14608b9aeaacbd8158260116369117")]
  [] [] []

end CommandSample

section
open CommandSample

/-- Two spellings of a command line, and the typed operation of the same spelling. -/
theorem commandHash_eq_iff_show :
    commandHash crypto (text "  show   version ") none = commandHash crypto (text "show version") none ∧
    commandHash crypto (text "show version") (some (text "pbs")) ≠
      commandHash crypto (text "show version") none := by
  have hsqueeze : squeeze 0x20 (text "  show   version ") = squeeze 0x20 (text "show version") := by
    decide +kernel
  obtain ⟨hlines, -, htyped⟩ := commandHash_eq_iff crypto
  constructor
  · exact ((hlines (text "  show   version ") (text "show version") (by decide +kernel)
      (by decide +kernel) (by decide +kernel) (by decide +kernel) fun _ => hsqueeze).mpr
        (by decide +kernel)).2.2.1.mpr (by decide +kernel)
  · exact (htyped (text "pbs") (text "show version") (text "show version") (by decide +kernel)
      (by decide +kernel) (by decide +kernel) (by decide +kernel)).1

/-- **A space at the end costs the hash.**  The two lines have the same words and the same canonical
form, which fits the buffer; but only one of them has a hash. -/
theorem commandHash_trailing_space :
    commandCheckSeparators longLine = none ∧ commandCheckSeparators (longLine ++ [0x20]) = none ∧
    words 0x20 longLine = words 0x20 (longLine ++ [0x20]) ∧
    (squeeze 0x20 longLine).length < 512 ∧ (squeeze 0x20 (longLine ++ [0x20])).length < 512 ∧
    (commandHash crypto longLine none).isSome = true ∧
    commandHash crypto (longLine ++ [0x20]) none = none := by
  decide +kernel

end

end Virp
