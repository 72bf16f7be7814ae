import Virp.Library.Numeral
import Virp.Library.Machine
import Virp.Errors

/-! # The replay store

A verifier keeps, for each session and node, the highest sequence number it has
accepted.  The table is small: when it is full, the least recently touched mark of
another session makes room.  Every accept writes the table to a text file before it
returns OK, and a process that starts reads the file back.
-/
namespace Virp

open Numeral List

/-! ## The table -/

/-- `session_id[16]`. -/
abbrev SessionId := Blob 16

/-- What a mark is about. -/
abbrev SeqKey := SessionId × UInt64

/-- `virp_seqstore_entry_t`. -/
structure SeqMark where
  sessionId : SessionId
  nodeId : UInt64
  lastSeq : UInt64
  touched : UInt64
deriving DecidableEq

variable (m : SeqMark)

def SeqMark.key : SeqKey := (m.sessionId, m.nodeId)

/-- What a mark says, apart from when it was touched. -/
def SeqMark.mark : SeqKey × UInt64 := (m.key, m.lastSeq)

def seqstoreMaxEntries : Nat := 128

/-- `virp_seqstore_t`: the first `count` entries, and the tick. -/
structure Seqstore where
  entries : List SeqMark
  tick : UInt64
deriving DecidableEq

def Seqstore.empty : Seqstore := ⟨[], 0⟩

/-- The marks of the table. -/
def Seqstore.marks (st : Seqstore) : List (SeqKey × UInt64) := st.entries.map SeqMark.mark

/-! ## The file -/

/-- The line of a mark: `"%02x"` of each byte of the session, `" %llx %llu\n"`. -/
def seqLine : Bytes :=
  hexEncode m.sessionId.bytes ++ 0x20 :: numeral 16 m.nodeId.toNat ++
    0x20 :: numeral 10 m.lastSeq.toNat ++ [0x0A]

/-- What `seqstore_save` writes. -/
def seqText (entries : List SeqMark) : Bytes := entries.flatMap seqLine

/-- `fgets` of at most `n` bytes: up to a newline, and what is left. -/
def fgets : Nat → Bytes → Bytes × Bytes
  | 0, b => ([], b)
  | _, [] => ([], [])
  | n + 1, c :: b => if c = 0x0A then ([c], b) else (c :: (fgets n b).1, (fgets n b).2)

/-- The lines `fgets` returns one after the other, at most `fuel` of them. -/
def fgetsLines (n : Nat) : Nat → Bytes → List Bytes
  | 0, _ => []
  | _, [] => []
  | fuel + 1, b => (fgets n b).1 :: fgetsLines n fuel (fgets n b).2

def isSpace (c : UInt8) : Bool := c = 0x20 ∨ (0x09 ≤ c ∧ c ≤ 0x0D)

/-- `%<width>s`. -/
def scanString (width : Nat) (s : Bytes) : Option (Bytes × Bytes) :=
  let s := s.dropWhile isSpace
  let token := (s.takeWhile (fun c => !isSpace c)).take width
  if token = [] then none else some (token, s.drop token.length)

/-- A sign, if there is one. -/
def scanSign : Bytes → Bool × Bytes
  | 0x2D :: s => (true, s)
  | 0x2B :: s => (false, s)
  | s => (false, s)

/-- `0x`, before a hexadecimal digit. -/
def skipHexMark (base : Nat) : Bytes → Bytes
  | 0x30 :: x :: c :: s =>
    if base = 16 ∧ (x = 0x78 ∨ x = 0x58) ∧ isDigitOf 16 c then c :: s else 0x30 :: x :: c :: s
  | s => s

/-- `%llu`, `%llx`: what is too large counts as the largest number, and a minus sign
negates. -/
def scanU64 (base : Nat) (s : Bytes) : Option (UInt64 × Bytes) :=
  let sign := scanSign (s.dropWhile isSpace)
  let digits := skipHexMark base sign.2
  let number := read base digits
  if digits.takeWhile (isDigitOf base) = [] then none
  else
    let n := if 2 ^ 64 ≤ number.1 then 2 ^ 64 - 1 else number.1
    some (if sign.1 then 0 - UInt64.ofNat n else UInt64.ofNat n, number.2)

/-- `sscanf(line, "%40s %llx %llu", ...) == 3`. -/
def scanLine (line : Bytes) : Option (Bytes × UInt64 × UInt64) :=
  match scanString 40 line with
  | none => none
  | some (sid, rest) =>
    match scanU64 16 rest with
    | none => none
    | some (nid, rest) =>
      match scanU64 10 rest with
      | none => none
      | some (seq, _) => some (sid, nid, seq)

/-- The pairs of hex digits of `parse_sid`. -/
def parseHexPairs : Bytes → Option Bytes
  | [] => some []
  | [_] => none
  | hi :: lo :: rest =>
    match digitValue hi, digitValue lo, parseHexPairs rest with
    | some h, some l, some b => some (UInt8.ofNat (16 * h + l) :: b)
    | _, _, _ => none

def parseSid (hex : Bytes) : Option SessionId :=
  match parseHexPairs hex with
  | none => none
  | some b => if h : b.length = 16 then some ⟨b, h⟩ else none

/-- The loop of `seqstore_load`: a line that does not parse fails the load. -/
def loadLines : List Bytes → Seqstore → Option Seqstore
  | [], st => some st
  | line :: rest, st =>
    if line.head? = some 0x0A ∨ line.head? = some 0x23 then loadLines rest st
    else match scanLine (cstr line) with
    | none => none
    | some (sid, nid, seq) =>
      if sid.length ≠ 32 then none
      else if seqstoreMaxEntries ≤ st.entries.length then some st
      else match parseSid sid with
      | none => none
      | some id => loadLines rest ⟨st.entries ++ [⟨id, nid, seq, st.tick + 1⟩], st.tick + 1⟩

/-- `seqstore_load`, after `virp_seqstore_init` has cleared the store.  There is no file
on the first run. -/
def seqstoreLoad : Option Bytes → Option Seqstore
  | none => some .empty
  | some b => loadLines (fgetsLines 127 b.length b) .empty

/-- The mark of a session and node. -/
def Seqstore.find (st : Seqstore) (key : SeqKey) : Option Nat :=
  st.entries.findIdx? (fun m => m.nodeId == key.2 && m.sessionId == key.1)

/-- The loop over a full table: the least recently touched mark of another session, the
first of them if several. -/
def victimLoop (sid : SessionId) : List SeqMark → Nat → Option (Nat × SeqMark) →
    Option (Nat × SeqMark)
  | [], _, best => best
  | m :: rest, i, best =>
    victimLoop sid rest (i + 1) <|
      if m.sessionId = sid then best
      else match best with
      | none => some (i, m)
      | some (j, b) => if m.touched < b.touched then some (i, m) else some (j, b)

/-- An entry after `memset`. -/
def SeqMark.zero : SeqMark := ⟨.fill 16 0, 0, 0, 0⟩

/-- How an accept changes the table, if it does: the table to be saved, the table after
a failed save, and the mark that has to go. -/
def acceptTable (st : Seqstore) (key : SeqKey) (seq : UInt64) :
    Except VirpError (Seqstore × Seqstore × Option SeqMark) :=
  let tick := st.tick + 1
  let mark : SeqMark := ⟨key.1, key.2, seq, tick⟩
  match st.find key with
  | some i =>
    let old := st.entries.getD i .zero
    if seq ≤ old.lastSeq then .error .replayDetected
    else
      let entries := st.entries.set i { old with lastSeq := seq, touched := tick }
      .ok (⟨entries, tick⟩, ⟨entries.set i old, tick⟩, none)
  | none =>
    if st.entries.length < seqstoreMaxEntries then
      let entries := st.entries ++ [mark]
      .ok (⟨entries, tick⟩, ⟨entries.dropLast, tick⟩, none)
    else match victimLoop key.1 st.entries 0 none with
    | none => .error .messageTooLarge
    | some (i, evicted) =>
      let entries := st.entries.set i mark
      -- a zero tick in the saved copy is how the code knows that nothing was evicted
      let back := if evicted.touched ≠ 0 then entries.set i evicted
        else (entries.set i .zero).dropLast
      .ok (⟨entries, tick⟩, ⟨back, tick⟩, some evicted)

/-! ## What is saved is read back -/

theorem not_isSpace_of_isDigitOf {b : Nat} {c : UInt8} (h : isDigitOf b c = true) :
    isSpace c = false ∧ c ≠ 0x2D ∧ c ≠ 0x2B ∧ c ≠ 0x78 ∧ c ≠ 0x58 := by
  have hrange : (digitValue c).isSome = true := by
    cases hd : digitValue c with
    | none => simp [isDigitOf, hd] at h
    | some d => rfl
  have table : ∀ n : Fin 256, (digitValue (UInt8.ofNat n)).isSome = true →
      isSpace (UInt8.ofNat n) = false ∧ UInt8.ofNat n ≠ 0x2D ∧ UInt8.ofNat n ≠ 0x2B ∧
        UInt8.ofNat n ≠ 0x78 ∧ UInt8.ofNat n ≠ 0x58 := by decide +kernel
  have hc := table ⟨c.toNat, c.toNat_lt⟩
  simpa using hc (by simpa using hrange)

/-- A number between blanks is scanned back. -/
theorem scanU64_numeral {base : Nat} (hb : 1 < base) (h16 : base ≤ 16) (n : UInt64) {sep : UInt8}
    (hsep : isDigitOf base sep = false ∧ sep ≠ 0x78 ∧ sep ≠ 0x58) (rest : Bytes) :
    scanU64 base (0x20 :: (numeral base n.toNat ++ sep :: rest)) = some (n, sep :: rest) := by
  obtain ⟨d, ds, hds⟩ := exists_cons_of_ne_nil (numeral_ne_nil hb n.toNat)
  have digit : ∀ c ∈ d :: ds, isDigitOf base c = true := fun c hc =>
    isDigitOf_of_mem_numeral hb h16 (hds ▸ hc)
  obtain ⟨hspace, hminus, hplus, -, -⟩ := not_isSpace_of_isDigitOf (digit d mem_cons_self)
  have hread : read base (d :: ds ++ sep :: rest) = (n.toNat, sep :: rest) := by
    rw [← hds]
    exact read_numeral_append hb h16 _ fun c hc => by simpa [← Option.some.inj hc] using hsep.1
  have hskip : skipHexMark base (d :: ds ++ sep :: rest) = d :: ds ++ sep :: rest := by
    cases ds with
    | nil =>
      simp only [cons_append, nil_append]
      unfold skipHexMark
      split
      · rename_i heq
        simp only [cons.injEq] at heq
        obtain ⟨rfl, rfl, hc⟩ := heq
        rw [if_neg (by simp [hsep.2.1, hsep.2.2]), hc]
      · rfl
    | cons x ds =>
      obtain ⟨-, -, -, hx, hX⟩ := not_isSpace_of_isDigitOf (digit x (by simp))
      simp only [cons_append]
      unfold skipHexMark
      split
      · rename_i heq
        simp only [cons.injEq] at heq
        obtain ⟨rfl, rfl, hc⟩ := heq
        rw [if_neg (by simp [hx, hX]), hc]
      · rfl
  have hsign : scanSign (d :: ds ++ sep :: rest) = (false, d :: ds ++ sep :: rest) := by
    simp only [cons_append]
    unfold scanSign
    split
    · simp_all
    · simp_all
    · rfl
  have hblank : (0x20 :: (d :: ds ++ sep :: rest)).dropWhile isSpace = d :: ds ++ sep :: rest := by
    rw [dropWhile_cons_of_pos (by decide), cons_append, dropWhile_cons_of_neg (by simp [hspace])]
  have hsome : (d :: ds ++ sep :: rest).takeWhile (isDigitOf base) ≠ [] := by
    simp [digit d mem_cons_self]
  have hlt := n.toNat_lt
  unfold scanU64
  rw [hds, hblank]
  simp only [hsign, hskip, hread, if_neg hsome]
  rw [if_neg (show ¬ 2 ^ 64 ≤ n.toNat by omega)]
  simp

theorem isSpace_hexDigit {c : UInt8} (h : isLowerHex c = true) : isSpace c = false := by
  have table : ∀ n : Fin 256, isLowerHex (UInt8.ofNat n) = true → isSpace (UInt8.ofNat n) = false := by
    decide +kernel
  have hc := table ⟨c.toNat, c.toNat_lt⟩
  simpa using hc (by simpa using h)

theorem scanString_hexEncode (sid : SessionId) (rest : Bytes) :
    scanString 40 (hexEncode sid.bytes ++ 0x20 :: rest) =
      some (hexEncode sid.bytes, 0x20 :: rest) := by
  have hspace : ∀ c ∈ hexEncode sid.bytes, isSpace c = false := fun c hc =>
    isSpace_hexDigit (isLowerHex_of_mem_hexEncode hc)
  have hlen : (hexEncode sid.bytes).length = 32 := by rw [length_hexEncode, sid.length_eq]
  have hdrop : (hexEncode sid.bytes ++ 0x20 :: rest).dropWhile isSpace =
      hexEncode sid.bytes ++ 0x20 :: rest := by
    cases hh : hexEncode sid.bytes with
    | nil => simp [hh] at hlen
    | cons c cs =>
      rw [cons_append, dropWhile_cons_of_neg (by simp [hspace c (by simp [hh])])]
  have htake : (hexEncode sid.bytes ++ 0x20 :: rest).takeWhile (fun c => !isSpace c) =
      hexEncode sid.bytes := by
    rw [takeWhile_append_of_pos (by simpa using hspace),
      takeWhile_cons_of_neg (by decide), append_nil]
  unfold scanString
  simp only [hdrop, htake]
  rw [take_of_length_le (by omega), if_neg (by intro h; simp [h] at hlen), drop_left]

theorem parseHexPairs_hexEncode (b : Bytes) : parseHexPairs (hexEncode b) = some b := by
  have digit : ∀ d : Fin 16, digitValue (hexDigit d) = some (d : Nat) := by decide
  induction b with
  | nil => rfl
  | cons x b ih =>
    have hx := x.toNat_lt
    have hhi := digit ⟨x.toNat / 16, by omega⟩
    have hlo := digit ⟨x.toNat % 16, by omega⟩
    simp only at hhi hlo
    rw [hexEncode_cons, parseHexPairs, hhi, hlo, ih]
    simp only
    rw [Nat.div_add_mod, UInt8.ofNat_toNat]

theorem parseSid_hexEncode (sid : SessionId) : parseSid (hexEncode sid.bytes) = some sid := by
  simp [parseSid, parseHexPairs_hexEncode, sid.length_eq]

theorem mem_seqLine {m : SeqMark} {c : UInt8} (h : c ∈ seqLine m) :
    isLowerHex c = true ∨ isDigitOf 16 c = true ∨ isDigitOf 10 c = true ∨ c = 0x20 ∨ c = 0x0A := by
  simp only [seqLine, mem_append, mem_cons, not_mem_nil, or_false] at h
  rcases h with ((h | h | h) | h | h) | h
  · exact .inl (isLowerHex_of_mem_hexEncode h)
  · exact .inr (.inr (.inr (.inl h)))
  · exact .inr (.inl (isDigitOf_of_mem_numeral (by decide) (by decide) h))
  · exact .inr (.inr (.inr (.inl h)))
  · exact .inr (.inr (.inl (isDigitOf_of_mem_numeral (by decide) (by decide) h)))
  · exact .inr (.inr (.inr (.inr h)))

theorem scanLine_seqLine :
    scanLine (cstr (seqLine m)) = some (hexEncode m.sessionId.bytes, m.nodeId, m.lastSeq) := by
  have h0 : 0 ∉ seqLine m := fun h => by
    rcases mem_seqLine h with h | h | h | h | h <;> exact absurd h (by decide)
  rw [cstr_eq_self h0, seqLine]
  simp only [append_assoc, cons_append]
  simp only [scanLine, scanString_hexEncode,
    @scanU64_numeral 16 (by decide) (by decide) m.nodeId 0x20 (by decide),
    @scanU64_numeral 10 (by decide) (by decide) m.lastSeq 0x0A (by decide)]

/-- The entries as a load numbers them. -/
def retouch : UInt64 → List SeqMark → List SeqMark
  | _, [] => []
  | tick, m :: rest => { m with touched := tick + 1 } :: retouch (tick + 1) rest

theorem map_mark_retouch (tick : UInt64) (l : List SeqMark) :
    (retouch tick l).map SeqMark.mark = l.map SeqMark.mark := by
  induction l generalizing tick with
  | nil => rfl
  | cons m l ih => simp [retouch, ih, SeqMark.mark, SeqMark.key]

variable (l : List SeqMark)

theorem loadLines_seqLine (st : Seqstore) (hlen : st.entries.length + l.length ≤ seqstoreMaxEntries) :
    loadLines (l.map seqLine) st =
      some ⟨st.entries ++ retouch st.tick l, st.tick + UInt64.ofNat l.length⟩ := by
  induction l generalizing st with
  | nil => simp [loadLines, retouch]
  | cons m l ih =>
    have hhead : ¬ ((seqLine m).head? = some 0x0A ∨ (seqLine m).head? = some 0x23) := by
      cases hh : hexEncode m.sessionId.bytes with
      | nil =>
        have := length_hexEncode m.sessionId.bytes
        rw [hh, m.sessionId.length_eq] at this
        cases this
      | cons c cs =>
        have hc : isLowerHex c = true := isLowerHex_of_mem_hexEncode (hh ▸ mem_cons_self)
        simp only [seqLine, hh, cons_append, head?_cons, Option.some.injEq]
        rintro (rfl | rfl) <;> exact absurd hc (by decide)
    have hsid : (hexEncode m.sessionId.bytes).length = 32 := by
      rw [length_hexEncode, m.sessionId.length_eq]
    simp only [length_cons] at hlen
    rw [map_cons, loadLines, if_neg hhead, scanLine_seqLine]
    simp only
    rw [if_neg (by omega), if_neg (by omega), parseSid_hexEncode]
    simp only
    rw [ih _ (by simp only [length_append, length_singleton]; omega)]
    simp only [retouch, append_assoc, singleton_append, length_cons,
      UInt64.ofNat_add, Option.some.injEq, Seqstore.mk.injEq]
    refine ⟨trivial, ?_⟩
    rw [UInt64.add_assoc, UInt64.add_comm 1]
    rfl

theorem fgets_line {n : Nat} {l : Bytes} (hl : (0x0A : UInt8) ∉ l) (hlen : l.length < n)
    (rest : Bytes) : fgets n (l ++ 0x0A :: rest) = (l ++ [0x0A], rest) := by
  induction l generalizing n with
  | nil =>
    obtain ⟨n, rfl⟩ := Nat.exists_eq_succ_of_ne_zero (Nat.ne_of_gt hlen)
    rfl
  | cons c l ih =>
    obtain ⟨n, rfl⟩ := Nat.exists_eq_succ_of_ne_zero (Nat.ne_of_gt (Nat.zero_lt_of_lt hlen))
    have hc : c ≠ 0x0A := fun h => hl (h ▸ mem_cons_self)
    rw [cons_append, fgets, if_neg hc, ih (fun h => hl (mem_cons_of_mem _ h)) (by simpa using hlen)]
    rfl

theorem fgets_seqLine (rest : Bytes) : fgets 127 (seqLine m ++ rest) = (seqLine m, rest) := by
  have hnode := length_numeral_le (b := 16) (n := m.nodeId.toNat) (k := 16) (by decide) (by decide)
    (by have := m.nodeId.toNat_lt; omega)
  have hseq := length_numeral_le (b := 10) (n := m.lastSeq.toNat) (k := 20) (by decide) (by decide)
    (by have := m.lastSeq.toNat_lt; omega)
  have hsid : (hexEncode m.sessionId.bytes).length = 32 := by
    rw [length_hexEncode, m.sessionId.length_eq]
  have hnl : (0x0A : UInt8) ∉ hexEncode m.sessionId.bytes ++ 0x20 :: numeral 16 m.nodeId.toNat ++
      0x20 :: numeral 10 m.lastSeq.toNat := by
    simp only [mem_append, mem_cons, not_or]
    exact ⟨⟨fun h => absurd (isLowerHex_of_mem_hexEncode h) (by decide), by decide,
      fun h => absurd (isDigitOf_of_mem_numeral (by decide) (by decide) h) (by decide)⟩, by decide,
      fun h => absurd (isDigitOf_of_mem_numeral (by decide) (by decide) h) (by decide)⟩
  have h := fgets_line (n := 127) hnl (by
    simp only [length_append, length_cons]
    omega) rest
  rw [seqLine, append_assoc _ [0x0A] rest]
  exact h

theorem fgetsLines_seqText (fuel : Nat) (h : l.length ≤ fuel) :
    fgetsLines 127 fuel (seqText l) = l.map seqLine := by
  induction l generalizing fuel with
  | nil => cases fuel <;> rfl
  | cons m l ih =>
    obtain ⟨fuel, rfl⟩ := Nat.exists_eq_succ_of_ne_zero (Nat.ne_of_gt (Nat.zero_lt_of_lt h))
    have hne : seqText (m :: l) ≠ [] := by simp [seqText, seqLine]
    have hline : fgets 127 (seqText (m :: l)) = (seqLine m, seqText l) := fgets_seqLine m _
    rw [fgetsLines.eq_3 _ _ _ (by simpa using hne), hline, ih fuel (by simpa using h)]
    rfl

theorem length_le_seqText : l.length ≤ (seqText l).length := by
  induction l with
  | nil => exact le_rfl
  | cons m l ih =>
    have : 0 < (seqLine m).length := by
      simp only [seqLine, length_append, length_singleton]
      omega
    simp only [seqText, flatMap_cons, length_append, length_cons] at ih ⊢
    omega

/-- **Saving and loading** gives back the marks, touched in the order of the file. -/
theorem seqstoreLoad_seqText {l : List SeqMark} (h : l.length ≤ seqstoreMaxEntries) :
    seqstoreLoad (some (seqText l)) = some ⟨retouch 0 l, UInt64.ofNat l.length⟩ := by
  unfold seqstoreLoad
  simp only
  rw [fgetsLines_seqText l _ (length_le_seqText l),
    loadLines_seqLine l .empty (by simpa [Seqstore.empty] using h)]
  simp [Seqstore.empty]

end Virp
