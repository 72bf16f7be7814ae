import Virp.ChainEvidence
import Virp.Library.Numeral
import Mathlib.Algebra.Order.Ring.Rat

/-! # cJSON

The JSON reader and writer of the daemon.  Bodies and records are written with
`cJSON_PrintUnformatted` and read with `cJSON_Parse`, and the two are inverse to each other
on what the daemon writes.

The reader is lenient: it stops after the root value whatever follows, takes any byte up to the
space for white space, and keeps members of one name side by side.  And its strings are C
strings: an escaped zero becomes a zero byte, and nobody sees what comes after it.  `parseText`
keeps the decoded bytes; `cjsonParse` is the document as the daemon's code sees it, with every
name cut at its first zero byte.

The conversions between numbers and texts are the C library's.
-/
namespace Virp

open Decimal Numeral List UInt8

/-- The conversions of the C library that cJSON uses. -/
structure Libc where
  /-- `strtod`: the value, and how many bytes were used. -/
  strtod : Bytes → JsonNumber × Nat
  /-- `%1.15g` and `%1.17g`, by the precision. -/
  formatG : Nat → ℚ → Bytes

/-- What the C standard says of them about natural numbers. -/
structure Libc.Standard (L : Libc) : Prop where
  strtod_unsigned : ∀ n < 2 ^ 53, L.strtod (unsigned n) = (.finite n, (unsigned n).length)
  formatG_natCast : ∀ n : Nat, n < 10 ^ 15 → L.formatG 15 n = unsigned n

/-- The escapes of one letter. -/
def simpleEscape (e : UInt8) : Option UInt8 :=
  if e = 0x62 then some 0x08
  else if e = 0x66 then some 0x0C
  else if e = 0x6E then some 0x0A
  else if e = 0x72 then some 0x0D
  else if e = 0x74 then some 0x09
  else if e = 0x22 ∨ e = 0x5C ∨ e = 0x2F then some e
  else none

/-- `parse_hex4`: zero if one of the four is no digit. -/
def parseHex4 (a b c d : UInt8) : Nat :=
  match digitValue a, digitValue b, digitValue c, digitValue d with
  | some a, some b, some c, some d => ((a * 16 + b) * 16 + c) * 16 + d
  | _, _, _, _ => 0

/-- The end of `utf16_literal_to_utf8`: a code point in UTF-8. -/
def utf8OfCodepoint (cp : Nat) : Bytes :=
  let cont (k : Nat) : UInt8 := (0x80 + cp / 64 ^ k % 64).toUInt8
  if cp < 0x80 then [cp.toUInt8]
  else if cp < 0x800 then [(0xC0 + cp / 64).toUInt8, cont 0]
  else if cp < 0x10000 then [(0xE0 + cp / 64 ^ 2).toUInt8, cont 1, cont 0]
  else [(0xF0 + cp / 64 ^ 3).toUInt8, cont 2, cont 1, cont 0]

/-- The second loop of `parse_string`: the bytes between the quotes, decoded. -/
def unescape : Bytes → Option Bytes
  | [] => some []
  | c :: r =>
    if c ≠ 0x5C then (unescape r).map (c :: ·)
    else match r with
      | [] => none
      | e :: r =>
        if e ≠ 0x75 then
          match simpleEscape e with
          | some x => (unescape r).map (x :: ·)
          | none => none
        else match r with
          | h1 :: h2 :: h3 :: h4 :: r =>
            let first := parseHex4 h1 h2 h3 h4
            if 0xDC00 ≤ first ∧ first ≤ 0xDFFF then none
            else if 0xD800 ≤ first ∧ first ≤ 0xDBFF then
              match r with
              | b :: u :: l1 :: l2 :: l3 :: l4 :: r =>
                let second := parseHex4 l1 l2 l3 l4
                if b ≠ 0x5C ∨ u ≠ 0x75 ∨ second < 0xDC00 ∨ 0xDFFF < second then none
                else (unescape r).map
                  (utf8OfCodepoint (0x10000 + first % 1024 * 1024 + second % 1024) ++ ·)
              | _ => none
            else (unescape r).map (utf8OfCodepoint first ++ ·)
          | _ => none

/-- The first loop of `parse_string`: up to the closing quote, and what follows it.  A
backslash takes the byte after it along. -/
def splitString : Bytes → Option (Bytes × Bytes)
  | [] => none
  | c :: r =>
    if c = 0x22 then some ([], r)
    else if c = 0x5C then
      match r with
      | [] => none
      | e :: r => (splitString r).map fun p => (c :: e :: p.1, p.2)
    else (splitString r).map fun p => (c :: p.1, p.2)

def parseString (r : Bytes) : Option (Bytes × Bytes) :=
  match r with
  | [] => none
  | c :: r =>
    if c ≠ 0x22 then none
    else match splitString r with
      | none => none
      | some (raw, rest) => (unescape raw).map fun s => (s, rest)

/-- One byte of `print_string_ptr`. -/
def escapeByte (c : UInt8) : Bytes :=
  if 0x1F < c ∧ c ≠ 0x22 ∧ c ≠ 0x5C then [c]
  else if c = 0x5C then [0x5C, 0x5C]
  else if c = 0x22 then [0x5C, 0x22]
  else if c = 0x08 then [0x5C, 0x62]
  else if c = 0x0C then [0x5C, 0x66]
  else if c = 0x0A then [0x5C, 0x6E]
  else if c = 0x0D then [0x5C, 0x72]
  else if c = 0x09 then [0x5C, 0x74]
  else [0x5C, 0x75, 0x30, 0x30] ++ hexEncode [c]

/-- `print_string_ptr`. -/
def printString (s : Bytes) : Bytes := 0x22 :: (cstr s).flatMap escapeByte ++ [0x22]

/-- The bytes `parse_number` copies for `strtod`. -/
def isNumberByte (c : UInt8) : Bool :=
  (0x30 ≤ c && c ≤ 0x39) || c == 0x2B || c == 0x2D || c == 0x65 || c == 0x45 || c == 0x2E

def compareDouble (a b : ℚ) : Bool := |a - b| ≤ max |a| |b| / 2 ^ 52

section
variable (L : Libc)

/-- `parse_number`, out of a buffer of 64 bytes. -/
def parseNumber (r : Bytes) : Option (Json × Bytes) :=
  let read := L.strtod ((r.take 63).takeWhile isNumberByte)
  if read.2 = 0 then none else some (.number read.1, r.drop read.2)

/-- `print_number`: `%d` for what an `int` can hold, else as few digits as give the number
back. -/
def printNumber : JsonNumber → Bytes
  | .infinite _ => text "null"
  | .finite q =>
    if q.den = 1 ∧ -2 ^ 31 ≤ q.num ∧ q.num < 2 ^ 31 then signed q.num
    else
      let short := L.formatG 15 q
      match L.strtod short with
      | (.finite x, used) => if used ≠ 0 ∧ compareDouble x q then short else L.formatG 17 q
      | (.infinite _, _) => L.formatG 17 q

/-! ## Reading a value -/

/-- `buffer_skip_whitespace`; at the end of the buffer it steps back to the last byte. -/
def skipWhitespace (r : Bytes) : Bytes :=
  match r.dropWhile (· ≤ 0x20) with
  | [] => r.drop (r.length - 1)
  | c :: r => c :: r

/-- The loop of `parse_array` and `parse_object`, behind the opening bracket or a comma. -/
def parseList {α : Type} (item : Bytes → Option (α × Bytes)) (close : UInt8) :
    Nat → Bytes → Option (List α × Bytes)
  | 0, _ => none
  | fuel + 1, r =>
    match item r with
    | none => none
    | some (x, r) =>
      match skipWhitespace r with
      | [] => none
      | c :: r =>
        if c = 0x2C then (parseList item close fuel r).map fun p => (x :: p.1, p.2)
        else if c = close then some ([x], r)
        else none

/-- What is between two brackets, behind the opening one. -/
def parseEnclosed {α : Type} (item : Bytes → Option (α × Bytes)) (close : UInt8) (r : Bytes) :
    Option (List α × Bytes) :=
  match skipWhitespace r with
  | [] => none
  | c :: r =>
    if c = close then some ([], r) else parseList item close (c :: r).length (c :: r)

section
variable (value : Bytes → Option (Json × Bytes))

/-- An element of an array. -/
def parseElement (r : Bytes) : Option (Json × Bytes) := value (skipWhitespace r)

/-- A member of an object: its name, a colon, its value. -/
def parseMember (r : Bytes) : Option ((Bytes × Json) × Bytes) :=
  match parseString (skipWhitespace r) with
  | none => none
  | some (name, r) =>
    match skipWhitespace r with
    | [] => none
    | c :: r =>
      if c = 0x3A then (value (skipWhitespace r)).map fun p => ((name, p.1), p.2) else none

/-- `parse_array`, behind the bracket. -/
def parseArray (r : Bytes) : Option (Json × Bytes) :=
  (parseEnclosed (parseElement value) 0x5D r).map fun p => (.array p.1, p.2)

/-- `parse_object`, behind the brace. -/
def parseBraces (r : Bytes) : Option (Json × Bytes) :=
  (parseEnclosed (parseMember value) 0x7D r).map fun p => (.object p.1, p.2)

end

/-- `parse_value`, with the number of levels that may still be opened. -/
def parseValue (levels : Nat) (r : Bytes) : Option (Json × Bytes) :=
  if text "null" <+: r then some (.null, r.drop 4)
  else if text "false" <+: r then some (.bool false, r.drop 5)
  else if text "true" <+: r then some (.bool true, r.drop 4)
  else match r with
    | [] => none
    | c :: rest =>
      if c = 0x22 then (parseString r).map fun p => (.string p.1, p.2)
      else if c = 0x2D ∨ (0x30 ≤ c ∧ c ≤ 0x39) then parseNumber L r
      else if c = 0x5B then
        match levels with
        | 0 => none
        | levels + 1 => parseArray (parseValue levels) rest
      else if c = 0x7B then
        match levels with
        | 0 => none
        | levels + 1 => parseBraces (parseValue levels) rest
      else none

/-- `CJSON_NESTING_LIMIT`. -/
def nestingLimit : Nat := 1000

/-- `skip_utf8_bom`. -/
def skipBom (r : Bytes) : Bytes :=
  if 4 < r.length ∧ r.take 3 = [0xEF, 0xBB, 0xBF] then r.drop 3 else r

/-- `cJSON_Parse`: the root value of a C string, its terminator included in the buffer. -/
def parseText (body : Bytes) : Option Json :=
  (parseValue L nestingLimit (skipWhitespace (skipBom (cstr body ++ [0])))).map Prod.fst

end

mutual

/-- A document with its names as C strings. -/
def Json.cutNames : Json → Json
  | .array items => .array (cutItems items)
  | .object members => .object (cutMembers members)
  | .null => .null
  | .bool b => .bool b
  | .number n => .number n
  | .string s => .string s

/-- The elements of an array, with their names as C strings. -/
def cutItems : List Json → List Json
  | [] => []
  | v :: vs => v.cutNames :: cutItems vs

/-- The members of an object, with their names as C strings. -/
def cutMembers : List (Bytes × Json) → List (Bytes × Json)
  | [] => []
  | (name, v) :: ms => (cstr name, v.cutNames) :: cutMembers ms

end

/-- The document that the daemon's code sees in a text. -/
def cjsonParse (L : Libc) (body : Bytes) : Option Json := (parseText L body).map Json.cutNames

section
variable (L : Libc)

mutual

/-- `print_value`, unformatted. -/
def printValue : Json → Bytes
  | .null => text "null"
  | .bool b => if b then text "true" else text "false"
  | .number n => printNumber L n
  | .string s => printString s
  | .array items => 0x5B :: printItems items ++ [0x5D]
  | .object members => 0x7B :: printMembers members ++ [0x7D]

/-- The loop of `print_array`. -/
def printItems : List Json → Bytes
  | [] => []
  | v :: vs => printValue v ++ ((if vs.isEmpty then [] else [0x2C]) ++ printItems vs)

/-- The loop of `print_object`. -/
def printMembers : List (Bytes × Json) → Bytes
  | [] => []
  | (name, v) :: ms => printString name ++ 0x3A :: printValue v ++
      ((if ms.isEmpty then [] else [0x2C]) ++ printMembers ms)

end

end

/-! ## The loops end by themselves

Every turn of a loop uses up bytes, so the length of the text bounds the number of turns. -/

theorem length_skipWhitespace_le (r : Bytes) : (skipWhitespace r).length ≤ r.length := by
  unfold skipWhitespace
  split
  · simp
  · rename_i c t h
    rw [← h]
    exact (dropWhile_suffix _).length_le

variable {c : UInt8} {n : Nat}

theorem length_lt_of_skipWhitespace {t t' : Bytes} (h : skipWhitespace t = c :: t') :
    t'.length < t.length := by
  have := length_skipWhitespace_le t
  rw [h, length_cons] at this
  omega

/-! ## What is written is read back -/

/-- A byte of a string literal: itself, an escape of one letter, or a control byte in hex. -/
theorem escapeByte_cases (c : UInt8) : (escapeByte c = [c] ∧ c ≠ 0x22 ∧ c ≠ 0x5C) ∨
    (∃ e, escapeByte c = [0x5C, e] ∧ e ≠ 0x75 ∧ simpleEscape e = some c) ∨
    (escapeByte c = [0x5C, 0x75, 0x30, 0x30, hexDigit (c.toNat / 16), hexDigit (c.toNat % 16)] ∧
      c.toNat < 32) := by
  unfold escapeByte
  split
  · rename_i h
    exact .inl ⟨rfl, h.2.1, h.2.2⟩
  rename_i hplain
  by_cases h1 : c = 0x5C
  · subst h1; exact .inr (.inl ⟨0x5C, by decide, by decide, by decide⟩)
  by_cases h2 : c = 0x22
  · subst h2; exact .inr (.inl ⟨0x22, by decide, by decide, by decide⟩)
  by_cases h3 : c = 0x08
  · subst h3; exact .inr (.inl ⟨0x62, by decide, by decide, by decide⟩)
  by_cases h4 : c = 0x0C
  · subst h4; exact .inr (.inl ⟨0x66, by decide, by decide, by decide⟩)
  by_cases h5 : c = 0x0A
  · subst h5; exact .inr (.inl ⟨0x6E, by decide, by decide, by decide⟩)
  by_cases h6 : c = 0x0D
  · subst h6; exact .inr (.inl ⟨0x72, by decide, by decide, by decide⟩)
  by_cases h7 : c = 0x09
  · subst h7; exact .inr (.inl ⟨0x74, by decide, by decide, by decide⟩)
  refine .inr (.inr ⟨by simp [h1, h2, h3, h4, h5, h6, h7], ?_⟩)
  have hlow : ¬ 0x1F < c := fun h => hplain ⟨h, h2, h1⟩
  rw [lt_iff_toNat_lt] at hlow
  simp only [reduceToNat] at hlow
  omega

theorem digitValue_hexDigit (h : n < 16) : digitValue (hexDigit n) = some n := by
  have : ∀ k : Fin 16, digitValue (hexDigit k) = some (k : Nat) := by decide
  exact this ⟨n, h⟩

/-- A control byte is given back by its four digits. -/
theorem parseHex4_control (h : c.toNat < 32) :
    parseHex4 0x30 0x30 (hexDigit (c.toNat / 16)) (hexDigit (c.toNat % 16)) = c.toNat := by
  rw [parseHex4, digitValue_hexDigit (by omega), digitValue_hexDigit (by omega)]
  simp only [show digitValue 0x30 = some 0 by decide]
  omega

theorem utf8OfCodepoint_toNat (h : c.toNat < 32) : utf8OfCodepoint c.toNat = [c] := by
  rw [utf8OfCodepoint, if_pos (by omega)]
  simp

theorem unescape_cons_plain (h : c ≠ 0x5C) (r : Bytes) :
    unescape (c :: r) = (unescape r).map (c :: ·) := by
  rw [unescape.eq_def]
  exact if_pos h

theorem unescape_cons_escape {e x : UInt8} (hu : e ≠ 0x75) (hx : simpleEscape e = some x)
    (r : Bytes) : unescape (0x5C :: e :: r) = (unescape r).map (x :: ·) := by
  rw [unescape.eq_def]
  simp [hu, hx]

theorem unescape_cons_hex {h1 h2 h3 h4 : UInt8} (h : parseHex4 h1 h2 h3 h4 < 0xD800) (r : Bytes) :
    unescape (0x5C :: 0x75 :: h1 :: h2 :: h3 :: h4 :: r) =
      (unescape r).map (utf8OfCodepoint (parseHex4 h1 h2 h3 h4) ++ ·) := by
  rw [unescape.eq_def]
  simp only [ne_eq, not_true_eq_false, if_false]
  rw [if_neg (by omega), if_neg (by omega)]

theorem splitString_quote (r : Bytes) : splitString (0x22 :: r) = some ([], r) := by
  rw [splitString.eq_def]
  exact if_pos rfl

theorem splitString_cons_plain (hq : c ≠ 0x22) (hb : c ≠ 0x5C) (r : Bytes) :
    splitString (c :: r) = (splitString r).map fun p => (c :: p.1, p.2) := by
  rw [splitString.eq_def]
  simp only
  rw [if_neg hq, if_neg hb]

theorem splitString_cons_escape (e : UInt8) (r : Bytes) :
    splitString (0x5C :: e :: r) = (splitString r).map fun p => (0x5C :: e :: p.1, p.2) := by
  rw [splitString.eq_def]
  rfl

theorem unescape_escapeByte (c : UInt8) (r : Bytes) :
    unescape (escapeByte c ++ r) = (unescape r).map (c :: ·) := by
  rcases escapeByte_cases c with ⟨he, -, hb⟩ | ⟨e, he, hu, hs⟩ | ⟨he, hc⟩
  · rw [he]
    exact unescape_cons_plain hb r
  · rw [he]
    exact unescape_cons_escape hu hs r
  · have hhex := parseHex4_control hc
    rw [he]
    refine (unescape_cons_hex (by omega) r).trans ?_
    rw [hhex, utf8OfCodepoint_toNat hc]
    rfl

theorem splitString_escapeByte (c : UInt8) (r : Bytes) :
    splitString (escapeByte c ++ r) = (splitString r).map fun p => (escapeByte c ++ p.1, p.2) := by
  have plain : ∀ n, n < 16 → hexDigit n ≠ 0x22 ∧ hexDigit n ≠ 0x5C := by decide
  rcases escapeByte_cases c with ⟨he, hq, hb⟩ | ⟨e, he, -, -⟩ | ⟨he, hc⟩
  · rw [he]
    exact splitString_cons_plain hq hb r
  · rw [he]
    exact splitString_cons_escape e r
  obtain ⟨hq3, hb3⟩ := plain (c.toNat / 16) (by omega)
  obtain ⟨hq4, hb4⟩ := plain (c.toNat % 16) (by omega)
  rw [he]
  simp only [cons_append, nil_append]
  rw [splitString_cons_escape, splitString_cons_plain (by decide) (by decide),
    splitString_cons_plain (by decide) (by decide), splitString_cons_plain hq3 hb3,
    splitString_cons_plain hq4 hb4]
  simp only [Option.map_map]
  rfl

/-- **A string is read back**, if it is a C string. -/
theorem parseString_printString {s : Bytes} (h0 : 0 ∉ s) (rest : Bytes) :
    parseString (printString s ++ rest) = some (s, rest) := by
  have hsplit : splitString (s.flatMap escapeByte ++ 0x22 :: rest) =
      some (s.flatMap escapeByte, rest) := by
    clear h0
    induction s with
    | nil => exact splitString_quote rest
    | cons c s ih =>
      rw [flatMap_cons, append_assoc, splitString_escapeByte, ih]
      rfl
  have hread : unescape (s.flatMap escapeByte) = some s := by
    clear h0 hsplit
    induction s with
    | nil => rfl
    | cons c s ih =>
      rw [flatMap_cons, unescape_escapeByte, ih]
      rfl
  rw [printString, cstr_eq_self h0, cons_append, cons_append, append_assoc,
    singleton_append, parseString, if_neg (by decide), hsplit]
  simp [hread]

section
variable (L : Libc)

/-- A number the C library gives back from what it is printed as. -/
structure NumberPrintable (n : JsonNumber) : Prop where
  bytes : ∀ c ∈ printNumber L n, isNumberByte c = true
  length_le : (printNumber L n).length ≤ 63
  head : ∃ c t, printNumber L n = c :: t ∧ (c = 0x2D ∨ (0x30 ≤ c ∧ c ≤ 0x39))
  read : L.strtod (printNumber L n) = (n, (printNumber L n).length)

/-- The documents that are written as they are, with the number of levels they open. -/
inductive Printable : Nat → Json → Prop where
  | null {n : Nat} : Printable n .null
  | bool {n : Nat} (b : Bool) : Printable n (.bool b)
  | number {n : Nat} {x : JsonNumber} : NumberPrintable L x → Printable n (.number x)
  | string {n : Nat} {s : Bytes} : (0 : UInt8) ∉ s → Printable n (.string s)
  | array {n : Nat} {items : List Json} : (∀ v ∈ items, Printable n v) →
      Printable (n + 1) (.array items)
  | object {n : Nat} {members : List (Bytes × Json)} : (∀ m ∈ members, (0 : UInt8) ∉ m.1) →
      (∀ m ∈ members, Printable n m.2) → Printable (n + 1) (.object members)

variable {L}

theorem skipWhitespace_cons (h : 0x20 < c) (r : Bytes) : skipWhitespace (c :: r) = c :: r := by
  rw [skipWhitespace, dropWhile_cons_of_neg]
  simpa using h

/-- What follows a value does not run on from a number. -/
def EndsNumber (rest : Bytes) : Prop := ∀ c ∈ rest.head?, isNumberByte c = false

theorem parseNumber_printNumber {x : JsonNumber} (h : NumberPrintable L x) {rest : Bytes}
    (hrest : EndsNumber rest) :
    parseNumber L (printNumber L x ++ rest) = some (.number x, rest) := by
  have htake : ((printNumber L x ++ rest).take 63).takeWhile isNumberByte = printNumber L x := by
    rw [take_append, take_of_length_le h.length_le, takeWhile_append_of_pos h.bytes]
    have hstop : (rest.take (63 - (printNumber L x).length)).takeWhile isNumberByte = [] := by
      cases rest with
      | nil => simp
      | cons c rest =>
        cases 63 - (printNumber L x).length with
        | zero => simp
        | succ k => simp [hrest c rfl]
    rw [hstop, append_nil]
  obtain ⟨c, t, hc, -⟩ := h.head
  rw [parseNumber, htake, h.read]
  rw [if_neg (by simp [hc]), drop_left]

/-- A value starts with a byte that is neither white space nor a closing bracket. -/
theorem Printable.head {v : Json} (h : Printable L n v) :
    ∃ c t, printValue L v = c :: t ∧ 0x20 < c ∧ c ≠ 0x5D ∧ c ≠ 0x7D ∧ c < 0x80 := by
  cases h with
  | null => exact ⟨0x6E, _, by rw [printValue]; rfl, by decide, by decide, by decide, by decide⟩
  | bool b =>
    cases b
    · exact ⟨0x66, _, by rw [printValue]; rfl, by decide, by decide, by decide, by decide⟩
    · exact ⟨0x74, _, by rw [printValue]; rfl, by decide, by decide, by decide, by decide⟩
  | number hx =>
    obtain ⟨c, t, hc, hrange⟩ := hx.head
    refine ⟨c, t, by rw [printValue, hc], ?_⟩
    rcases hrange with rfl | ⟨hlo, hhi⟩
    · exact ⟨by decide, by decide, by decide, by decide⟩
    · simp only [UInt8.le_iff_toNat_le, UInt8.lt_iff_toNat_lt, ne_eq, ← UInt8.toNat_inj,
        UInt8.reduceToNat] at hlo hhi ⊢
      omega
  | string _ =>
    exact ⟨0x22, _, by rw [printValue, printString]; rfl, by decide, by decide, by decide,
      by decide⟩
  | array _ => exact ⟨0x5B, _, by rw [printValue]; rfl, by decide, by decide, by decide, by decide⟩
  | object _ _ =>
    exact ⟨0x7B, _, by rw [printValue]; rfl, by decide, by decide, by decide, by decide⟩

theorem Printable.skipWhitespace {v : Json} (h : Printable L n v) (rest : Bytes) :
    skipWhitespace (printValue L v ++ rest) = printValue L v ++ rest := by
  obtain ⟨c, t, hc, hlow, -⟩ := h.head
  rw [hc, cons_append, skipWhitespace_cons hlow]

/-- A comma-separated list. -/
def printList {α : Type} (print : α → Bytes) : List α → Bytes
  | [] => []
  | x :: xs => print x ++ ((if xs.isEmpty then [] else [0x2C]) ++ printList print xs)

/-- A member as `print_object` writes it. -/
def printMember (L : Libc) (m : Bytes × Json) : Bytes :=
  printString m.1 ++ 0x3A :: printValue L m.2

theorem printItems_eq (items : List Json) :
    printItems L items = printList (printValue L) items := by
  induction items with
  | nil => rfl
  | cons v vs ih => rw [printItems, printList, ih]

theorem printMembers_eq (members : List (Bytes × Json)) :
    printMembers L members = printList (printMember L) members := by
  induction members with
  | nil => rfl
  | cons m ms ih => rw [printMembers, printList, ih]; rfl

/-- A reader gives back what is printed. -/
def Reads {α : Type} (item : Bytes → Option (α × Bytes)) (print : α → Bytes) (x : α) : Prop :=
  ∀ rest, EndsNumber rest → item (print x ++ rest) = some (x, rest)

/-- The items of a list are read back, if each of them is. -/
theorem parseList_printList {α : Type} {item : Bytes → Option (α × Bytes)} {print : α → Bytes}
    {close : UInt8} (hclose : 0x20 < close ∧ close ≠ 0x2C ∧ isNumberByte close = false)
    {x : α} {xs : List α} (hread : ∀ y ∈ x :: xs, Reads item print y) {fuel : Nat}
    (hfuel : (x :: xs).length ≤ fuel) (rest : Bytes) :
    parseList item close fuel (printList print (x :: xs) ++ close :: rest) =
      some (x :: xs, rest) := by
  induction xs generalizing x fuel with
  | nil =>
    obtain ⟨fuel, rfl⟩ : ∃ k, fuel = k + 1 := ⟨fuel - 1, by simp at hfuel; omega⟩
    have hx := hread x mem_cons_self (close :: rest) (by simpa [EndsNumber] using hclose.2.2)
    rw [printList, printList, append_assoc]
    simp only [isEmpty_nil, if_true, nil_append]
    rw [parseList, hx]
    simp only [skipWhitespace_cons hclose.1]
    rw [if_neg hclose.2.1, if_pos trivial]
  | cons y xs ih =>
    obtain ⟨fuel, rfl⟩ : ∃ k, fuel = k + 1 := ⟨fuel - 1, by simp at hfuel; omega⟩
    have hx := hread x mem_cons_self
      (0x2C :: (printList print (y :: xs) ++ close :: rest)) (by simp [EndsNumber]; decide)
    have htail := ih (fun z hz => hread z (mem_cons_of_mem x hz))
      (show (y :: xs).length ≤ fuel by simp at hfuel ⊢; omega)
    rw [printList, append_assoc, append_assoc]
    simp only [isEmpty_cons, Bool.false_eq_true, if_false, singleton_append]
    rw [parseList, hx]
    simp only [skipWhitespace_cons (show (0x20 : UInt8) < 0x2C by decide)]
    rw [if_pos trivial, htail]
    rfl

theorem length_le_printList {α : Type} {print : α → Bytes} {xs : List α}
    (h : ∀ x ∈ xs, print x ≠ []) : xs.length ≤ (printList print xs).length := by
  induction xs with
  | nil => simp
  | cons x xs ih =>
    have hx := length_pos_iff.mpr (h x mem_cons_self)
    have := ih fun y hy => h y (mem_cons_of_mem x hy)
    simp only [printList, length_append, length_cons]
    omega

/-- A list is read back from between its brackets. -/
theorem parseEnclosed_printList {α : Type} {item : Bytes → Option (α × Bytes)} {print : α → Bytes}
    {close : UInt8} (hclose : 0x20 < close ∧ close ≠ 0x2C ∧ isNumberByte close = false)
    {xs : List α} (hread : ∀ y ∈ xs, Reads item print y)
    (hhead : ∀ y ∈ xs, ∃ c t, print y = c :: t ∧ 0x20 < c ∧ c ≠ close) (rest : Bytes) :
    parseEnclosed item close (printList print xs ++ close :: rest) = some (xs, rest) := by
  cases xs with
  | nil =>
    rw [printList, nil_append, parseEnclosed, skipWhitespace_cons hclose.1]
    exact if_pos rfl
  | cons x xs =>
    obtain ⟨c, t, hc, hlow, hne⟩ := hhead x mem_cons_self
    obtain ⟨t', ht'⟩ : ∃ t', printList print (x :: xs) = c :: t' :=
      ⟨_, by rw [printList, hc, cons_append]⟩
    have hlen : (x :: xs).length ≤ (printList print (x :: xs)).length := by
      refine length_le_printList ?_
      intro y hy
      obtain ⟨d, u, hd, -⟩ := hhead y hy
      simp [hd]
    have hlist := parseList_printList hclose hread
      (show (x :: xs).length ≤ (printList print (x :: xs) ++ close :: rest).length by
        rw [length_append]; omega) rest
    rw [ht', cons_append] at hlist ⊢
    rw [parseEnclosed, skipWhitespace_cons hlow]
    exact (if_neg hne).trans hlist

theorem reads_parseElement {value : Bytes → Option (Json × Bytes)} {v : Json} (hp : Printable L n v)
    (h : Reads value (printValue L) v) : Reads (parseElement value) (printValue L) v := by
  intro rest hrest
  rw [parseElement, hp.skipWhitespace, h rest hrest]

theorem reads_parseMember {value : Bytes → Option (Json × Bytes)} {m : Bytes × Json}
    (h0 : 0 ∉ m.1) (hp : Printable L n m.2) (h : Reads value (printValue L) m.2) :
    Reads (parseMember value) (printMember L) m := by
  intro rest hrest
  have hskip : skipWhitespace (printString m.1 ++ 0x3A :: (printValue L m.2 ++ rest)) =
      printString m.1 ++ 0x3A :: (printValue L m.2 ++ rest) := skipWhitespace_cons (by decide) _
  rw [printMember, append_assoc, cons_append, parseMember, hskip, parseString_printString h0]
  simp only [skipWhitespace_cons (show (0x20 : UInt8) < 0x3A by decide), hp.skipWhitespace,
    h rest hrest]
  rfl

/-- A value that is no literal is told by its first byte. -/
theorem parseValue_cons (h : c ≠ 0x6E ∧ c ≠ 0x66 ∧ c ≠ 0x74) (levels : Nat) (rest : Bytes) :
    parseValue L levels (c :: rest) =
      if c = 0x22 then (parseString (c :: rest)).map fun p => (.string p.1, p.2)
      else if c = 0x2D ∨ (0x30 ≤ c ∧ c ≤ 0x39) then parseNumber L (c :: rest)
      else if c = 0x5B then
        match levels with
        | 0 => none
        | levels + 1 => parseArray (parseValue L levels) rest
      else if c = 0x7B then
        match levels with
        | 0 => none
        | levels + 1 => parseBraces (parseValue L levels) rest
      else none := by
  have hnull : ¬ text "null" <+: c :: rest := fun hp =>
    h.1 (cons_prefix_cons.mp (show 0x6E :: text "ull" <+: c :: rest from hp)).1.symm
  have hfalse : ¬ text "false" <+: c :: rest := fun hp =>
    h.2.1 (cons_prefix_cons.mp (show 0x66 :: text "alse" <+: c :: rest from hp)).1.symm
  have htrue : ¬ text "true" <+: c :: rest := fun hp =>
    h.2.2 (cons_prefix_cons.mp (show 0x74 :: text "rue" <+: c :: rest from hp)).1.symm
  rw [parseValue.eq_def, if_neg hnull, if_neg hfalse, if_neg htrue]

/-- **What is written is read back**, in front of anything that does not run on from a
number. -/
theorem parseValue_printValue {v : Json} (h : Printable L n v) {rest : Bytes}
    (hrest : EndsNumber rest) : parseValue L n (printValue L v ++ rest) = some (v, rest) := by
  induction h generalizing rest with
  | null =>
    rw [printValue, parseValue.eq_def]
    exact if_pos (prefix_append _ _)
  | bool b =>
    rw [printValue, parseValue.eq_def]
    cases b
    · simp only [Bool.false_eq_true, if_false]
      rw [if_neg (show ¬ text "null" <+: text "false" ++ rest from fun hp =>
        absurd (cons_prefix_cons.mp hp).1 (by decide))]
      exact if_pos (prefix_append _ _)
    · simp only [if_true]
      rw [if_neg (show ¬ text "null" <+: text "true" ++ rest from fun hp =>
        absurd (cons_prefix_cons.mp hp).1 (by decide)),
        if_neg (show ¬ text "false" <+: text "true" ++ rest from fun hp =>
        absurd (cons_prefix_cons.mp hp).1 (by decide))]
      exact if_pos (prefix_append _ _)
  | number hx =>
    obtain ⟨c, t, hc, hrange⟩ := hx.head
    have hread := parseNumber_printNumber hx hrest
    have hbyte : c ≠ 0x22 ∧ c ≠ 0x6E ∧ c ≠ 0x66 ∧ c ≠ 0x74 := by
      simp only [UInt8.le_iff_toNat_le, ne_eq, ← UInt8.toNat_inj, UInt8.reduceToNat] at hrange ⊢
      omega
    rw [printValue]
    rw [hc, cons_append] at hread ⊢
    rw [parseValue_cons hbyte.2, if_neg hbyte.1, if_pos hrange, hread]
  | string h0 =>
    have hread := parseString_printString h0 rest
    rw [printValue]
    rw [printString, cons_append, cons_append] at hread ⊢
    rw [parseValue_cons (by decide), if_pos rfl, hread]
    rfl
  | @array n items hp ih =>
    have hlist := parseEnclosed_printList
      (show (0x20 : UInt8) < 0x5D ∧ (0x5D : UInt8) ≠ 0x2C ∧ isNumberByte 0x5D = false by decide)
      (fun v hv => reads_parseElement (hp v hv) fun rest hrest => ih v hv hrest)
      (fun v hv => by
        obtain ⟨c, t, hc, hlow, hne, -⟩ := (hp v hv).head
        exact ⟨c, t, hc, hlow, hne⟩) rest
    rw [printValue, cons_append, cons_append, append_assoc, singleton_append,
      parseValue_cons (by decide), if_neg (by decide), if_neg (by decide), if_pos rfl,
      printItems_eq]
    simp only [parseArray, hlist]
    rfl
  | @object n members h0 hp ih =>
    have hlist := parseEnclosed_printList
      (show (0x20 : UInt8) < 0x7D ∧ (0x7D : UInt8) ≠ 0x2C ∧ isNumberByte 0x7D = false by decide)
      (fun m hm => reads_parseMember (h0 m hm) (hp m hm) fun rest hrest => ih m hm hrest)
      (fun m hm => ⟨0x22, _, by rw [printMember, printString, cons_append, cons_append],
        by decide, by decide⟩) rest
    rw [printValue, cons_append, cons_append, append_assoc, singleton_append,
      parseValue_cons (by decide), if_neg (by decide), if_neg (by decide), if_neg (by decide),
      if_pos rfl, printMembers_eq]
    simp only [parseBraces, hlist]
    rfl

end

/-! ## The whole text -/

section
variable {L : Libc}

/-- A byte from the space on. -/
def Visible (c : UInt8) : Prop := 0x20 ≤ c

theorem visible_of_isNumberByte (h : isNumberByte c = true) : Visible c := by
  simp only [Visible, isNumberByte, Bool.or_eq_true, Bool.and_eq_true, decide_eq_true_eq,
    beq_iff_eq, UInt8.le_iff_toNat_le, ← UInt8.toNat_inj, UInt8.reduceToNat] at h ⊢
  omega

theorem visible_of_mem_printString {s : Bytes} {b : UInt8} (h : b ∈ printString s) : Visible b := by
  have table : ∀ n < 256, (escapeByte (UInt8.ofNat n)).all (0x20 ≤ ·) = true := by
    decide +kernel
  simp only [printString, mem_append, mem_cons, mem_flatMap, not_mem_nil, or_false] at h
  rcases h with (rfl | ⟨c, -, hb⟩) | rfl
  · exact show (0x20 : UInt8) ≤ 0x22 by decide
  · have hc := table c.toNat c.toNat_lt
    simp only [UInt8.ofNat_toNat, all_eq_true, decide_eq_true_eq] at hc
    exact hc b hb
  · exact show (0x20 : UInt8) ≤ 0x22 by decide

theorem visible_of_mem_printItems {items : List Json}
    (h : ∀ v ∈ items, ∀ c ∈ printValue L v, Visible c) : ∀ c ∈ printItems L items, Visible c := by
  induction items with
  | nil => simp [printItems]
  | cons v vs ih =>
    intro c hc
    simp only [printItems, mem_append] at hc
    rcases hc with hc | hc | hc
    · exact h v mem_cons_self c hc
    · split at hc
      · cases hc
      rw [mem_singleton.mp hc]
      exact show (0x20 : UInt8) ≤ 0x2C by decide
    · exact ih (fun w hw => h w (mem_cons_of_mem v hw)) c hc

theorem visible_of_mem_printMembers {members : List (Bytes × Json)}
    (h : ∀ m ∈ members, ∀ c ∈ printValue L m.2, Visible c) :
    ∀ c ∈ printMembers L members, Visible c := by
  induction members with
  | nil => simp [printMembers]
  | cons m ms ih =>
    obtain ⟨name, v⟩ := m
    intro c hc
    simp only [printMembers, mem_append, mem_cons] at hc
    rcases hc with (hc | rfl | hc) | hc | hc
    · exact visible_of_mem_printString hc
    · exact show (0x20 : UInt8) ≤ 0x3A by decide
    · exact h (name, v) mem_cons_self c hc
    · split at hc
      · cases hc
      rw [mem_singleton.mp hc]
      exact show (0x20 : UInt8) ≤ 0x2C by decide
    · exact ih (fun k hk => h k (mem_cons_of_mem _ hk)) c hc

/-- **A printed text holds no control byte**, so neither a zero nor a line feed. -/
theorem Printable.visible {v : Json} (h : Printable L n v) : ∀ c ∈ printValue L v, Visible c := by
  have bracket : ∀ {b b' : UInt8} {t : Bytes}, Visible b → Visible b' → (∀ c ∈ t, Visible c) →
      ∀ c ∈ b :: t ++ [b'], Visible c := by
    intro b b' t hb hb' ht c hc
    simp only [mem_append, mem_cons, not_mem_nil, or_false] at hc
    rcases hc with (rfl | hc) | rfl
    · exact hb
    · exact ht c hc
    · exact hb'
  have close : Visible 0x5B ∧ Visible 0x5D ∧ Visible 0x7B ∧ Visible 0x7D :=
    ⟨show (0x20 : UInt8) ≤ 0x5B by decide, show (0x20 : UInt8) ≤ 0x5D by decide,
      show (0x20 : UInt8) ≤ 0x7B by decide, show (0x20 : UInt8) ≤ 0x7D by decide⟩
  induction h with rw [printValue]
  | null => exact show ∀ c ∈ text "null", (0x20 : UInt8) ≤ c by decide +kernel
  | bool b =>
    cases b
    · exact show ∀ c ∈ text "false", (0x20 : UInt8) ≤ c by decide +kernel
    · exact show ∀ c ∈ text "true", (0x20 : UInt8) ≤ c by decide +kernel
  | number hx => exact fun c hc => visible_of_isNumberByte (hx.bytes c hc)
  | string _ => exact fun c hc => visible_of_mem_printString hc
  | array _ ih => exact bracket close.1 close.2.1 (visible_of_mem_printItems ih)
  | object _ _ ih => exact bracket close.2.2.1 close.2.2.2 (visible_of_mem_printMembers ih)

theorem cutItems_eq_self {items : List Json} (h : ∀ v ∈ items, v.cutNames = v) :
    cutItems items = items := by
  induction items with
  | nil => rw [cutItems]
  | cons v vs ih =>
    rw [cutItems, h v mem_cons_self, ih fun w hw => h w (mem_cons_of_mem v hw)]

theorem cutMembers_eq_map (members : List (Bytes × Json)) :
    cutMembers members = members.map fun m => (cstr m.1, m.2.cutNames) := by
  induction members with
  | nil => rfl
  | cons m ms ih =>
    obtain ⟨name, v⟩ := m
    rw [cutMembers, ih]
    rfl

theorem cutMembers_eq_self {members : List (Bytes × Json)} (h0 : ∀ m ∈ members, 0 ∉ m.1)
    (h : ∀ m ∈ members, m.2.cutNames = m.2) : cutMembers members = members := by
  rw [cutMembers_eq_map]
  refine (map_congr_left fun m hm => ?_).trans (map_id members)
  rw [cstr_eq_self (h0 m hm), h m hm]
  rfl

theorem Printable.cutNames_eq {v : Json} (h : Printable L n v) : v.cutNames = v := by
  induction h with
  | array _ ih => rw [Json.cutNames, cutItems_eq_self ih]
  | object h0 _ ih => rw [Json.cutNames, cutMembers_eq_self h0 ih]
  | _ => rw [Json.cutNames]

/-- The parser reads a printed document up to the terminator of its text. -/
theorem parseValue_text {v : Json} (h : Printable L nestingLimit v) :
    parseValue L nestingLimit (skipWhitespace (skipBom (cstr (printValue L v) ++ [0]))) =
      some (v, [0]) := by
  have h0 : 0 ∉ printValue L v := fun hz =>
    absurd (h.visible 0 hz) (show ¬ (0x20 : UInt8) ≤ 0 by decide)
  have hbom : skipBom (printValue L v ++ [0]) = printValue L v ++ [0] := by
    obtain ⟨c, t, hc, -, -, -, hhigh⟩ := h.head
    refine if_neg fun hb => ?_
    rw [hc] at hb
    exact absurd (cons.inj hb.2).1 (by rintro rfl; exact absurd hhigh (by decide))
  rw [cstr_eq_self h0, hbom, h.skipWhitespace]
  exact parseValue_printValue h (by simp [EndsNumber]; decide)

/-- **What the daemon writes, it reads back.** -/
theorem parseText_printValue {v : Json} (h : Printable L nestingLimit v) :
    parseText L (printValue L v) = some v := by
  rw [parseText, parseValue_text h]
  rfl

theorem cjsonParse_printValue {v : Json} (h : Printable L nestingLimit v) :
    cjsonParse L (printValue L v) = some v := by
  rw [cjsonParse, parseText_printValue h]
  exact congrArg some h.cutNames_eq

/-- A natural number is printed with all its digits, by one conversion or the other. -/
theorem printNumber_natCast (hL : L.Standard) (hn : n < 10 ^ 15) :
    printNumber L (.finite n) = unsigned n := by
  rw [printNumber]
  split
  · rw [Rat.num_natCast, signed, if_neg (by omega), Int.natAbs_natCast]
  have hread := hL.strtod_unsigned n (by omega)
  have hshort := hL.formatG_natCast n hn
  have hlen := length_unsigned_pos n
  have hsame : compareDouble n n = true := by
    simp only [compareDouble, sub_self, abs_zero, max_self, decide_eq_true_eq]
    exact div_nonneg (abs_nonneg _) (pow_nonneg (by decide) 52)
  simp only [hshort, hread]
  rw [if_pos ⟨by omega, hsame⟩]

/-- **Every natural number of fifteen digits is printable.** -/
theorem numberPrintable_natCast (hL : L.Standard) (hn : n < 10 ^ 15) :
    NumberPrintable L (.finite n) := by
  have hprint := printNumber_natCast hL hn
  constructor
  · rw [hprint]
    intro c hc
    have hd := mem_unsigned hc
    simp only [isNumberByte, Bool.or_eq_true, Bool.and_eq_true, decide_eq_true_eq,
      le_iff_toNat_le, reduceToNat]
    exact .inl (.inl (.inl (.inl (.inl hd))))
  · rw [hprint]
    exact le_trans (length_unsigned_le (k := 15) (by omega) hn) (by omega)
  · have hlen := length_unsigned_pos n
    rw [hprint]
    cases hu : unsigned n with
    | nil => simp [hu] at hlen
    | cons c t =>
      have hd := mem_unsigned (show c ∈ unsigned n by simp [hu])
      refine ⟨c, t, rfl, .inr ?_⟩
      simp only [le_iff_toNat_le, reduceToNat]
      exact hd
  · rw [hprint]
    exact hL.strtod_unsigned n (by omega)

end

end Virp
