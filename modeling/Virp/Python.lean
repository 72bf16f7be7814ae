import Virp.Bytes
import Mathlib.Data.Char
import Mathlib.Data.List.Lex
import Mathlib.Data.List.Sort

/-! # Python values

The texts of the repository's Python programs, and the values their JSON files hold.
-/
namespace Virp

/-- A Python `str`. -/
abbrev PyStr := List Char

/-- Found by its name where a definition looks for a text in a list. -/
instance lawfulBEqPyStr : LawfulBEq (List Char) := inferInstance

/-- What Python knows about characters: `str.isspace`, `\d` and `str.lower`. -/
structure PyText where
  isSpace : Char → Bool
  isDecimal : Char → Bool
  lower : PyStr → PyStr

variable (U : PyText)

/-- `s.strip()`. -/
def PyText.strip (s : PyStr) : PyStr :=
  ((s.dropWhile U.isSpace).reverse.dropWhile U.isSpace).reverse

/-- `s.split()`. -/
def PyText.split (s : PyStr) : List PyStr := (s.splitOnP U.isSpace).filter (· ≠ [])

/-- `" ".join(tokens)`. -/
def joinWords (tokens : List PyStr) : PyStr := [' '].intercalate tokens

/-- `[0-9a-f]`. -/
def isHexChar (c : Char) : Bool := c.isDigit || ('a' ≤ c && c ≤ 'f')

/-- `re.fullmatch('[0-9a-f]{n}', s)`. -/
def isHexOf (n : Nat) (s : PyStr) : Bool := s.length == n && s.all isHexChar

/-- `"%d" % n`. -/
def decimalStr (n : Nat) : PyStr := Nat.toDigits 10 n

/-- `"%d" % i`. -/
def intStr : Int → PyStr
  | .ofNat n => decimalStr n
  | .negSucc n => '-' :: decimalStr (n + 1)

/-- `data.hex()`. -/
def hexStr (data : Bytes) : PyStr := (hexEncode data).map fun b => Char.ofNat b.toNat

/-- `sorted(names)`. -/
def sortedStrs (names : List PyStr) : List PyStr := names.insertionSort (· ≤ ·)

/-! ## Values of JSON documents -/

/-- A value that `json.loads` returns.  A float is a rational, or an infinity or NaN. -/
inductive PyValue where
  | none
  | bool (b : Bool)
  | int (i : Int)
  | float (value : Option Rat)
  | str (s : PyStr)
  | list (items : List PyValue)
  | dict (items : List (PyStr × PyValue))

namespace PyValue

/-- `v.get(key)`, for a `dict`. -/
def get (v : PyValue) (key : PyStr) : Option PyValue :=
  match v with
  | .dict items => (items.find? (·.1 == key)).map (·.2)
  | _ => Option.none

/-- `v == s`, for a `str` `s`. -/
def isStr (v : PyValue) (s : PyStr) : Bool :=
  match v with
  | .str t => t == s
  | _ => false

/-- `v == i`, for an `int` `i`: a `bool` and a `float` may equal one. -/
def isInt (v : PyValue) (i : Int) : Bool :=
  match v with
  | .int j => j == i
  | .bool b => (if b then 1 else 0) == i
  | .float (some q) => q == i
  | _ => false

/-- `isinstance(v, int) and not isinstance(v, bool)`. -/
def asInt : PyValue → Option Int
  | .int i => some i
  | _ => Option.none

/-- `isinstance(v, str)`. -/
def asStr : PyValue → Option PyStr
  | .str s => some s
  | _ => Option.none

/-- `set(v) == set(fields)`, for a `dict`. -/
def hasFields (v : PyValue) (fields : List PyStr) : Bool :=
  match v with
  | .dict items => items.all (fields.contains ·.1) && fields.all ((items.map (·.1)).contains ·)
  | _ => false

end PyValue

/-! ## The `json` module -/

mutual

/-- The value with the members of every `dict` in the order of their keys: what `json.loads`
returns of a text that was written with `sort_keys`. -/
def PyValue.sortKeys : PyValue → PyValue
  | .list items => .list (sortItems items)
  | .dict items => .dict ((sortMembers items).insertionSort fun a b => a.1 ≤ b.1)
  | .none => .none
  | .bool b => .bool b
  | .int i => .int i
  | .float x => .float x
  | .str s => .str s

def sortItems : List PyValue → List PyValue
  | [] => []
  | v :: items => v.sortKeys :: sortItems items

def sortMembers : List (PyStr × PyValue) → List (PyStr × PyValue)
  | [] => []
  | (key, v) :: items => (key, v.sortKeys) :: sortMembers items

end

/-- `\uXXXX`. -/
def unicodeEscape (n : Nat) : PyStr :=
  ['\\', 'u', Nat.digitChar (n / 4096 % 16), Nat.digitChar (n / 256 % 16),
    Nat.digitChar (n / 16 % 16), Nat.digitChar (n % 16)]

/-- A character inside a string literal, with `ensure_ascii`. -/
def escapeChar (c : Char) : PyStr :=
  if c = '"' then ['\\', '"']
  else if c = '\\' then ['\\', '\\']
  else if c = '\n' then ['\\', 'n']
  else if c = '\r' then ['\\', 'r']
  else if c = '\t' then ['\\', 't']
  else if c.toNat = 8 then ['\\', 'b']
  else if c.toNat = 12 then ['\\', 'f']
  else if 32 ≤ c.toNat ∧ c.toNat < 127 then [c]
  else if c.toNat < 0x10000 then unicodeEscape c.toNat
  else
    -- a surrogate pair
    let n := c.toNat - 0x10000
    unicodeEscape (0xD800 + n / 0x400) ++ unicodeEscape (0xDC00 + n % 0x400)

/-- A string literal. -/
def quoteStr (s : PyStr) : PyStr := '"' :: s.flatMap escapeChar ++ ['"']

section
variable (float : Option Rat → PyStr) (comma colon : PyStr)

mutual

/-- The text of a value, its members in the order they stand. -/
def PyValue.text : PyValue → PyStr
  | .none => "null".toList
  | .bool b => (if b then "true" else "false").toList
  | .int i => intStr i
  | .float x => float x
  | .str s => quoteStr s
  | .list items => '[' :: itemsText true items
  | .dict items => Char.ofNat 123 :: membersText true items

/-- The rest of a list, from its first item or from the separator before the next one. -/
def itemsText : Bool → List PyValue → PyStr
  | _, [] => [']']
  | first, v :: items => (if first then [] else comma) ++ v.text ++ itemsText false items

def membersText : Bool → List (PyStr × PyValue) → PyStr
  | _, [] => [Char.ofNat 125]
  | first, (key, v) :: items =>
    (if first then [] else comma) ++ quoteStr key ++ colon ++ v.text ++ membersText false items

end

end

/-- What the programs take from Python: how a float is written, `json.loads` of a text (`none` for
a `ValueError`), `int(s)` of a `str` (`none` for a `ValueError`), and `repr`. -/
structure PyJson where
  float : Option Rat → PyStr
  loads : PyStr → Option PyValue
  intOf : PyStr → Option Int
  repr : PyValue → PyStr

namespace PyJson
variable (J : PyJson)

/-- `json.dumps(v, sort_keys=True)`. -/
def dumps (v : PyValue) : PyStr := v.sortKeys.text J.float ", ".toList ": ".toList

/-- `canonical_bytes`. -/
def canonicalBytes (v : PyValue) : Bytes :=
  (v.sortKeys.text J.float [','] [':']).map fun c => c.toNat.toUInt8

/-- `int(v)`; `none` where it raises. -/
def toInt : PyValue → Option Int
  | .int i => some i
  | .bool b => some (if b then 1 else 0)
  | .float (some q) => some (q.num.tdiv q.den)
  | .str s => J.intOf s
  | _ => none

/-- `json.loads` of ASCII bytes. -/
def loadsBytes (b : Bytes) : Option PyValue := J.loads (b.map fun c => Char.ofNat c.toNat)

end PyJson

/-! ### A text is one line -/

/-- The ends of lines of a text file. -/
def isNewline (c : Char) : Bool := c == '\n' || c == '\r'

/-- The text has no end of a line. -/
def OneLine (s : PyStr) : Prop := ∀ c ∈ s, isNewline c = false

theorem OneLine.append {s t : PyStr} (hs : OneLine s) (ht : OneLine t) : OneLine (s ++ t) :=
  fun c hc => (List.mem_append.mp hc).elim (hs c) (ht c)

theorem OneLine.cons {c : Char} {s : PyStr} (hc : isNewline c = false) (hs : OneLine s) :
    OneLine (c :: s) := fun d hd => by
  rcases List.mem_cons.mp hd with rfl | hd
  · exact hc
  · exact hs d hd

theorem oneLine_of_all {s : PyStr} (h : s.all (fun c => !isNewline c) = true) : OneLine s :=
  fun c hc => by simpa using List.all_eq_true.mp h c hc

theorem oneLine_of_alphanum {s : PyStr} (h : ∀ c ∈ s, c.isAlphanum = true) : OneLine s := by
  intro c hc
  have hc := h c hc
  simp only [isNewline, Bool.or_eq_false_iff, beq_eq_false_iff_ne]
  constructor <;> rintro rfl <;> exact absurd hc (by decide)

theorem oneLine_unicodeEscape (n : Nat) : OneLine (unicodeEscape n) := by
  have hdigit : ∀ m, isNewline (Nat.digitChar (m % 16)) = false := by
    have hall : ∀ k < 16, isNewline (Nat.digitChar k) = false := by decide
    exact fun m => hall _ (Nat.mod_lt _ (by decide))
  exact .cons (by decide) (.cons (by decide) (.cons (hdigit _) (.cons (hdigit _)
    (.cons (hdigit _) (.cons (hdigit _) nofun)))))

theorem oneLine_escapeChar (c : Char) : OneLine (escapeChar c) := by
  unfold escapeChar
  split_ifs with _ _ hn hr
  · exact oneLine_of_all rfl
  · exact oneLine_of_all rfl
  · exact oneLine_of_all rfl
  · exact oneLine_of_all rfl
  · exact oneLine_of_all rfl
  · exact oneLine_of_all rfl
  · exact oneLine_of_all rfl
  · exact .cons (by simp [isNewline, hn, hr]) nofun
  · exact oneLine_unicodeEscape _
  · exact (oneLine_unicodeEscape _).append (oneLine_unicodeEscape _)

theorem oneLine_quoteStr (s : PyStr) : OneLine (quoteStr s) := by
  refine .cons (by decide) (.append ?_ (oneLine_of_all rfl))
  intro c hc
  obtain ⟨d, -, hd⟩ := List.mem_flatMap.mp hc
  exact oneLine_escapeChar d c hd

theorem oneLine_intStr (i : Int) : OneLine (intStr i) := by
  have hdigits : ∀ n, OneLine (decimalStr n) := fun n =>
    oneLine_of_alphanum fun c hc => by
      simp [Char.isAlphanum, Nat.isDigit_of_mem_toDigits (by decide) (by decide) hc]
  cases i with
  | ofNat n => exact hdigits n
  | negSucc n => exact .cons (by decide) (hdigits _)

section
variable {float : Option Rat → PyStr} {comma colon : PyStr}
  (h : (∀ x, OneLine (float x)) ∧ OneLine comma ∧ OneLine colon)
include h

mutual

/-- **A value is written on one line.** -/
theorem PyValue.oneLine_text : ∀ v : PyValue, OneLine (v.text float comma colon)
  | .none => oneLine_of_all rfl
  | .bool b => by cases b <;> exact oneLine_of_all rfl
  | .int i => oneLine_intStr i
  | .float x => h.1 x
  | .str s => oneLine_quoteStr s
  | .list items => .cons (by decide) (oneLine_itemsText true items)
  | .dict items => .cons (by decide) (oneLine_membersText true items)

theorem oneLine_itemsText : ∀ first items, OneLine (itemsText float comma colon first items)
  | _, [] => oneLine_of_all rfl
  | first, v :: items => by
    refine .append (.append ?_ v.oneLine_text) (oneLine_itemsText false items)
    cases first with
    | true => exact nofun
    | false => exact h.2.1

theorem oneLine_membersText : ∀ first items, OneLine (membersText float comma colon first items)
  | _, [] => oneLine_of_all rfl
  | first, (key, v) :: items => by
    refine .append (.append (.append (.append ?_ (oneLine_quoteStr key)) h.2.2) v.oneLine_text)
      (oneLine_membersText false items)
    cases first with
    | true => exact nofun
    | false => exact h.2.1

end

end

theorem PyJson.oneLine_dumps {J : PyJson} (hfloat : ∀ x, OneLine (J.float x)) (v : PyValue) :
    OneLine (J.dumps v) :=
  PyValue.oneLine_text ⟨hfloat, oneLine_of_all rfl, oneLine_of_all rfl⟩ _

/-! ### Sorted keys -/

theorem sortItems_eq_map (items : List PyValue) : sortItems items = items.map PyValue.sortKeys := by
  induction items with
  | nil => rfl
  | cons v items ih => rw [sortItems, ih, List.map_cons]

theorem sortMembers_eq_map (items : List (PyStr × PyValue)) :
    sortMembers items = items.map fun m => (m.1, m.2.sortKeys) := by
  induction items with
  | nil => rfl
  | cons m items ih => rw [sortMembers, ih, List.map_cons]

/-- A member is found by its key if no other has it. -/
theorem find?_key_eq_some_iff {items : List (PyStr × PyValue)} (h : (items.map Prod.fst).Nodup)
    {key : PyStr} {m : PyStr × PyValue} :
    items.find? (·.1 == key) = some m ↔ m ∈ items ∧ m.1 = key := by
  constructor
  · intro hf
    exact ⟨List.mem_of_find?_eq_some hf, by simpa using List.find?_some hf⟩
  · rintro ⟨hm, rfl⟩
    induction items with
    | nil => cases hm
    | cons a items ih =>
      rw [List.map_cons, List.nodup_cons] at h
      rcases List.mem_cons.mp hm with rfl | hm
      · simp
      · have hne : (a.1 == m.1) = false := by
          refine beq_eq_false_iff_ne.mpr fun heq => h.1 ?_
          rw [heq]
          exact List.mem_map_of_mem hm
        rw [List.find?_cons_of_neg (by simp [hne])]
        exact ih h.2 hm

/-- The members of a sorted `dict`. -/
theorem exists_sorted (items : List (PyStr × PyValue)) :
    ∃ sorted, (PyValue.dict items).sortKeys = .dict sorted ∧
      sorted.Perm (items.map fun m => (m.1, m.2.sortKeys)) := by
  refine ⟨_, rfl, ?_⟩
  rw [← sortMembers_eq_map]
  exact List.perm_insertionSort _ _

/-- Sorting the keys keeps what is under each of them. -/
theorem PyValue.get_sortKeys {items : List (PyStr × PyValue)} (h : (items.map Prod.fst).Nodup)
    (key : PyStr) : (PyValue.dict items).sortKeys.get key =
      ((PyValue.dict items).get key).map PyValue.sortKeys := by
  obtain ⟨sorted, heq, hperm⟩ := exists_sorted items
  have hnodup : (sorted.map Prod.fst).Nodup := by
    rw [(hperm.map Prod.fst).nodup_iff, List.map_map]
    exact h
  rw [heq]
  refine Option.ext fun v => ?_
  simp only [PyValue.get, Option.map_map, Option.map_eq_some_iff, find?_key_eq_some_iff hnodup,
    find?_key_eq_some_iff h, hperm.mem_iff, List.mem_map, Function.comp_apply]
  constructor
  · rintro ⟨_, ⟨⟨m, hm, rfl⟩, hkey⟩, rfl⟩
    exact ⟨m, ⟨hm, hkey⟩, rfl⟩
  · rintro ⟨m, ⟨hm, hkey⟩, rfl⟩
    exact ⟨_, ⟨⟨m, hm, rfl⟩, hkey⟩, rfl⟩

/-- Sorting the keys keeps them. -/
theorem PyValue.hasFields_sortKeys (items : List (PyStr × PyValue)) (fields : List PyStr) :
    (PyValue.dict items).sortKeys.hasFields fields = (PyValue.dict items).hasFields fields := by
  obtain ⟨sorted, heq, hperm⟩ := exists_sorted items
  have hkeys : ∀ k, k ∈ sorted.map Prod.fst ↔ k ∈ items.map Prod.fst := fun k => by
    rw [(hperm.map Prod.fst).mem_iff, List.map_map]
    rfl
  rw [heq, Bool.eq_iff_iff]
  simp only [PyValue.hasFields, Bool.and_eq_true, List.all_eq_true, List.contains_iff_mem, hkeys]
  have hall : ∀ l : List (PyStr × PyValue),
      (∀ m ∈ l, m.1 ∈ fields) ↔ ∀ k ∈ l.map Prod.fst, k ∈ fields := fun l => List.forall_mem_map.symm
  rw [hall sorted, hall items]
  exact and_congr_left fun _ => forall_congr' fun k => imp_congr_left (hkeys k)

/-! ### Reading values without escapes and fractions -/

/-- The blanks of JSON. -/
def skipBlanks (s : PyStr) : PyStr := s.dropWhile fun c => c == ' ' || c == '\t' || c == '\n' || c == '\r'

/-- A string without escapes, behind its opening quote. -/
def loadsStr (s : PyStr) : Option (PyStr × PyStr) :=
  match s.span fun c => c != '"' && c != '\\' && 32 ≤ c.toNat with
  | (t, '"' :: rest) => some (t, rest)
  | _ => none

/-- An integer. -/
def loadsInt (s : PyStr) : Option (Int × PyStr) :=
  let (neg, s) := match s with
    | '-' :: t => (true, t)
    | _ => (false, s)
  let digits := match s with
    | '0' :: _ => ['0']
    | _ => s.takeWhile Char.isDigit
  match digits, s.drop digits.length with
  | [], _ => none
  | _, '.' :: _ => none
  | _, 'e' :: _ => none
  | _, 'E' :: _ => none
  | _, rest =>
    let n : Int := Nat.ofDigitChars 10 digits 0
    some (if neg then -n else n, rest)

mutual

def loadsValue : Nat → PyStr → Option (PyValue × PyStr)
  | 0, _ => none
  | fuel + 1, s =>
    match s with
    | '"' :: t => (loadsStr t).map fun p => (.str p.1, p.2)
    | '[' :: t =>
      match skipBlanks t with
      | ']' :: rest => some (.list [], rest)
      | t => (loadsItems fuel t).map fun p => (.list p.1, p.2)
    | c :: t =>
      if c = Char.ofNat 123 then
        match skipBlanks t with
        | d :: rest =>
          if d = Char.ofNat 125 then some (.dict [], rest)
          else (loadsMembers fuel (d :: rest)).map fun p => (.dict p.1, p.2)
        | [] => none
      else if "null".toList.isPrefixOf s then some (.none, s.drop 4)
      else if "true".toList.isPrefixOf s then some (.bool true, s.drop 4)
      else if "false".toList.isPrefixOf s then some (.bool false, s.drop 5)
      else (loadsInt s).map fun p => (.int p.1, p.2)
    | [] => none

/-- The items of a list, and what stands behind its bracket. -/
def loadsItems : Nat → PyStr → Option (List PyValue × PyStr)
  | 0, _ => none
  | fuel + 1, s => do
    let (v, s) ← loadsValue fuel s
    match skipBlanks s with
    | ']' :: rest => some ([v], rest)
    | ',' :: rest =>
      let (vs, rest) ← loadsItems fuel (skipBlanks rest)
      some (v :: vs, rest)
    | _ => none

def loadsMembers : Nat → PyStr → Option (List (PyStr × PyValue) × PyStr)
  | 0, _ => none
  | fuel + 1, s =>
    match s with
    | '"' :: t => do
      let (key, t) ← loadsStr t
      match skipBlanks t with
      | ':' :: t =>
        let (v, t) ← loadsValue fuel (skipBlanks t)
        match skipBlanks t with
        | ',' :: rest =>
          let (vs, rest) ← loadsMembers fuel (skipBlanks rest)
          some ((key, v) :: vs, rest)
        | d :: rest => if d = Char.ofNat 125 then some ([(key, v)], rest) else none
        | [] => none
      | _ => none
    | _ => none

end

/-- `json.loads` on texts without escapes, fractions and repeated keys; others are refused. -/
def loadsPlain (s : PyStr) : Option PyValue :=
  match loadsValue (s.length + 1) (skipBlanks s) with
  | some (v, rest) => if skipBlanks rest = [] then some v else none
  | none => none

/-- A whole float; others are not written. -/
def wholeFloat : Option Rat → PyStr
  | some q => if q.den = 1 then intStr q.num ++ ".0".toList else []
  | none => "NaN".toList

/-- The `json` module on such texts. -/
def PyJson.plain : PyJson :=
  ⟨wholeFloat, loadsPlain, fun s => (loadsInt s).bind fun p => if p.2 = [] then some p.1 else none,
    fun v => v.text wholeFloat ", ".toList ": ".toList⟩

mutual

/-- Two values are the same. -/
def PyValue.same : PyValue → PyValue → Bool
  | .none, .none => true
  | .bool a, .bool b => a == b
  | .int a, .int b => a == b
  | .float a, .float b => a == b
  | .str a, .str b => a == b
  | .list a, .list b => sameItems a b
  | .dict a, .dict b => sameMembers a b
  | _, _ => false

def sameItems : List PyValue → List PyValue → Bool
  | [], [] => true
  | a :: as, b :: bs => a.same b && sameItems as bs
  | _, _ => false

def sameMembers : List (PyStr × PyValue) → List (PyStr × PyValue) → Bool
  | [], [] => true
  | (k, a) :: as, (l, b) :: bs => k == l && a.same b && sameMembers as bs
  | _, _ => false

end

mutual

theorem PyValue.eq_of_same {a b : PyValue} (h : a.same b = true) : a = b := by
  cases a <;> cases b <;> simp only [PyValue.same, beq_iff_eq, Bool.false_eq_true] at h
  case none.none => rfl
  case list.list a b => rw [eq_of_sameItems h]
  case dict.dict a b => rw [eq_of_sameMembers h]
  all_goals rw [h]

theorem eq_of_sameItems {a b : List PyValue} (h : sameItems a b = true) : a = b := by
  cases a <;> cases b <;> simp only [sameItems, Bool.false_eq_true, Bool.and_eq_true] at h
  case nil.nil => rfl
  case cons.cons a as b bs => rw [PyValue.eq_of_same h.1, eq_of_sameItems h.2]

theorem eq_of_sameMembers {a b : List (PyStr × PyValue)} (h : sameMembers a b = true) : a = b := by
  match a, b with
  | [], [] => rfl
  | (k, a) :: as, (l, b) :: bs =>
    simp only [sameMembers, Bool.and_eq_true, beq_iff_eq] at h
    rw [h.1.1, PyValue.eq_of_same h.1.2, eq_of_sameMembers h.2]
  | [], _ :: _ => simp [sameMembers] at h
  | _ :: _, [] => simp [sameMembers] at h

end

theorem isDigit_of_mem_decimalStr {n : Nat} {c : Char} (h : c ∈ decimalStr n) : c.isDigit = true :=
  Nat.isDigit_of_mem_toDigits (by decide) (by decide) h

theorem notMem_decimalStr {c : Char} (hc : c.isDigit = false) (n : Nat) : c ∉ decimalStr n :=
  fun h => absurd (isDigit_of_mem_decimalStr h) (by rw [hc]; decide)

theorem decimalStr_injective : Function.Injective decimalStr := by
  intro m n h
  rw [← Nat.ofDigitChars_ten_toDigits (n := m), show Nat.toDigits 10 m = Nat.toDigits 10 n from h,
    Nat.ofDigitChars_ten_toDigits]

theorem isHexChar_ofNat {b : UInt8} (h : isLowerHex b = true) :
    isHexChar (Char.ofNat b.toNat) = true := by
  have hall : ∀ n < 256, isLowerHex (UInt8.ofNat n) = true → isHexChar (Char.ofNat n) = true := by
    decide +kernel
  exact hall b.toNat b.toNat_lt (by rwa [UInt8.ofNat_toNat])

theorem isHexOf_hexStr {data : Bytes} {n : Nat} (h : data.length = n) :
    isHexOf (2 * n) (hexStr data) = true := by
  simp only [isHexOf, hexStr, List.length_map, length_hexEncode, h, BEq.rfl, Bool.true_and,
    List.all_eq_true, List.mem_map, forall_exists_index, and_imp, forall_apply_eq_imp_iff₂]
  exact fun b hb => isHexChar_ofNat (isLowerHex_of_mem_hexEncode hb)

end Virp
