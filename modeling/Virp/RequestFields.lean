import Virp.Requests

/-! # What a request says and what is made of it

A request whose text has no encoded zero is read without loss: no string of it has a zero byte, so
its C strings are the strings of the JSON.  Every field that is checked then has its JSON value.  A
field that is not checked has it exactly if the value fits.
-/
namespace Virp

open List
open Option (bind_eq_some_iff map_eq_some_iff)

/-! ## Without an encoded zero -/

/-- A text without an encoded zero, and without a zero byte but at its end. -/
def Clean (r : Bytes) : Prop := (∃ odd, nulEscape odd r = false) ∧ (0 : UInt8) ∉ r.dropLast

variable {odd : Bool} {c : UInt8} {v : Int} {seen : Json} {req : OnodeRequest}

theorem nulEscape_append {x y : Bytes} (h : nulEscape odd (x ++ y) = false) :
    ∃ odd', nulEscape odd' y = false := by
  induction x generalizing odd with
  | nil => exact ⟨odd, h⟩
  | cons c x ih =>
    rw [cons_append, nulEscape, Bool.or_eq_false_iff] at h
    exact ih h.2

variable {r : Bytes}

theorem Clean.suffix {r' : Bytes} (h : Clean r) (hr : r' <:+ r) : Clean r' := by
  obtain ⟨x, rfl⟩ := hr
  refine ⟨nulEscape_append h.1.choose_spec, fun h0 => h.2 ?_⟩
  have hne : r' ≠ [] := by
    rintro rfl
    cases h0
  rw [dropLast_append_of_ne_nil hne]
  exact mem_append_right x h0

theorem hexEscapeOk_append (h : hexEscapeOk r = true) (y : Bytes) :
    hexEscapeOk (r ++ y) = true := by
  match r, h with
  | _ :: _ :: _ :: _ :: _, h => exact h

theorem nulEscape_terminated {x : Bytes} (h : nulEscape odd x = false) :
    nulEscape odd (x ++ [0]) = false := by
  induction x generalizing odd with
  | nil => rfl
  | cons c x ih =>
    rw [nulEscape, Bool.or_eq_false_iff] at h
    rw [cons_append, nulEscape, Bool.or_eq_false_iff]
    refine ⟨?_, ih h.2⟩
    by_cases hx : hexEscapeOk x = true
    · rw [hexEscapeOk_append hx]
      simp
    · rw [Bool.not_eq_true] at hx
      rw [hx] at h
      simp only [Bool.not_false, Bool.and_true] at h
      rw [h.1, Bool.false_and]

variable {a b d e : UInt8} {n cap max : Nat} {L : Libc} {default : Int}

theorem hexEscapeOk_iff :
    hexEscapeOk (a :: b :: c :: d :: r) = true ↔ parseHex4 a b c d ≠ 0 := by
  simp only [hexEscapeOk, parseHex4]
  cases Numeral.digitValue a <;> cases Numeral.digitValue b <;> cases Numeral.digitValue c <;>
    cases Numeral.digitValue d <;> simp
  omega

theorem zero_notMem_utf8OfCodepoint {cp : Nat} (h0 : cp ≠ 0) (h : cp < 0x110000) :
    0 ∉ utf8OfCodepoint cp := by
  have hbyte : ∀ n, 0 < n → n < 256 → (0 : UInt8) ≠ n.toUInt8 := by
    intro n hpos hlt heq
    have := congrArg UInt8.toNat heq
    rw [Nat.toUInt8, UInt8.toNat_ofNat', Nat.mod_eq_of_lt hlt] at this
    exact absurd this (Nat.ne_of_lt hpos)
  have hcont : ∀ k, (0 : UInt8) ≠ (0x80 + cp / 64 ^ k % 64).toUInt8 := by
    intro k
    have := Nat.mod_lt (cp / 64 ^ k) (show 0 < 64 by decide)
    exact hbyte _ (by omega) (by omega)
  unfold utf8OfCodepoint
  simp only
  split_ifs with h1 h2 h3
  · simp only [mem_singleton]
    exact hbyte cp (by omega) (by omega)
  · simp only [mem_cons, not_mem_nil, or_false, not_or]
    exact ⟨hbyte _ (by omega) (by omega), hcont 0⟩
  · simp only [mem_cons, not_mem_nil, or_false, not_or]
    exact ⟨hbyte _ (by omega) (by omega), hcont 1, hcont 0⟩
  · simp only [mem_cons, not_mem_nil, or_false, not_or]
    exact ⟨hbyte _ (by omega) (by omega), hcont 2, hcont 1, hcont 0⟩

theorem parseHex4_lt (a b c d : UInt8) : parseHex4 a b c d < 0x10000 := by
  have hdigit : ∀ {c : UInt8} {n : Nat}, Numeral.digitValue c = some n → n < 16 := by
    intro c n h
    unfold Numeral.digitValue at h
    split_ifs at h with h1 h2 h3
    all_goals
      cases h
      simp only [UInt8.le_iff_toNat_le] at *
      simp at *
      omega
  unfold parseHex4
  split
  · next ha hb hc hd =>
    have := hdigit ha
    have := hdigit hb
    have := hdigit hc
    have := hdigit hd
    omega
  · decide

theorem nulEscape_plain (hc : c ≠ 0x5C) (h : nulEscape odd (c :: r) = false) :
    nulEscape false r = false := by
  rw [nulEscape, Bool.or_eq_false_iff, beq_eq_false_iff_ne.mpr hc, Bool.false_and] at h
  exact h.2

theorem nulEscape_escape (h : nulEscape false (0x5C :: e :: r) = false) :
    nulEscape false r = false ∧ (e = 0x75 → hexEscapeOk r = true) := by
  rw [nulEscape, Bool.or_eq_false_iff, nulEscape, Bool.or_eq_false_iff] at h
  obtain ⟨-, hu, hr⟩ := h
  refine ⟨by simpa using hr, ?_⟩
  rintro rfl
  simpa using hu

theorem ne_backslash_of_digit (h : Numeral.digitValue c = some n) : c ≠ 0x5C := by
  rintro rfl
  cases h

theorem nulEscape_hex
    (h : nulEscape false (0x5C :: 0x75 :: a :: b :: c :: d :: r) = false) :
    parseHex4 a b c d ≠ 0 ∧ nulEscape false r = false := by
  obtain ⟨hrest, hok⟩ := nulEscape_escape h
  have hne := hexEscapeOk_iff.mp (hok rfl)
  refine ⟨hne, ?_⟩
  unfold parseHex4 at hne
  split at hne
  · next ha hb hc hd =>
    exact nulEscape_plain (ne_backslash_of_digit hd) (nulEscape_plain (ne_backslash_of_digit hc)
      (nulEscape_plain (ne_backslash_of_digit hb) (nulEscape_plain (ne_backslash_of_digit ha) hrest)))
  · exact absurd rfl hne

theorem simpleEscape_ne_zero {x : UInt8} (h : simpleEscape e = some x) : x ≠ 0 := by
  unfold simpleEscape at h
  split_ifs at h with h1 h2 h3 h4 h5 h6
  all_goals cases h
  all_goals first
    | decide
    | (rcases h6 with rfl | rfl | rfl <;> decide)

/-- **Decoding writes no zero byte**, in a text without an encoded one. -/
theorem zero_notMem_unescape {raw s : Bytes} (rest : Bytes) (h : unescape raw = some s)
    (hnul : nulEscape false (raw ++ rest) = false) (h0 : 0 ∉ raw) : 0 ∉ s := by
  fun_induction unescape raw generalizing s with
  | case1 =>
    cases h
    exact h0
  | case2 c r hc ih =>
    obtain ⟨t, ht, rfl⟩ := map_eq_some_iff.mp h
    simp only [mem_cons, not_or] at h0 ⊢
    exact ⟨h0.1, ih ht (nulEscape_plain hc hnul) h0.2⟩
  | case4 c hc e r he x hx ih =>
    obtain ⟨t, ht, rfl⟩ := map_eq_some_iff.mp h
    obtain rfl := not_not.mp hc
    simp only [mem_cons, not_or] at h0 ⊢
    exact ⟨(simpleEscape_ne_zero hx).symm, ih ht (nulEscape_escape hnul).1 h0.2.2⟩
  | case8 =>
    rename_i c hc e he h1 h2 h3 h4 first hlow hhigh b u l1 l2 l3 l4 r second hpair ih
    obtain ⟨t, ht, rfl⟩ := map_eq_some_iff.mp h
    obtain rfl := not_not.mp hc
    obtain rfl := not_not.mp he
    simp only [not_or, not_not] at hpair
    obtain ⟨rfl, rfl, -, -⟩ := hpair
    have hsecond := (nulEscape_hex (nulEscape_hex hnul).2).2
    have hcode : 65536 + first % 1024 * 1024 + second % 1024 < 0x110000 := by omega
    simp only [mem_cons, not_or] at h0
    rw [mem_append, not_or]
    exact ⟨zero_notMem_utf8OfCodepoint (by omega) hcode, ih ht hsecond (by tauto)⟩
  | case10 =>
    rename_i c hc e he h1 h2 h3 h4 r first hlow hhigh ih
    obtain ⟨t, ht, rfl⟩ := map_eq_some_iff.mp h
    obtain rfl := not_not.mp hc
    obtain rfl := not_not.mp he
    obtain ⟨hne, hrest⟩ := nulEscape_hex hnul
    have hlt := parseHex4_lt h1 h2 h3 h4
    simp only [mem_cons, not_or] at h0
    rw [mem_append, not_or]
    exact ⟨zero_notMem_utf8OfCodepoint hne (by omega), ih ht hrest (by tauto)⟩
  | case3 | case5 | case6 | case7 | case9 | case11 => cases h

/-! ## What the reader makes of such a text -/

/-- A reader leaves an end of its text, and out of a clean text it makes what `P` holds of. -/
def Yields {α : Type} (P : α → Prop) (read : Bytes → Option (α × Bytes)) : Prop :=
  ∀ r x rest, read r = some (x, rest) → rest <:+ r ∧ (Clean r → P x)

/-- And it uses up bytes. -/
def Takes {α : Type} (P : α → Prop) (read : Bytes → Option (α × Bytes)) : Prop :=
  ∀ r x rest, read r = some (x, rest) → rest.length < r.length ∧ rest <:+ r ∧ (Clean r → P x)

theorem Takes.yields {α : Type} {P : α → Prop} {read : Bytes → Option (α × Bytes)}
    (h : Takes P read) : Yields P read := fun r x rest hr => (h r x rest hr).2

theorem skipWhitespace_suffix (r : Bytes) : skipWhitespace r <:+ r := by
  unfold skipWhitespace
  split
  · exact drop_suffix ..
  · next h => exact h ▸ dropWhile_suffix _

theorem suffix_of_skipWhitespace {t : Bytes} (h : skipWhitespace r = c :: t) : t <:+ r :=
  (suffix_cons c t).trans (h ▸ skipWhitespace_suffix r)

theorem splitString_eq {raw rest : Bytes} (h : splitString r = some (raw, rest)) :
    r = raw ++ 0x22 :: rest := by
  fun_induction splitString r generalizing raw rest with
  | case1 => cases h
  | case2 r =>
    cases h
    rfl
  | case3 => cases h
  | case4 e r hq ih =>
    obtain ⟨p, hp, hab⟩ := map_eq_some_iff.mp h
    cases hab
    rw [ih hp]
    rfl
  | case5 c r hq hb ih =>
    obtain ⟨p, hp, hab⟩ := map_eq_some_iff.mp h
    cases hab
    rw [ih hp]
    rfl

theorem parseString_takes : Takes (fun s => 0 ∉ s) parseString := by
  intro r s rest h
  unfold parseString at h
  split at h
  · cases h
  next c t =>
  split at h
  · cases h
  next hc =>
  obtain rfl := not_not.mp hc
  split at h
  · cases h
  next raw rest' hsplit =>
  obtain ⟨s', hs', hab⟩ := map_eq_some_iff.mp h
  cases hab
  obtain rfl := splitString_eq hsplit
  refine ⟨by simp; omega, ⟨0x22 :: raw ++ [0x22], by simp⟩, fun hclean => ?_⟩
  obtain ⟨⟨odd, hnul⟩, h0⟩ := hclean
  refine zero_notMem_unescape _ hs' (nulEscape_plain (by decide) hnul) fun hmem => h0 ?_
  rw [← cons_append, dropLast_append_of_ne_nil (cons_ne_nil _ _)]
  exact mem_append_left _ (mem_cons_of_mem _ hmem)

section
variable {α : Type} {P : α → Prop} {item : Bytes → Option (α × Bytes)} (hitem : Takes P item)
  (close : UInt8)
include hitem

theorem parseList_takes (fuel : Nat) : Takes (fun xs => ∀ x ∈ xs, P x) (parseList item close fuel) := by
  induction fuel with
  | zero => exact fun _ _ _ h => nomatch h
  | succ fuel ih =>
    intro r xs rest h
    rw [parseList] at h
    split at h
    · cases h
    next x t hx =>
    obtain ⟨hlen, hsuffix, hP⟩ := hitem _ _ _ hx
    split at h
    · cases h
    next c t' ht =>
    have hrest : t' <:+ r := (suffix_of_skipWhitespace ht).trans hsuffix
    have hturn := length_lt_of_skipWhitespace ht
    split at h
    · obtain ⟨p, hp, hab⟩ := map_eq_some_iff.mp h
      cases hab
      obtain ⟨hlen', hsuffix', hP'⟩ := ih _ _ _ hp
      exact ⟨by omega, hsuffix'.trans hrest, fun hclean =>
        forall_mem_cons.mpr ⟨hP hclean, hP' (hclean.suffix hrest)⟩⟩
    · split at h
      · cases h
        exact ⟨by omega, hrest, fun hclean => forall_mem_singleton.mpr (hP hclean)⟩
      · cases h

theorem parseEnclosed_takes : Takes (fun xs => ∀ x ∈ xs, P x) (parseEnclosed item close) := by
  intro r xs rest h
  unfold parseEnclosed at h
  split at h
  · cases h
  next c t ht =>
  split at h
  · cases h
    exact ⟨length_lt_of_skipWhitespace ht, suffix_of_skipWhitespace ht,
      fun _ x hx => absurd hx not_mem_nil⟩
  have hsuffix : c :: t <:+ r := ht ▸ skipWhitespace_suffix r
  obtain ⟨hlen, hsuffix', hP⟩ := parseList_takes hitem close _ _ _ _ h
  exact ⟨hlen.trans_le hsuffix.length_le, hsuffix'.trans hsuffix,
    fun hclean => hP (hclean.suffix hsuffix)⟩

end

theorem parseElement_takes {P : Json → Prop} {value : Bytes → Option (Json × Bytes)}
    (hv : Takes P value) : Takes P (parseElement value) := by
  intro r v rest h
  obtain ⟨hlen, hsuffix, hP⟩ := hv _ _ _ h
  have hstart := skipWhitespace_suffix r
  exact ⟨hlen.trans_le hstart.length_le, hsuffix.trans hstart,
    fun hclean => hP (hclean.suffix hstart)⟩

theorem parseMember_takes {P : Json → Prop} {value : Bytes → Option (Json × Bytes)}
    (hv : Takes P value) : Takes (fun m => 0 ∉ m.1 ∧ P m.2) (parseMember value) := by
  intro r m rest h
  unfold parseMember at h
  split at h
  · cases h
  next name t hname =>
  obtain ⟨-, hsuffix, hzero⟩ := parseString_takes _ _ _ hname
  have hstart := skipWhitespace_suffix r
  split at h
  · cases h
  next c t' ht =>
  split at h
  · obtain ⟨p, hp, hab⟩ := map_eq_some_iff.mp h
    cases hab
    obtain ⟨hlen, hsuffix', hP⟩ := hv _ _ _ hp
    have hvalue : skipWhitespace t' <:+ r := (skipWhitespace_suffix t').trans
        ((suffix_of_skipWhitespace ht).trans (hsuffix.trans hstart))
    exact ⟨hlen.trans_le hvalue.length_le, hsuffix'.trans hvalue, fun hclean =>
      ⟨hzero (hclean.suffix hstart), hP (hclean.suffix hvalue)⟩⟩
  · cases h

/-- No zero byte in a string, nor in the names and strings of an object. -/
def Json.NulFree : Json → Prop
  | .string s => (0 : UInt8) ∉ s
  | .object members => ∀ m ∈ members, (0 : UInt8) ∉ m.1 ∧ ∀ s, m.2 = .string s → (0 : UInt8) ∉ s
  | _ => True

/-- No zero byte in any string or name of a document, at any depth. -/
inductive Json.ZeroFree : Json → Prop where
  | null : ZeroFree .null
  | bool (b : Bool) : ZeroFree (.bool b)
  | number (n : JsonNumber) : ZeroFree (.number n)
  | string {s : Bytes} (h : 0 ∉ s) : ZeroFree (.string s)
  | array {items : List Json} (h : ∀ v ∈ items, ZeroFree v) : ZeroFree (.array items)
  | object {members : List (Bytes × Json)} (names : ∀ m ∈ members, 0 ∉ m.1)
    (values : ∀ m ∈ members, ZeroFree m.2) : ZeroFree (.object members)

theorem Json.ZeroFree.nulFree {v : Json} (h : v.ZeroFree) : v.NulFree := by
  cases h with
  | string h => exact h
  | object names values =>
    refine fun m hm => ⟨names m hm, fun s hs => ?_⟩
    have hvalue := values m hm
    rw [hs] at hvalue
    cases hvalue
    assumption
  | _ => trivial

theorem parseValue_takes_of {levels : Nat}
    (nested : ∀ n, levels = n + 1 → Takes Json.ZeroFree (parseValue L n)) :
    Takes Json.ZeroFree (parseValue L levels) := by
  have dropped {n : Nat} (hn : 0 < n) {r : Bytes} (hr : 0 < r.length) {v : Json} (hv : v.ZeroFree) :
      (r.drop n).length < r.length ∧ r.drop n <:+ r ∧ (Clean r → v.ZeroFree) := by
    rw [length_drop]
    exact ⟨Nat.sub_lt hr hn, drop_suffix .., fun _ => hv⟩
  intro r v rest h
  rw [parseValue.eq_def] at h
  split at h
  · next hp =>
    cases h
    exact dropped (by decide) (hp.length_le.trans_lt' (by decide)) .null
  split at h
  · next hp =>
    cases h
    exact dropped (by decide) (hp.length_le.trans_lt' (by decide)) (.bool _)
  split at h
  · next hp =>
    cases h
    exact dropped (by decide) (hp.length_le.trans_lt' (by decide)) (.bool _)
  split at h
  · cases h
  rename_i c t _ _ _
  split at h
  · obtain ⟨p, hp, hab⟩ := map_eq_some_iff.mp h
    cases hab
    obtain ⟨hlen, hsuffix, hzero⟩ := parseString_takes _ _ _ hp
    exact ⟨hlen, hsuffix, fun hclean => .string (hzero hclean)⟩
  split at h
  · unfold parseNumber at h
    simp only at h
    split at h
    · cases h
    next hread =>
    cases h
    exact dropped (Nat.pos_of_ne_zero hread) (r := c :: t) (Nat.succ_pos _) (.number _)
  split at h
  · split at h
    · cases h
    next n =>
    obtain ⟨p, hp, hab⟩ := map_eq_some_iff.mp h
    cases hab
    obtain ⟨hlen, hsuffix, hP⟩ := parseEnclosed_takes (parseElement_takes (nested n rfl)) _ _ _ _ hp
    exact ⟨Nat.lt_succ_of_lt hlen, hsuffix.trans (suffix_cons ..),
      fun hclean => .array (hP (hclean.suffix (suffix_cons ..)))⟩
  split at h
  · split at h
    · cases h
    next n =>
    obtain ⟨p, hp, hab⟩ := map_eq_some_iff.mp h
    cases hab
    obtain ⟨hlen, hsuffix, hP⟩ := parseEnclosed_takes (parseMember_takes (nested n rfl)) _ _ _ _ hp
    refine ⟨Nat.lt_succ_of_lt hlen, hsuffix.trans (suffix_cons ..), fun hclean => ?_⟩
    have hmembers := hP (hclean.suffix (suffix_cons ..))
    exact .object (fun m hm => (hmembers m hm).1) fun m hm => (hmembers m hm).2
  · cases h

theorem parseValue_takes (L : Libc) (levels : Nat) : Takes Json.ZeroFree (parseValue L levels) := by
  induction levels with
  | zero => exact parseValue_takes_of (by simp)
  | succ n ih =>
    refine parseValue_takes_of ?_
    rintro m hm
    obtain rfl : n = m := by omega
    exact ih

/-- **A text without an encoded zero has no string with one.** -/
theorem zeroFree_of_parseText {json : Bytes} {root : Json}
    (hnul : jsonHasNulEscape (cstr json) = false) (h : parseText L json = some root) :
    root.ZeroFree := by
  obtain ⟨p, hp, rfl⟩ := map_eq_some_iff.mp h
  refine ((parseValue_takes L _).yields _ _ _ hp).2 ?_
  have hclean : Clean (cstr json ++ [0]) := ⟨⟨false, nulEscape_terminated hnul⟩, by
      rw [dropLast_concat]
      exact zero_notMem_cstr json⟩
  have hbom : skipBom (cstr json ++ [0]) <:+ cstr json ++ [0] := by
    unfold skipBom
    split
    · exact drop_suffix ..
    · exact suffix_rfl
  exact hclean.suffix ((skipWhitespace_suffix _).trans hbom)

/-! ## What the scan reports -/

/-- An escape introduced by `\u` stands in the text, and `y` is behind it.  An odd number of
backslashes is in front of the letter: the last one is not itself escaped. -/
def EscapeIn (json y : Bytes) : Prop :=
  ∃ x, json = x ++ 0x75 :: y ∧ (x.rtakeWhile (· == 0x5C)).length % 2 = 1

/-- The grammar of JSON has four digits behind every `\u`. -/
def EscapesWellFormed (json : Bytes) : Prop :=
  ∀ y, EscapeIn json y → 4 ≤ y.length ∧ ∀ c ∈ y.take 4, (Numeral.digitValue c).isSome

/-- The state of the scan behind `x` is the parity of its last backslashes. -/
theorem foldl_backslash (x : Bytes) : x.foldl (fun odd c => c == 0x5C && !odd) false =
      decide ((x.rtakeWhile (· == 0x5C)).length % 2 = 1) := by
  induction x using reverseRecOn with
  | nil => rfl
  | append_singleton x c ih =>
    rw [foldl_append, foldl_cons, foldl_nil, ih]
    by_cases hc : c = 0x5C
    · rw [hc, rtakeWhile_concat_pos _ _ _ rfl, length_append]
      simp only [BEq.rfl, Bool.true_and, ← decide_not, length_singleton]
      congr 1
      rw [eq_iff_iff]
      omega
    · simp [hc, rtakeWhile_concat_neg]

theorem nulEscape_iff {json : Bytes} : nulEscape odd json = true ↔ ∃ x y, json = x ++ 0x75 :: y ∧
      x.foldl (fun odd c => c == 0x5C && !odd) odd = true ∧ hexEscapeOk y = false := by
  induction json generalizing odd with
  | nil => simp [nulEscape]
  | cons c r ih =>
    rw [nulEscape, Bool.or_eq_true, ih]
    constructor
    · rintro (h | ⟨x, y, rfl, hodd, hy⟩)
      · simp only [Bool.and_eq_true, beq_iff_eq, Bool.not_eq_true'] at h
        exact ⟨[], r, by rw [h.1.1]; rfl, h.1.2, h.2⟩
      · exact ⟨c :: x, y, rfl, hodd, hy⟩
    · rintro ⟨_ | ⟨_, x⟩, y, heq, hodd, hy⟩
      · cases heq
        exact .inl (by simpa [hy] using hodd)
      · cases heq
        exact .inr ⟨x, y, rfl, hodd, hy⟩

theorem digitValue_eq_zero_iff : Numeral.digitValue c = some 0 ↔ c = 0x30 := by
  refine ⟨fun h => ?_, fun h => h ▸ rfl⟩
  unfold Numeral.digitValue at h
  split_ifs at h with h1 h2 h3
  all_goals
    have := Option.some.inj h
    simp only [UInt8.le_iff_toNat_le, ← UInt8.toNat_inj] at *
    simp at *
    omega

/-- Four digits that are not accepted are zeros. -/
theorem hexEscapeOk_eq_false_iff {y : Bytes} (hlen : 4 ≤ y.length)
    (hdigits : ∀ c ∈ y.take 4, (Numeral.digitValue c).isSome) :
    hexEscapeOk y = false ↔ text "0000" <+: y := by
  match y, hlen with
  | a :: b :: c :: d :: r, _ =>
    simp only [take_succ_cons, take_zero, forall_mem_cons, Option.isSome_iff_exists] at hdigits
    obtain ⟨⟨a', ha⟩, ⟨b', hb⟩, ⟨c', hc⟩, ⟨d', hd⟩, -⟩ := hdigits
    have hzero : text "0000" = [0x30, 0x30, 0x30, 0x30] := by decide
    simp only [hexEscapeOk, ha, hb, hc, hd, hzero, cons_prefix_cons, nil_prefix, and_true,
      eq_comm (a := (0x30 : UInt8)), ← digitValue_eq_zero_iff, Option.some.injEq, ne_eq,
      decide_eq_false_iff_not, not_not]
    omega

/-- **The scan for encoded zeros.**  Where it reports none, nothing that is read from the text has
a zero byte, at any depth.  In a text whose escapes are those of JSON it reports one exactly if
some escape is `\u0000`. -/
theorem nul_escape_scan (json : Bytes) : (jsonHasNulEscape (cstr json) = false →
      ∀ L root, parseText L json = some root → root.ZeroFree) ∧
    (EscapesWellFormed (cstr json) → (jsonHasNulEscape (cstr json) = true ↔
      ∃ y, EscapeIn (cstr json) y ∧ text "0000" <+: y)) := by
  refine ⟨fun hnul L root h => zeroFree_of_parseText hnul h, fun hformed => ?_⟩
  rw [jsonHasNulEscape, nulEscape_iff]
  simp only [foldl_backslash, decide_eq_true_eq]
  constructor
  · rintro ⟨x, y, heq, hodd, hy⟩
    have hesc : EscapeIn (cstr json) y := ⟨x, heq, hodd⟩
    exact ⟨y, hesc, (hexEscapeOk_eq_false_iff (hformed y hesc).1 (hformed y hesc).2).mp hy⟩
  · rintro ⟨y, hesc, hzero⟩
    have hy := (hexEscapeOk_eq_false_iff (hformed y hesc).1 (hformed y hesc).2).mpr hzero
    obtain ⟨x, heq, hodd⟩ := hesc
    exact ⟨x, y, heq, hodd, hy⟩

/-- With clean names, a member is found under its own name. -/
theorem item_cutNames {members : List (Bytes × Json)} (h : ∀ m ∈ members, 0 ∉ m.1)
    (key : Bytes) :
    (Json.object members).cutNames.item key = ((Json.object members).item key).map Json.cutNames := by
  have hmap : cutMembers members = members.map (fun m => (m.1, m.2.cutNames)) := by
    rw [cutMembers_eq_map]
    exact map_congr_left fun m hm => by rw [cstr_eq_self (h m hm)]
  simp only [Json.cutNames, Json.item, hmap, find?_map, Option.map_map]
  rfl

/-- The document as the daemon's code sees it: the same strings and numbers under the same names. -/
structure SeenAs (root seen : Json) : Prop where
  string : ∀ key s, root.item key = some (.string s) → seen.item key = some (.string s) ∧
    (0 : UInt8) ∉ s
  number : ∀ key n, root.item key = some (.number n) → seen.item key = some (.number n)

theorem seenAs_cutNames {root : Json} (h : root.NulFree) : SeenAs root root.cutNames := by
  cases root with
  | object members =>
    have hitem := item_cutNames (fun m hm => (h m hm).1)
    refine ⟨fun key s hs => ⟨by rw [hitem, hs]; rfl, ?_⟩, fun key n hn => by rw [hitem, hn]; rfl⟩
    obtain ⟨m, hm, hs⟩ := map_eq_some_iff.mp hs
    exact (h m (mem_of_find?_eq_some hm)).2 s hs
  | _ => exact ⟨fun _ _ h => (nomatch h), fun _ _ h => (nomatch h)⟩

section
variable {root : Json} {key s : Bytes} (hs : root.item key = some (.string s))
  (h0 : (0 : UInt8) ∉ s)
include hs h0

theorem jsonExtractString_eq_some_iff (h : Nat.ble 1 cap = true) {f : Field cap} :
    jsonExtractString cap root key h = some f ↔ f.bytes = s := by
  simp only [jsonExtractString, hs, cstr_eq_self h0]
  constructor
  · intro hf
    split_ifs at hf with hlen
    cases hf
    exact Field.bytes_copy_of_fits h0 (Nat.not_le.mp hlen) h
  · rintro rfl
    rw [if_neg (Nat.not_le.mpr f.length_lt), Field.copy_bytes]

/-- A field that is not checked has the value of the JSON exactly if it fits. -/
theorem optionalField_eq_iff (h : Nat.ble 1 cap = true) :
    (optionalField root cap key h).bytes = s ↔ s.length < cap := by
  refine ⟨fun hf => hf ▸ (optionalField root cap key h).length_lt, fun hlen => ?_⟩
  have hcopy : jsonExtractString cap root key h = some (.copy cap s h) :=
    (jsonExtractString_eq_some_iff hs h0 h).mpr (Field.bytes_copy_of_fits h0 hlen h)
  rw [optionalField, hcopy]
  exact Field.bytes_copy_of_fits h0 hlen h

theorem checkedField_eq {h : Nat.ble 1 cap = true} {f : Field cap}
    (hf : checkedField root cap key h = some f) : f.bytes = s := by
  rw [checkedField, if_pos (by rw [hs]; rfl)] at hf
  exact (jsonExtractString_eq_some_iff hs h0 h).mp hf

theorem hexField_eq {f : Field (n + 1)} (hf : hexField root n key = some f) : f.bytes = s := by
  simp only [hexField, hs, cstr_eq_self h0] at hf
  split_ifs at hf with hbad
  cases hf
  rw [not_or, not_not] at hbad
  exact Field.bytes_copy_of_fits h0 (by omega) (Nat.ble_eq_true_of_le n.succ_pos)

theorem requestAction_eq {a : OnodeAction} (hkey : key = text "action")
    (ha : requestAction root = some a) : onodeActionFromName s = some a := by
  subst hkey
  obtain ⟨name, hname, ha⟩ := bind_eq_some_iff.mp ha
  rw [(jsonExtractString_eq_some_iff hs h0 _).mp hname] at ha
  split_ifs at ha
  exact ha

theorem jsonExtractInt64_string (h : jsonExtractInt64 root key = some v) : strtoll s = some v := by
  simp only [jsonExtractInt64, hs, cstr_eq_self h0] at h
  split_ifs at h
  exact h

end

theorem jsonExtractInt64_number {root : Json} {key : Bytes} {n : JsonNumber}
    (hn : root.item key = some (.number n)) (h : jsonExtractInt64 root key = some v) :
    n = .finite v := by
  simp only [jsonExtractInt64, hn] at h
  cases n with
  | infinite negative => cases h
  | finite q =>
    simp only at h
    split_ifs at h with hrange hden
    cases h
    rw [not_not] at hden
    exact congrArg JsonNumber.finite (Rat.den_eq_one_iff q |>.mp hden).symm

/-- What a bounded field was read from, if it is there. -/
theorem boundedField_eq {root : Json} {key : Bytes} (hkey : (root.item key).isSome = true)
    (h : boundedField root max key default = some v) : jsonExtractInt64 root key = some v := by
  simp only [boundedField, hkey, if_true, jsonExtractU64Bounded] at h
  cases hv : jsonExtractInt64 root key with
  | none =>
    rw [hv] at h
    cases h
  | some w =>
    simp only [hv] at h
    split_ifs at h
    exact h

/-! ## The whole request -/

/-- The strings of a request, by the names of the JSON. -/
def OnodeRequest.strings (req : OnodeRequest) : List (Bytes × Bytes) :=
  [(text "device", req.device.bytes), (text "command", req.command.bytes),
    (text "proposal_id", req.proposalId.bytes), (text "signature", req.signature.bytes),
    (text "key_id", req.keyId.bytes), (text "session_id", req.sessionId.bytes),
    (text "artifact_type", req.artifactType.bytes), (text "artifact_id", req.artifactId.bytes),
    (text "artifact_hash", req.artifactHash.bytes),
    (text "artifact_content", req.artifactContent.bytes), (text "intent_id", req.intentId.bytes),
    (text "intent_hash", req.intentHash.bytes), (text "confidence", req.confidence.bytes),
    (text "intent_json", req.intentJson.bytes),
    (text "proposed_actions", req.proposedActions.bytes),
    (text "constraints", req.constraints.bytes), (text "client_id", req.clientId.bytes),
    (text "client_nonce", req.clientNonce.bytes), (text "server_nonce", req.serverNonce.bytes),
    (text "versions", req.versions.bytes), (text "algorithms", req.algorithms.bytes)]

/-- The numbers of a request. -/
def OnodeRequest.integers (req : OnodeRequest) : List (Bytes × Int) :=
  [(text "obs_version", req.obsVersion), (text "from_sequence", req.fromSequence),
    (text "to_sequence", req.toSequence), (text "limit", req.limit),
    (text "expires_at_ns", req.expiresAtNs), (text "max_commands", req.maxCommands),
    (text "supported_channels", req.supportedChannels)]

/-- **Every field has the value the JSON gives it.**  A number may come as a decimal string. -/
structure OnodeRequest.Exact (req : OnodeRequest) (root : Json) : Prop where
  action : ∀ s, root.item (text "action") = some (.string s) →
    onodeActionFromName s = some req.action
  strings : ∀ f ∈ req.strings, ∀ s, root.item f.1 = some (.string s) → f.2 = s
  integers : ∀ f ∈ req.integers, (∀ n, root.item f.1 = some (.number n) → n = .finite f.2) ∧
    ∀ s, root.item f.1 = some (.string s) → strtoll s = some f.2

/-- The fields that are not checked, and the sizes of their buffers. -/
def uncheckedFields : List (Bytes × Nat) :=
  [(text "device", 64), (text "command", 1024), (text "intent_id", 128), (text "intent_hash", 65),
    (text "confidence", 16), (text "intent_json", 4096), (text "proposed_actions", 2048),
    (text "constraints", 512), (text "client_id", 64), (text "client_nonce", 17),
    (text "server_nonce", 17), (text "versions", 32), (text "algorithms", 32)]

/-- The text of a string. -/
def Json.string? : Json → Option Bytes
  | .string s => some s
  | _ => none

theorem Json.string?_eq_some {v : Json} {s : Bytes} : v.string? = some s ↔ v = .string s := by
  cases v <;> simp [Json.string?]

/-- The values of these fields fit. -/
def Json.Fits (root : Json) : Prop :=
  ∀ f ∈ uncheckedFields, ∀ s, root.item f.1 = some (.string s) → s.length < f.2

instance Json.decidableFits (root : Json) : Decidable root.Fits :=
  decidable_of_iff (∀ f ∈ uncheckedFields, ∀ s ∈ (root.item f.1).bind Json.string?,
    s.length < f.2) (by
      simp only [Json.Fits, Option.mem_def, bind_eq_some_iff, Json.string?_eq_some,
        exists_eq_right])

/-- The parts of a request that are checked. -/
structure Checked (seen : Json) (req : OnodeRequest) : Prop where
  action : requestAction seen = some req.action
  proposalId : hexField seen 32 (text "proposal_id") = some req.proposalId
  signature : hexField seen 128 (text "signature") = some req.signature
  keyId : hexField seen 32 (text "key_id") = some req.keyId
  obsVersion : boundedField seen 3 (text "obs_version") 1 = some req.obsVersion
  sessionId : checkedField seen 64 (text "session_id") = some req.sessionId
  artifactType : checkedField seen 16 (text "artifact_type") = some req.artifactType
  artifactId : checkedField seen 128 (text "artifact_id") = some req.artifactId
  artifactHash : checkedField seen 65 (text "artifact_hash") = some req.artifactHash
  artifactContent : checkedField seen (observationContentMax + 1) (text "artifact_content") =
    some req.artifactContent
  fromSequence : boundedField seen (2 ^ 63 - 1) (text "from_sequence") 0 = some req.fromSequence
  toSequence : boundedField seen (2 ^ 63 - 1) (text "to_sequence") 0 = some req.toSequence
  limit : boundedField seen 200 (text "limit") 0 = some req.limit
  expiresAtNs : boundedField seen (2 ^ 63 - 1) (text "expires_at_ns") 0 = some req.expiresAtNs
  maxCommands : boundedField seen (2 ^ 31 - 1) (text "max_commands") 0 = some req.maxCommands
  supportedChannels : boundedField seen (2 ^ 32 - 1) (text "supported_channels") 0 =
    some req.supportedChannels

/-- The parts that are not. -/
structure Unchecked (seen : Json) (req : OnodeRequest) : Prop where
  device : req.device = optionalField seen 64 (text "device")
  command : req.command = optionalField seen 1024 (text "command")
  intentId : req.intentId = optionalField seen 128 (text "intent_id")
  intentHash : req.intentHash = optionalField seen 65 (text "intent_hash")
  confidence : req.confidence = optionalField seen 16 (text "confidence")
  intentJson : req.intentJson = optionalField seen 4096 (text "intent_json")
  proposedActions : req.proposedActions = optionalField seen 2048 (text "proposed_actions")
  constraints : req.constraints = optionalField seen 512 (text "constraints")
  clientId : req.clientId = optionalField seen 64 (text "client_id")
  clientNonce : req.clientNonce = optionalField seen 17 (text "client_nonce")
  serverNonce : req.serverNonce = optionalField seen 17 (text "server_nonce")
  versions : req.versions = optionalField seen 32 (text "versions")
  algorithms : req.algorithms = optionalField seen 32 (text "algorithms")

theorem requestFields_eq (h : requestFields seen = some req) :
    Checked seen req ∧ Unchecked seen req := by
  unfold requestFields at h
  obtain ⟨action, haction, h⟩ := bind_eq_some_iff.mp h
  obtain ⟨proposalId, hproposal, h⟩ := bind_eq_some_iff.mp h
  obtain ⟨signature, hsignature, h⟩ := bind_eq_some_iff.mp h
  obtain ⟨keyId, hkey, h⟩ := bind_eq_some_iff.mp h
  obtain ⟨obsVersion, hversion, h⟩ := bind_eq_some_iff.mp h
  split_ifs at h
  obtain ⟨sessionId, hsession, h⟩ := bind_eq_some_iff.mp h
  obtain ⟨artifactType, htype, h⟩ := bind_eq_some_iff.mp h
  obtain ⟨artifactId, hid, h⟩ := bind_eq_some_iff.mp h
  obtain ⟨artifactHash, hhash, h⟩ := bind_eq_some_iff.mp h
  obtain ⟨artifactContent, hcontent, h⟩ := bind_eq_some_iff.mp h
  split_ifs at h
  obtain ⟨fromSequence, hfrom, h⟩ := bind_eq_some_iff.mp h
  obtain ⟨toSequence, hto, h⟩ := bind_eq_some_iff.mp h
  obtain ⟨limit, hlimit, h⟩ := bind_eq_some_iff.mp h
  obtain ⟨expiresAtNs, hexpires, h⟩ := bind_eq_some_iff.mp h
  obtain ⟨maxCommands, hmax, h⟩ := bind_eq_some_iff.mp h
  obtain ⟨supportedChannels, hchannels, h⟩ := bind_eq_some_iff.mp h
  cases h
  obtain ⟨version, hbounded, hversion⟩ := bind_eq_some_iff.mp hversion
  split_ifs at hversion
  cases hversion
  obtain ⟨hash, hchecked, hhash⟩ := bind_eq_some_iff.mp hhash
  split_ifs at hhash
  cases hhash
  exact ⟨⟨haction, hproposal, hsignature, hkey, hbounded, hsession, htype, hid, hchecked, hcontent,
    hfrom, hto, hlimit, hexpires, hmax, hchannels⟩,
    ⟨rfl, rfl, rfl, rfl, rfl, rfl, rfl, rfl, rfl, rfl, rfl, rfl, rfl⟩⟩

/-- A number that is there is what was read. -/
theorem SeenAs.integer {root : Json} (hseen : SeenAs root seen) {key : Bytes}
    (h : boundedField seen max key default = some v) :
    (∀ n, root.item key = some (.number n) → n = .finite v) ∧
      ∀ s, root.item key = some (.string s) → strtoll s = some v := by
  refine ⟨fun n hn => ?_, fun s hs => ?_⟩
  · have hn' := hseen.number key n hn
    exact jsonExtractInt64_number hn' (boundedField_eq (by rw [hn']; rfl) h)
  · obtain ⟨hs', h0⟩ := hseen.string key s hs
    exact jsonExtractInt64_string hs' h0 (boundedField_eq (by rw [hs']; rfl) h)

/-- **Everything is exact if and only if everything that is not checked fits.** -/
theorem exact_iff_fits {root : Json} (hseen : SeenAs root seen) (h : requestFields seen = some req) :
    req.Exact root ↔ root.Fits := by
  obtain ⟨hc, hu⟩ := requestFields_eq h
  have hchecked : ∀ {cap : Nat} {hcap : Nat.ble 1 cap = true} {key : Bytes} {f : Field cap},
      checkedField seen cap key hcap = some f →
        ∀ s, root.item key = some (.string s) → f.bytes = s :=
    fun hf s hs => checkedField_eq (hseen.string _ s hs).1 (hseen.string _ s hs).2 hf
  have hhex : ∀ {n : Nat} {key : Bytes} {f : Field (n + 1)}, hexField seen n key = some f →
      ∀ s, root.item key = some (.string s) → f.bytes = s :=
    fun hf s hs => hexField_eq (hseen.string _ s hs).1 (hseen.string _ s hs).2 hf
  have hfits : ∀ {cap : Nat} {hcap : Nat.ble 1 cap = true} {key : Bytes} {f : Field cap},
      f = optionalField seen cap key hcap → ((∀ s, root.item key = some (.string s) → f.bytes = s) ↔
        ∀ s, root.item key = some (.string s) → s.length < cap) := by
    intro cap hcap key f hf
    refine forall₂_congr fun s hs => ?_
    rw [hf]
    exact optionalField_eq_iff (hseen.string _ s hs).1 (hseen.string _ s hs).2 hcap
  have hstrings : (∀ f ∈ req.strings, ∀ s, root.item f.1 = some (.string s) → f.2 = s) ↔
      root.Fits := by
    simp only [OnodeRequest.strings, Json.Fits, uncheckedFields, forall_mem_cons, hfits hu.device,
      hfits hu.command, hfits hu.intentId, hfits hu.intentHash, hfits hu.confidence,
      hfits hu.intentJson, hfits hu.proposedActions, hfits hu.constraints, hfits hu.clientId,
      hfits hu.clientNonce, hfits hu.serverNonce, hfits hu.versions, hfits hu.algorithms,
      iff_true_intro (hhex hc.proposalId), iff_true_intro (hhex hc.signature),
      iff_true_intro (hhex hc.keyId), iff_true_intro (hchecked hc.sessionId),
      iff_true_intro (hchecked hc.artifactType), iff_true_intro (hchecked hc.artifactId),
      iff_true_intro (hchecked hc.artifactHash), iff_true_intro (hchecked hc.artifactContent),
      true_and, not_mem_nil, false_imp_iff, implies_true, and_true]
  refine ⟨fun hexact => hstrings.mp hexact.strings, fun hall => ⟨fun s hs => ?_, hstrings.mpr hall, ?_⟩⟩
  · obtain ⟨hs', h0⟩ := hseen.string _ s hs
    exact requestAction_eq hs' h0 rfl hc.action
  · simp only [OnodeRequest.integers, forall_mem_cons]
    exact ⟨hseen.integer hc.obsVersion, hseen.integer hc.fromSequence, hseen.integer hc.toSequence,
      hseen.integer hc.limit, hseen.integer hc.expiresAtNs, hseen.integer hc.maxCommands,
      hseen.integer hc.supportedChannels, nofun⟩

/-! ## What the actions make of it -/

theorem parseRequest_eq {json : Bytes} {root : Json} (hroot : parseText L json = some root)
    (h : parseRequest L json = some req) :
    SeenAs root root.cutNames ∧ requestFields root.cutNames = some req := by
  unfold parseRequest at h
  split_ifs at h with hnul
  rw [cjsonParse, hroot, Option.map_some] at h
  refine ⟨seenAs_cutNames (zeroFree_of_parseText (Bool.not_eq_true _ ▸ hnul) hroot).nulFree, ?_⟩
  split at h
  · next members hobject =>
    rw [Option.some.inj hobject]
    exact h
  · cases h

/-- An apply names no device and no command. -/
theorem executeAction_apply {uid uid' : UInt32} {id : Field 33}
    (h : executeAction req uid = .ok (.apply id v uid')) :
    req.device.bytes = [] ∧ req.command.bytes = [] := by
  unfold executeAction at h
  split_ifs at h with h1 h2
  · exact ⟨h1.1, h1.2.1⟩
  · cases h

theorem length_offeredList_le {s : Bytes} {default : List UInt8} (h : default.length ≤ 8) :
    (offeredList s default).length ≤ 8 := by
  unfold offeredList
  split_ifs
  · exact h
  · exact length_take_le ..

/-- The counted part of a list in its buffer. -/
theorem take_padded {l : List UInt8} (h : l.length ≤ 8) :
    (padded 8 l).bytes.take (UInt8.ofNat l.length).toNat = l := by
  have hcount : (UInt8.ofNat l.length).toNat = l.length := by
    rw [UInt8.toNat_ofNat']
    omega
  change (l.take 8 ++ _).take _ = l
  rw [hcount, take_of_length_le h, take_left]

/-- What a HELLO offers. -/
theorem sessionHelloAction_lists {now : UInt64} {hello : SessionHello}
    (h : sessionHelloAction req now = .ok hello) :
    hello.versions.bytes.take hello.versionCount.toNat = offeredList req.versions.bytes [2, 1] ∧
      hello.algorithms.bytes.take hello.algorithmCount.toNat =
        offeredList req.algorithms.bytes [1] := by
  unfold sessionHelloAction at h
  split_ifs at h
  cases h
  exact ⟨take_padded (length_offeredList_le (by decide)),
    take_padded (length_offeredList_le (by decide))⟩

/-- What the client says is what is done: no command is taken for an apply, and no list for
none. -/
structure OnodeRequest.Obeyed (req : OnodeRequest) (root : Json) : Prop where
  command : ∀ d c, root.item (text "device") = some (.string d) →
    root.item (text "command") = some (.string c) → d ≠ [] ∨ c ≠ [] →
    ∀ uid id v uid', executeAction req uid ≠ .ok (.apply id v uid')
  versions : ∀ s, root.item (text "versions") = some (.string s) → s ≠ [] →
    ∀ now hello, sessionHelloAction req now = .ok hello →
      hello.versions.bytes.take hello.versionCount.toNat = numberList s
  algorithms : ∀ s, root.item (text "algorithms") = some (.string s) → s ≠ [] →
    ∀ now hello, sessionHelloAction req now = .ok hello →
      hello.algorithms.bytes.take hello.algorithmCount.toNat = numberList s

theorem OnodeRequest.Exact.obeyed {root : Json} (h : req.Exact root) : req.Obeyed root := by
  have hs := h.strings
  simp only [OnodeRequest.strings, forall_mem_cons] at hs
  obtain ⟨device, command, -, -, -, -, -, -, -, -, -, -, -, -, -, -, -, -, -, versions, algorithms,
    -⟩ := hs
  refine ⟨?_, ?_, ?_⟩
  · intro d c hd hc hne uid id v uid' happly
    obtain ⟨hdevice, hcommand⟩ := executeAction_apply happly
    rw [device d hd] at hdevice
    rw [command c hc] at hcommand
    exact hne.elim (absurd hdevice) (absurd hcommand)
  · intro s hs hne now hello hhello
    rw [(sessionHelloAction_lists hhello).1, versions s hs, offeredList, if_neg hne]
  · intro s hs hne now hello hhello
    rw [(sessionHelloAction_lists hhello).2, algorithms s hs, offeredList, if_neg hne]

/-- **What a request says.**  In an accepted request every field has its JSON value, a request with
a device or a command is no apply, and a list is not replaced by the default, exactly if the values
of the fields that are not checked fit. -/
theorem request_exact_iff (L : Libc) (json : Bytes) (root : Json) (req : OnodeRequest)
    (hroot : parseText L json = some root) (hreq : parseRequest L json = some req) :
    (req.Exact root ∧ req.Obeyed root) ↔ root.Fits := by
  obtain ⟨hseen, hfields⟩ := parseRequest_eq hroot hreq
  rw [← exact_iff_fits hseen hfields]
  exact ⟨And.left, fun h => ⟨h, h.obeyed⟩⟩

namespace RequestSample

/-- A C library without numbers: the requests have none. -/
def libc : Libc where
  strtod _ := (.finite 0, 0)
  formatG _ _ := []

/-- A request of strings. -/
def request (members : List (Bytes × Bytes)) : Json :=
  .object (members.map fun m => (m.1, .string m.2))

/-- Its text. -/
def message (members : List (Bytes × Bytes)) : Bytes := printValue libc (request members)

theorem printable {members : List (Bytes × Bytes)}
    (h : ∀ m ∈ members, 0 ∉ m.1 ∧ 0 ∉ m.2) :
    Printable libc nestingLimit (request members) := by
  refine @Printable.object libc 999 _ ?_ ?_ <;> intro m hm
  all_goals obtain ⟨x, hx, rfl⟩ := mem_map.mp hm
  · exact (h x hx).1
  · exact .string (h x hx).2

theorem parseRequest_message (members : List (Bytes × Bytes))
    (h : ∀ m ∈ members, 0 ∉ m.1 ∧ 0 ∉ m.2)
    (hnul : jsonHasNulEscape (message members) = false) :
    parseText libc (message members) = some (request members) ∧
      parseRequest libc (message members) = requestFields (request members) := by
  have hp := printable h
  have h0 : 0 ∉ message members := fun hz =>
    absurd (hp.visible 0 hz) (show ¬ (0x20 : UInt8) ≤ 0 by decide)
  refine ⟨parseText_printValue hp, ?_⟩
  rw [parseRequest, cstr_eq_self h0, hnul, message, cjsonParse_printValue hp]
  rfl

def proposal : Bytes := text "00112233445566778899aabbccddeeff"

/-- A command under a proposal. -/
def command (device line : Bytes) : List (Bytes × Bytes) :=
  [(text "action", text "execute"), (text "device", device), (text "command", line),
    (text "proposal_id", proposal)]

/-- The start of a session. -/
def hello (versions : Bytes) : List (Bytes × Bytes) :=
  [(text "action", text "session_hello"), (text "client_id", text "c1"),
    (text "versions", versions)]

/-- `show version` on `r1`. -/
def short : List (Bytes × Bytes) := command (text "r1") (text "show version")

/-- A device and a command that just do not fit. -/
def long : List (Bytes × Bytes) := command (List.replicate 64 0x61) (List.replicate 1024 0x61)

/-- A list of sixteen versions, with a comma behind the last. -/
def versions : Bytes := (List.replicate 16 (text "1,")).flatten

end RequestSample

open RequestSample in
/-- A command under a proposal is a command. -/
theorem request_exact_iff_short :
    ∃ req, parseText libc (message short) = some (request short) ∧
      parseRequest libc (message short) = some req ∧ (request short).Fits ∧
      req.Exact (request short) ∧ req.Obeyed (request short) ∧
      req.command.bytes = text "show version" ∧ (executeAction req 1000).isOk = true := by
  obtain ⟨hroot, hparse⟩ := parseRequest_message short (by decide +kernel)
    (by decide +kernel)
  have hsome : (requestFields (request short)).map
      (fun req => (req.command.bytes, (executeAction req 1000).isOk)) =
        some (text "show version", true) := by
    decide +kernel
  obtain ⟨req, hreq, hfacts⟩ := map_eq_some_iff.mp hsome
  have hfits : (request short).Fits := by decide +kernel
  obtain ⟨hexact, hobeyed⟩ := (request_exact_iff libc _ _ req hroot (hparse.trans hreq)).mpr hfits
  exact ⟨req, hroot, hparse.trans hreq, hfits, hexact, hobeyed, (Prod.mk.inj hfacts).1,
    (Prod.mk.inj hfacts).2⟩

open RequestSample in
/-- **A command that does not fit becomes an apply, and a list that does not fit the default.** -/
theorem long_request_reshaped :
    (∃ req id, parseText libc (message long) = some (request long) ∧
      parseRequest libc (message long) = some req ∧
      (request long).item (text "device") = some (.string (List.replicate 64 0x61)) ∧
      (request long).item (text "command") = some (.string (List.replicate 1024 0x61)) ∧
      req.device.bytes = [] ∧ req.command.bytes = [] ∧
      executeAction req 1000 = .ok (.apply id 1 1000)) ∧
    ∃ req h, parseText libc (message (hello versions)) = some (request (hello versions)) ∧
      parseRequest libc (message (hello versions)) = some req ∧
      (request (hello versions)).item (text "versions") = some (.string versions) ∧
      numberList versions = [1, 1, 1, 1, 1, 1, 1, 1] ∧
      sessionHelloAction req 0 = .ok h ∧
      h.versions.bytes.take h.versionCount.toNat = [2, 1] := by
  constructor
  · obtain ⟨hroot, hparse⟩ := parseRequest_message long (by decide +kernel)
      (by decide +kernel)
    have hsome : (requestFields (request long)).map
        (fun req => (req.device.bytes, req.command.bytes, req.proposalId.bytes, req.obsVersion)) =
          some ([], [], proposal, 1) := by
      decide +kernel
    obtain ⟨req, hreq, hfacts⟩ := map_eq_some_iff.mp hsome
    simp only [Prod.mk.injEq] at hfacts
    obtain ⟨hdevice, hcommand, hproposal, hversion⟩ := hfacts
    have happly : executeAction req 1000 = .ok (.apply req.proposalId 1 1000) := by
      rw [executeAction, if_pos ⟨hdevice, hcommand, hproposal ▸ by decide +kernel⟩, hversion]
    exact ⟨req, req.proposalId, hroot, hparse.trans hreq, rfl, rfl, hdevice, hcommand, happly⟩
  · obtain ⟨hroot, hparse⟩ := parseRequest_message (hello versions) (by decide +kernel)
      (by decide +kernel)
    have hsome : (requestFields (request (hello versions))).map
        (fun req => (req.clientId.bytes, req.versions.bytes)) = some (text "c1", []) := by
      decide +kernel
    obtain ⟨req, hreq, hfacts⟩ := map_eq_some_iff.mp hsome
    obtain ⟨hclient, hversions⟩ := Prod.mk.inj hfacts
    obtain ⟨h, hh⟩ : ∃ h, sessionHelloAction req 0 = .ok h :=
      ⟨_, if_neg (hclient ▸ by decide +kernel)⟩
    have hlist := (sessionHelloAction_lists hh).1
    rw [hversions] at hlist
    exact ⟨req, h, hroot, hparse.trans hreq, rfl, by decide +kernel, hh, hlist⟩

end Virp
