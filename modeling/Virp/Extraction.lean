import Mathlib.Data.List.Infix
import Virp.Python

/-! # The claim verifier's extractor

A claim names a value in the output of a device by a path `category.sub[key].field`.
`extract_value` looks for the key as a piece of text of a line, so a longer word that contains it is
taken for the key.
-/
namespace Virp

/-- The parts of a path that are used. -/
structure ExtractPath where
  key : PyStr
  field : PyStr

/-- The boundaries of `str.splitlines`. -/
def isLineEnd (c : Char) : Bool :=
  [0x0A, 0x0B, 0x0C, 0x0D, 0x1C, 0x1D, 0x1E, 0x85, 0x2028, 0x2029].contains c.toNat

/-- `raw_output.splitlines()`, but for the empty lines, which have no key. -/
def outputLines (raw : PyStr) : List PyStr := (raw.splitOnP isLineEnd).filter (· ≠ [])

-- `same` says which characters are equal for `re.IGNORECASE`
variable (U : PyText) (same : Char → Char → Bool)

/-- `\s*[=:]\s*(\S+)`, at the beginning of a text. -/
def assignedValue (s : PyStr) : Option PyStr :=
  match s.dropWhile U.isSpace with
  | [] => none
  | c :: rest =>
    let value := (rest.dropWhile U.isSpace).takeWhile (!U.isSpace ·)
    if (c = '=' ∨ c = ':') ∧ value ≠ [] then some value else none

/-- The search for `field\s*[=:]\s*(\S+)`. -/
def searchField (field : PyStr) : PyStr → Option PyStr
  | [] => none
  | c :: s =>
    let here :=
      if field.length ≤ s.length + 1 ∧ (field.zip (c :: s)).all (fun x => same x.1 x.2) then
        assignedValue U ((c :: s).drop field.length)
      else none
    here.or (searchField field s)

variable (raw : PyStr) (p : ExtractPath)

/-- What the loop returns at a line. -/
def lineValue (line : PyStr) : Option PyStr :=
  if p.key <:+: line then
    if U.lower p.field = "state".toList ∧ U.split line ≠ [] then (U.split line).getLast?
    else searchField U same p.field line
  else none

/-- `extract_value`, for such a path. -/
def extractValue : Option PyStr :=
  if p.field = "exists".toList then some (if p.key <:+: raw then "true" else "false").toList
  else (outputLines raw).findSome? (lineValue U same p)

/-- The key stands in the line with spaces or nothing around it. -/
def wholeIn (key line : PyStr) : Bool :=
  line.inits.any fun a => a.getLast?.all U.isSpace && key.isPrefixOf (line.drop a.length) &&
    (line.drop (a.length + key.length)).head?.all U.isSpace

/-- A value is taken from a line in which the whole key stands; for `exists`, there is one. -/
structure TakenWhole : Prop where
  found : p.field = "exists".toList → extractValue U same raw p = some "true".toList →
    ∃ line ∈ outputLines raw, wholeIn U p.key line = true
  taken : p.field ≠ "exists".toList → ∀ v, extractValue U same raw p = some v →
    ∃ pre line post, outputLines raw = pre ++ line :: post ∧ lineValue U same p line = some v ∧
      (∀ l ∈ pre, lineValue U same p l = none) ∧ wholeIn U p.key line = true

/-! ## When a line gives a value -/

/-- The text begins with `=` or `:` and something that is no space, with spaces around the sign. -/
def AssignsHere (s : PyStr) : Prop :=
  ∃ gap sign gap' c rest, s = gap ++ sign :: (gap' ++ c :: rest) ∧
    (gap.all U.isSpace = true ∧ U.isSpace sign = false) ∧ (sign = '=' ∨ sign = ':') ∧
    gap'.all U.isSpace = true ∧ U.isSpace c = false

/-- Somewhere in the line the field's name is assigned something. -/
def Assigns (field line : PyStr) : Prop :=
  ∃ before name rest, line = before ++ (name ++ rest) ∧
    (field.length = name.length ∧ (field.zip name).all (fun x => same x.1 x.2) = true) ∧
    AssignsHere U rest

/-- The line has the key and a last word, if the field is `state`, or assigns the field. -/
def GivesValue (line : PyStr) : Prop :=
  p.key <:+: line ∧
    ((U.lower p.field = "state".toList ∧ U.split line ≠ []) ∨ Assigns U same p.field line)

variable {U} {same} {p} {s field line : PyStr}

theorem dropWhile_eq_cons_iff {f : Char → Bool} {c : Char} {t : PyStr} :
    s.dropWhile f = c :: t ↔ ∃ gap, s = gap ++ c :: t ∧ gap.all f = true ∧ f c = false := by
  constructor
  · intro h
    refine ⟨s.takeWhile f, ?_, List.all_takeWhile, ?_⟩
    · rw [← h, List.takeWhile_append_dropWhile]
    · simpa [h] using List.head?_dropWhile_not f s
  · rintro ⟨gap, rfl, hgap, hc⟩
    rw [List.dropWhile_append_of_pos (by simpa using hgap),
      List.dropWhile_cons_of_neg (by simpa using hc)]

theorem assignedValue_isSome_iff : (assignedValue U s).isSome = true ↔ AssignsHere U s := by
  -- what is left behind the spaces begins with no space, so the value is not empty
  have hvalue (rest : PyStr) : (rest.dropWhile U.isSpace).takeWhile (!U.isSpace ·) ≠ [] ↔
      ∃ c t, rest.dropWhile U.isSpace = c :: t := by
    cases h : rest.dropWhile U.isSpace with
    | nil => simp
    | cons c t =>
      obtain ⟨-, -, -, hc⟩ := dropWhile_eq_cons_iff.mp h
      simp [hc]
  constructor
  · intro h
    unfold assignedValue at h
    split at h
    · cases h
    · next sign rest hdrop =>
      dsimp only at h
      split_ifs at h with hif
      · obtain ⟨c, t, hrest⟩ := (hvalue rest).mp hif.2
        obtain ⟨gap, rfl, hgap⟩ := dropWhile_eq_cons_iff.mp hdrop
        obtain ⟨gap', rfl, hgap'⟩ := dropWhile_eq_cons_iff.mp hrest
        exact ⟨gap, sign, gap', c, t, rfl, hgap, hif.1, hgap'⟩
      · cases h
  · rintro ⟨gap, sign, gap', c, rest, rfl, hgap, hsign, hgap'⟩
    unfold assignedValue
    rw [dropWhile_eq_cons_iff.mpr ⟨gap, rfl, hgap⟩]
    have hrest := (hvalue _).mpr ⟨c, rest, dropWhile_eq_cons_iff.mpr ⟨gap', rfl, hgap'⟩⟩
    simp only [if_pos (show _ ∧ _ from ⟨hsign, hrest⟩), Option.isSome_some]

theorem searchField_isSome_iff :
    (searchField U same field s).isSome = true ↔ Assigns U same field s := by
  have hzip (name rest : PyStr) (h : field.length = name.length) :
      field.zip (name ++ rest) = field.zip name := by
    rw [← List.append_nil field, List.zip_append h, List.append_nil, List.zip_nil_left,
      List.append_nil]
  induction s with
  | nil =>
    refine iff_of_false (by simp [searchField]) ?_
    rintro ⟨before, name, rest, hs, -, gap, sign, gap', c, t, rfl, -⟩
    simp at hs
  | cons c s ih =>
    rw [searchField, Option.isSome_or, Bool.or_eq_true]
    refine (or_congr_right ih).trans ?_
    constructor
    · rintro (hhere | ⟨before, name, rest, rfl, h⟩)
      · split_ifs at hhere with hname
        · have hlen : field.length = ((c :: s).take field.length).length := by
            simpa using hname.1
          refine ⟨[], (c :: s).take field.length, (c :: s).drop field.length, by simp,
            ⟨hlen, ?_⟩, assignedValue_isSome_iff.mp hhere⟩
          rw [← hzip _ ((c :: s).drop field.length) hlen, List.take_append_drop]
          exact hname.2
        · cases hhere
      · exact ⟨c :: before, name, rest, rfl, h⟩
    · rintro ⟨before, name, rest, hs, ⟨hlen, hsame⟩, hassign⟩
      cases before with
      | nil =>
        have hlong : field.length ≤ s.length + 1 := by
          rw [← List.length_cons (a := c), hs, hlen]
          simp
        rw [List.nil_append] at hs
        rw [hs, if_pos ⟨hlong, by rwa [hzip _ _ hlen]⟩, hlen, List.drop_left]
        exact .inl (assignedValue_isSome_iff.mpr hassign)
      | cons b before =>
        obtain ⟨rfl, rfl⟩ := List.cons.inj hs
        exact .inr ⟨before, name, rest, rfl, ⟨hlen, hsame⟩, hassign⟩

theorem lineValue_isSome_iff :
    (lineValue U same p line).isSome = true ↔ GivesValue U same p line := by
  unfold lineValue GivesValue
  split_ifs with hkey hstate
  · exact iff_of_true (by simp [hstate.2]) ⟨hkey, .inl hstate⟩
  · rw [searchField_isSome_iff, and_iff_right hkey, or_iff_right hstate]
  · exact iff_of_false (by simp) fun h => hkey h.1

variable (U same p)

/-- **When the key is taken as a whole.**  For `exists`, if a text that contains the key has it as a
whole in some line; else, if a line that gives a value and has the key only inside longer words
stands behind one that gives a value and has the whole key. -/
theorem extract_whole_iff : TakenWhole U same raw p ↔
    (p.field = "exists".toList → p.key <:+: raw →
      ∃ line ∈ outputLines raw, wholeIn U p.key line = true) ∧
    (p.field ≠ "exists".toList → ∀ pre line post, outputLines raw = pre ++ line :: post →
      GivesValue U same p line → wholeIn U p.key line = false →
      ∃ l ∈ pre, GivesValue U same p l ∧ wholeIn U p.key l = true) := by
  simp only [← lineValue_isSome_iff]
  have hexists (h : p.field = "exists".toList) :
      extractValue U same raw p = some "true".toList ↔ p.key <:+: raw := by
    rw [extractValue, if_pos h]
    split_ifs with hkey <;> simp [hkey]
  have hloop (h : p.field ≠ "exists".toList) :
      extractValue U same raw p = (outputLines raw).findSome? (lineValue U same p) := if_neg h
  constructor
  · intro h
    refine ⟨fun hf hkey => h.found hf ((hexists hf).mpr hkey), ?_⟩
    intro hf pre line post hl hgives hpart
    have hline : line ∈ outputLines raw := by simp [hl]
    obtain ⟨v, hv⟩ := Option.isSome_iff_exists.mp
      (List.findSome?_isSome_iff.mpr ⟨line, hline, hgives⟩)
    obtain ⟨first, l, rest, hl', hlv, hnone, hwhole⟩ := h.taken hf v ((hloop hf).trans hv)
    -- the line the value is taken from is this one or stands before it
    rcases List.append_eq_append_iff.mp (hl.symm.trans hl') with ⟨a, rfl, ha⟩ | ⟨a, rfl, ha⟩
    · cases a with
      | nil =>
        obtain ⟨rfl, -⟩ := List.cons.inj ha
        rw [hwhole] at hpart
        cases hpart
      | cons b a =>
        obtain ⟨rfl, -⟩ := List.cons.inj ha
        simp [hnone line (by simp)] at hgives
    · cases a with
      | nil =>
        obtain ⟨rfl, -⟩ := List.cons.inj ha
        rw [hwhole] at hpart
        cases hpart
      | cons b a =>
        obtain ⟨rfl, -⟩ := List.cons.inj ha
        exact ⟨l, by simp, by simp [hlv], hwhole⟩
  · rintro ⟨hfound, htaken⟩
    refine ⟨fun hf h => hfound hf ((hexists hf).mp h), fun hf v hv => ?_⟩
    obtain ⟨pre, line, post, hl, hlv, hnone⟩ :=
      List.findSome?_eq_some_iff.mp ((hloop hf).symm.trans hv)
    refine ⟨pre, line, post, hl, hlv, hnone, ?_⟩
    by_contra hpart
    obtain ⟨l, hmem, hgives, -⟩ := htaken hf pre line post hl (by simp [hlv]) (by simpa using hpart)
    simp [hnone l hmem] at hgives

/-- The neighbour `10.0.0.20` is established, so the verifier says that `10.0.0.2` is. -/
theorem extract_longer_neighbor :
    ¬ TakenWhole ⟨Char.isWhitespace, Char.isDigit, List.map Char.toLower⟩ (· == ·)
      "10.0.0.20  4  65002  Established".toList ⟨"10.0.0.2".toList, "state".toList⟩ := by
  rw [extract_whole_iff]
  intro h
  obtain ⟨l, hl, -⟩ := h.2 (by decide) [] "10.0.0.20  4  65002  Established".toList []
    (by decide +kernel) ⟨by decide, .inl (by decide +kernel)⟩ (by decide +kernel)
  cases hl

end Virp
