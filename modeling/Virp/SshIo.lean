import Virp.Bytes
import Virp.Library.Words

/-! # Reading a command's output up to the prompt

The SSH drivers read the output of a command from a shell that never ends.  The only sign that the
output is complete is the prompt, which is learned when the connection is made.  A read goes on until
the bytes received end in the prompt at the start of a line; whatever else ends it is an error.  The
transport hands over the bytes in pieces, and the check runs after each of them.
-/
namespace Virp

open List

/-! ## Source -/

def isTrailingPad (c : UInt8) : Bool := c == 0x20 || c == 0x09 || c == 0x0D

def isLineBreak (c : UInt8) : Bool := c == 0x0A || c == 0x0D

/-- `tail_is_prompt`: where the prompt starts that the buffer ends in. -/
def tailIsPrompt (buf prompt : Bytes) : Option Nat :=
  if prompt.length = 0 ∨ buf.length < prompt.length then none
  else
    let body := buf.rdropWhile isTrailingPad
    if body.length < prompt.length then none
    else
      let start := body.length - prompt.length
      if body.drop start ≠ prompt then none
      else if start ≠ 0 ∧ (body.take start).getLast?.any isLineBreak = false then none
      else some start

/-- What a call of the transport's `read` gives: bytes (at least one), nothing yet, the end of the
channel, or an error. -/
inductive SshRead where
  | data (first : UInt8) (more : Bytes)
  | again
  | eof
  | error

def pollIntervalMs : Nat := 25

/-- The loop of `virp_ssh_read_until_prompt`: what was received, and where the prompt starts if it was
found.  A transport that has nothing more to say is at its end. -/
def readLoop (prompt : Bytes) (bufLen timeoutMs : Nat) : List SshRead → Bytes → Nat → Bytes × Option Nat
  | [], buf, _ => (buf, none)
  | r :: reads, buf, idleMs =>
    if buf.length < bufLen - 1 ∧ idleMs < timeoutMs then
      match r with
      | .data first more =>
        -- no more bytes are taken than there is room for
        let buf' := buf ++ (first :: more).take (bufLen - buf.length - 1)
        match tailIsPrompt buf' prompt with
        | some start => (buf', some start)
        | none => readLoop prompt bufLen timeoutMs reads buf' 0
      | .again => readLoop prompt bufLen timeoutMs reads buf (idleMs + pollIntervalMs)
      | .eof => (buf, none)
      | .error => (buf, none)
    else (buf, none)

/-- The result codes of a read. -/
inductive SshStatus where
  | ok | nullPtr | noPrompt
deriving DecidableEq

/-- `virp_ssh_prompt_t`. -/
structure SshPrompt where
  prompt : Bytes
  learned : Bool
deriving DecidableEq

/-- `virp_ssh_read_until_prompt`: the result code and the bytes it leaves in the buffer. -/
def sshReadUntilPrompt (prompt : SshPrompt) (bufLen timeoutMs : Nat) (reads : List SshRead) :
    SshStatus × Bytes :=
  if bufLen < 2 then (.nullPtr, [])
  else if prompt.learned = false ∨ prompt.prompt.length = 0 then (.noPrompt, [])
  else
    match readLoop prompt.prompt bufLen timeoutMs reads [] 0 with
    | (buf, none) => (.noPrompt, buf)
    | (buf, some start) => (.ok, (buf.take start).rdropWhile isLineBreak)

def sshMaxPromptLen : Nat := 128

/-- The last line of what came back, as `read_quiescent_last_line` takes it. -/
def quiescentLastLine (buf : Bytes) : Option Bytes :=
  let body := buf.rdropWhile fun c => isTrailingPad c || c == 0x0A
  if body.length = 0 then none
  else
    let line := body.rtakeWhile fun c => !isLineBreak c
    if line.length = 0 ∨ sshMaxPromptLen ≤ line.length then none else some line

/-- `virp_ssh_learn_prompt`: the last line of both answers, if they agree. -/
def sshLearnPrompt (answer₁ answer₂ : Bytes) : SshPrompt :=
  match quiescentLastLine answer₁, quiescentLastLine answer₂ with
  | some first, some second => if first = second then ⟨first, true⟩ else ⟨[], false⟩
  | _, _ => ⟨[], false⟩

/-- The prompt starts a line behind `before`. -/
def LineStart (before : Bytes) : Prop := before = [] ∨ ∃ c ∈ before.getLast?, isLineBreak c = true

/-- `text` ends in the prompt at the start of a line, but for padding. -/
structure EndsInPrompt (prompt buf before : Bytes) : Prop where
  split : ∃ pad : Bytes, buf = before ++ (prompt ++ pad) ∧ ∀ c ∈ pad, isTrailingPad c = true
  start : LineStart before

/-- What learning makes sure of: the prompt is not empty and does not end in padding. -/
structure Promptable (prompt : Bytes) : Prop where
  ne_nil : prompt ≠ []
  last : ∀ c ∈ prompt.getLast?, isTrailingPad c = false

variable {buf before stream : Bytes} {start idleMs : Nat} {reads : List SshRead}

theorem tailIsPrompt_of_ends {prompt : Bytes} (hp : Promptable prompt)
    (h : EndsInPrompt prompt buf before) : tailIsPrompt buf prompt = some before.length := by
  obtain ⟨⟨pad, rfl, hpad⟩, hstart⟩ := h
  have hbody : (before ++ (prompt ++ pad)).rdropWhile isTrailingPad = before ++ prompt := by
    rw [← append_assoc]
    refine Words.rdropWhile_append_all (fun c hc => hp.last c ?_) hpad
    rwa [getLast?_append_of_ne_nil _ hp.ne_nil] at hc
  have hpos := length_pos_iff.mpr hp.ne_nil
  unfold tailIsPrompt
  rw [if_neg (by simp only [length_append]; omega)]
  simp only [hbody, length_append]
  rw [if_neg (by omega), Nat.add_sub_cancel, drop_left, if_neg (by simp), take_left, if_neg]
  rintro ⟨hne, hlast⟩
  rcases hstart with rfl | ⟨c, hc, hbreak⟩
  · simp at hne
  rw [Option.mem_def.mp hc] at hlast
  simp [hbreak] at hlast

theorem ends_of_tailIsPrompt {prompt : Bytes} (h : tailIsPrompt buf prompt = some start) :
    EndsInPrompt prompt buf (buf.take start) := by
  obtain ⟨pad, hsplit⟩ := List.rdropWhile_prefix isTrailingPad buf
  have hpad : ∀ c ∈ pad, isTrailingPad c = true := by
    intro c hc
    have htake : buf.rdropWhile isTrailingPad ++ buf.rtakeWhile isTrailingPad = buf :=
      rdropWhile_append_rtakeWhile
    rw [← append_cancel_left (htake.trans hsplit.symm)] at hc
    exact mem_rtakeWhile_imp hc
  unfold tailIsPrompt at h
  simp only at h
  generalize buf.rdropWhile isTrailingPad = body at h hsplit
  split_ifs at h with h₁ h₂ h₃ h₄
  cases h
  set n := body.length - prompt.length
  have hle : n ≤ body.length := Nat.sub_le _ _
  have htake : buf.take n = body.take n := by
    rw [← hsplit, take_append_of_le_length hle]
  rw [htake]
  refine ⟨⟨pad, ?_, hpad⟩, ?_⟩
  · rw [← hsplit]
    conv_lhs => rw [← take_append_drop n body]
    rw [not_not.mp h₃, append_assoc]
  rcases eq_or_ne n 0 with h0 | h0
  · exact .inl (by rw [h0, take_zero])
  refine .inr ?_
  have hany : (body.take n).getLast?.any isLineBreak = true := by
    simpa [h0] using h₄
  cases hlast : (body.take n).getLast? with
  | none => simp [hlast] at hany
  | some c => exact ⟨c, rfl, by simpa [hlast] using hany⟩

/-- The place of the prompt at the end is determined. -/
theorem EndsInPrompt.unique {prompt a b : Bytes} (hp : Promptable prompt)
    (ha : EndsInPrompt prompt buf a) (hb : EndsInPrompt prompt buf b) : a = b := by
  have hlen : a.length = b.length := by
    have := (tailIsPrompt_of_ends hp ha).symm.trans (tailIsPrompt_of_ends hp hb)
    exact Option.some.inj this
  obtain ⟨⟨x, hx, -⟩, -⟩ := ha
  obtain ⟨⟨y, hy, -⟩, -⟩ := hb
  exact (append_inj (hx.symm.trans hy) hlen).1

/-- A prompt that was learned at connect. -/
structure LearnedPrompt (prompt : SshPrompt) : Prop where
  answers : ∃ answer₁ answer₂ : Bytes, prompt = sshLearnPrompt answer₁ answer₂
  learned : prompt.learned = true

/-- A learned prompt is one that reads can end in. -/
theorem promptable_of_learned {prompt : SshPrompt} (hprompt : LearnedPrompt prompt) :
    Promptable prompt.prompt := by
  obtain ⟨⟨answer₁, answer₂, rfl⟩, h⟩ := hprompt
  unfold sshLearnPrompt at h ⊢
  cases h₁ : quiescentLastLine answer₁ with
  | none => simp [h₁] at h
  | some first =>
    cases h₂ : quiescentLastLine answer₂ with
    | none => simp [h₁, h₂] at h
    | some second =>
      simp only [h₁, h₂] at h ⊢
      split_ifs at h ⊢ with heq
      unfold quiescentLastLine at h₁
      simp only at h₁
      have hlast := rdropWhile_last_not (fun c => isTrailingPad c || c == 0x0A) answer₁
      generalize answer₁.rdropWhile (fun c => isTrailingPad c || c == 0x0A) = body at h₁ hlast
      split_ifs at h₁ with hbody hline
      obtain rfl := Option.some.inj h₁
      have hne : body.rtakeWhile (fun c => !isLineBreak c) ≠ [] := fun hnil => hline (.inl (by rw [hnil]; rfl))
      refine ⟨hne, fun c hc => ?_⟩
      obtain ⟨t, ht⟩ := rtakeWhile_suffix (fun c => !isLineBreak c) body
      have hbne : body ≠ [] := fun hnil => hbody (by rw [hnil]; rfl)
      have hclast : c ∈ body.getLast? := by
        rw [← ht, getLast?_append_of_ne_nil _ hne]
        exact hc
      rw [getLast?_eq_some_getLast hbne, Option.mem_some_iff] at hclast
      have := hlast hbne
      rw [hclast] at this
      simp only [Bool.or_eq_true, not_or] at this
      simpa using this.1

/-- The bytes that the transport hands over. -/
def delivered : List SshRead → Bytes
  | [] => []
  | .data first more :: reads => first :: more ++ delivered reads
  | .again :: reads => delivered reads
  | .eof :: _ => []
  | .error :: _ => []

variable {prompt : Bytes} {bufLen timeoutMs : Nat}

/-- A full buffer ends the loop. -/
theorem readLoop_full (h : ¬buf.length < bufLen - 1) (reads : List SshRead) (idleMs : Nat) :
    readLoop prompt bufLen timeoutMs reads buf idleMs = (buf, none) := by
  cases reads with
  | nil => rfl
  | cons r reads => cases r <;> simp [readLoop, h]

/-- What is in the buffer was handed over, in this order. -/
theorem readLoop_received (reads : List SshRead) (buf : Bytes) (idleMs : Nat) :
    ∃ t, (readLoop prompt bufLen timeoutMs reads buf idleMs).1 = buf ++ t ∧ t <+: delivered reads := by
  induction reads generalizing buf idleMs with
  | nil => exact ⟨[], by simp [readLoop], nil_prefix⟩
  | cons r reads ih =>
    by_cases hgo : buf.length < bufLen - 1 ∧ idleMs < timeoutMs
    · cases r with
      | data first more =>
        simp only [readLoop, if_pos hgo, delivered]
        by_cases hroom : (first :: more).length ≤ bufLen - buf.length - 1
        · rw [take_of_length_le hroom]
          cases tailIsPrompt (buf ++ first :: more) prompt with
          | some start => exact ⟨first :: more, rfl, prefix_append _ _⟩
          | none =>
            obtain ⟨t, ht, hpre⟩ := ih (buf ++ first :: more) 0
            exact ⟨first :: more ++ t, by simpa using ht, (prefix_append_right_inj _).mpr hpre⟩
        · -- the buffer is full with a part of the piece
          have hpart : (first :: more).take (bufLen - buf.length - 1) <+: first :: more ++ delivered reads :=
            (List.take_prefix _ _).trans (prefix_append _ _)
          have hfull : ¬(buf ++ (first :: more).take (bufLen - buf.length - 1)).length < bufLen - 1 := by
            rw [length_append, length_take]
            omega
          cases tailIsPrompt (buf ++ (first :: more).take (bufLen - buf.length - 1)) prompt with
          | some start => exact ⟨_, rfl, hpart⟩
          | none =>
            simp only
            rw [readLoop_full hfull]
            exact ⟨_, rfl, hpart⟩
      | again =>
        simp only [readLoop, if_pos hgo, delivered]
        exact ih buf _
      | eof => exact ⟨[], by simp [readLoop, hgo], nil_prefix⟩
      | error => exact ⟨[], by simp [readLoop, hgo], nil_prefix⟩
    · refine ⟨[], ?_, nil_prefix⟩
      cases r <;> simp [readLoop, hgo]

theorem readLoop_found {buf' : Bytes}
    (h : readLoop prompt bufLen timeoutMs reads buf idleMs = (buf', some start)) :
    tailIsPrompt buf' prompt = some start := by
  induction reads generalizing buf idleMs with
  | nil => cases h
  | cons r reads ih =>
    by_cases hgo : buf.length < bufLen - 1 ∧ idleMs < timeoutMs
    · cases r with
      | data first more =>
        simp only [readLoop, if_pos hgo] at h
        split at h
        · rename_i s hs
          obtain ⟨rfl, rfl⟩ := Prod.mk.inj h |>.imp_right Option.some.inj
          exact hs
        · exact ih h
      | again =>
        simp only [readLoop, if_pos hgo] at h
        exact ih h
      | eof => simp [readLoop, hgo] at h
      | error => simp [readLoop, hgo] at h
    · cases r <;> simp [readLoop, hgo] at h

/-- The pieces come before the time runs out, where `idleMs` have gone by. -/
def Patient (timeoutMs : Nat) : Nat → List SshRead → Prop
  | _, [] => True
  | idleMs, .data _ _ :: reads => idleMs < timeoutMs ∧ Patient timeoutMs 0 reads
  | idleMs, .again :: reads => Patient timeoutMs (idleMs + pollIntervalMs) reads
  | _, .eof :: _ => True
  | _, .error :: _ => True

/-- A stream that ends in the prompt, which stands at no other start of a line. -/
structure PromptedStream (prompt stream before : Bytes) : Prop where
  ends : EndsInPrompt prompt stream before
  only : ∀ a b, stream = a ++ (prompt ++ b) → LineStart a → ∀ c ∈ b, isTrailingPad c = true

/-- In a part of such a stream the prompt is found at its place only. -/
theorem PromptedStream.found {rest : Bytes} (hp : Promptable prompt)
    (h : PromptedStream prompt stream before) (hsplit : stream = buf ++ rest)
    (hfound : tailIsPrompt buf prompt = some start) : buf.take start = before := by
  obtain ⟨⟨pad, hpad, -⟩, hstart⟩ := ends_of_tailIsPrompt hfound
  have hocc : stream = buf.take start ++ (prompt ++ (pad ++ rest)) := by
    rw [hsplit]
    conv_lhs => rw [hpad]
    simp
  exact EndsInPrompt.unique hp ⟨⟨_, hocc, h.only _ _ hocc hstart⟩, hstart⟩ h.ends

theorem Patient.idle_lt (h : Patient timeoutMs idleMs reads) (hne : delivered reads ≠ []) :
    idleMs < timeoutMs := by
  induction reads generalizing idleMs with
  | nil => exact absurd rfl hne
  | cons r reads ih =>
    cases r with
    | data first more => exact h.1
    | again => exact lt_of_le_of_lt (Nat.le_add_right _ _) (ih h hne)
    | eof => exact absurd rfl hne
    | error => exact absurd rfl hne

/-- Where the loop finds the prompt does not depend on the pieces of a stream. -/
theorem readLoop_stream (hp : Promptable prompt) (h : PromptedStream prompt stream before)
    (hreads : delivered reads = stream)
    (hfound : readLoop prompt bufLen timeoutMs reads [] 0 = (buf, some start)) :
    buf.take start = before := by
  obtain ⟨t, ht, rest, hrest⟩ := @readLoop_received prompt bufLen timeoutMs reads [] 0
  rw [hfound, nil_append] at ht
  subst ht
  exact h.found hp (hreads.symm.trans hrest.symm) (readLoop_found hfound)

/-- The loop finds the prompt of a stream that comes in time. -/
theorem readLoop_patient (hp : Promptable prompt) (h : PromptedStream prompt stream before)
    (hroom : stream.length < bufLen) (hsplit : stream = buf ++ delivered reads)
    (hpatient : Patient timeoutMs idleMs reads) (hne : delivered reads ≠ []) :
    ∃ buf' start, readLoop prompt bufLen timeoutMs reads buf idleMs = (buf', some start) := by
  have hlen := congrArg List.length hsplit
  have hpos := length_pos_iff.mpr hne
  rw [length_append] at hlen
  have hgo : buf.length < bufLen - 1 ∧ idleMs < timeoutMs := ⟨by omega, hpatient.idle_lt hne⟩
  induction reads generalizing buf idleMs with
  | nil => exact absurd rfl hne
  | cons r reads ih =>
    cases r with
    | data first more =>
      rw [delivered, length_append] at hlen
      simp only [readLoop, if_pos hgo]
      rw [take_of_length_le (by omega)]
      cases hfound : tailIsPrompt (buf ++ first :: more) prompt with
      | some start => exact ⟨_, _, rfl⟩
      | none =>
        have hsplit' : stream = (buf ++ first :: more) ++ delivered reads := by
          rw [hsplit, delivered]
          simp
        have hne' : delivered reads ≠ [] := by
          intro hnil
          rw [hnil, append_nil] at hsplit'
          rw [← hsplit', tailIsPrompt_of_ends hp h.ends] at hfound
          cases hfound
        have hlen' := congrArg List.length hsplit'
        have hpos' := length_pos_iff.mpr hne'
        rw [length_append] at hlen'
        exact ih hsplit' hpatient.2 hne' hlen' hpos' ⟨by omega, hpatient.2.idle_lt hne'⟩
    | again =>
      simp only [readLoop, if_pos hgo]
      exact ih hsplit hpatient hne hlen hpos ⟨hgo.1, Patient.idle_lt hpatient hne⟩
    | eof => exact absurd rfl hne
    | error => exact absurd rfl hne

/-- What was received is the output, line breaks, the prompt at the start of a line, and padding. -/
structure OutputThenPrompt (prompt received out : Bytes) : Prop where
  split : ∃ breaks pad : Bytes, received = out ++ (breaks ++ (prompt ++ pad)) ∧
    (∀ c ∈ breaks, isLineBreak c = true) ∧ (∀ c ∈ pad, isTrailingPad c = true) ∧ LineStart (out ++ breaks)
  trimmed : ∀ c ∈ out.getLast?, isLineBreak c = false

theorem outputThenPrompt_of_ends (h : EndsInPrompt prompt buf before) :
    OutputThenPrompt prompt buf (before.rdropWhile isLineBreak) := by
  obtain ⟨⟨pad, hsplit, hpad⟩, hstart⟩ := h
  have hparts : before.rdropWhile isLineBreak ++ before.rtakeWhile isLineBreak = before :=
    rdropWhile_append_rtakeWhile
  refine ⟨⟨before.rtakeWhile isLineBreak, pad, ?_, fun c hc => mem_rtakeWhile_imp hc, hpad, ?_⟩, ?_⟩
  · rw [← append_assoc, hparts, hsplit]
  · rwa [hparts]
  · intro c hc
    have hne : before.rdropWhile isLineBreak ≠ [] := fun hnil => by simp [hnil] at hc
    have := rdropWhile_last_not isLineBreak before hne
    rw [getLast?_eq_some_getLast hne, Option.mem_some_iff] at hc
    simpa [hc] using this

end Virp
