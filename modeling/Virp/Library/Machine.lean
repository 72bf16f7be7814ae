import Mathlib.Data.List.Basic

/-! # Machines

A machine takes events one after the other: each changes its state and has an answer.
This file develops what is said of whole runs of a machine, knowing only what one step
does: the state a run ends in, its trace of events and answers, and the rules that
carry a property of one step to every run.
-/
namespace Machine

open List

variable {S E O : Type*}

/-- The state a run of `events` from `s` ends in. -/
def final (step : S → E → S × O) : S → List E → S
  | s, [] => s
  | s, e :: events => final step (step s e).1 events

/-- The events of a run, each with its answer. -/
def trace (step : S → E → S × O) : S → List E → List (E × O)
  | _, [] => []
  | s, e :: events => (e, (step s e).2) :: trace step (step s e).1 events

/-- Every step of the run meets the condition in the state it is taken from. -/
def Steps (step : S → E → S × O) (ok : S → E → Prop) : S → List E → Prop
  | _, [] => True
  | s, e :: events => ok s e ∧ Steps step ok (step s e).1 events

instance (step : S → E → S × O) (ok : S → E → Prop) [∀ s e, Decidable (ok s e)] :
    ∀ s events, Decidable (Steps step ok s events)
  | _, [] => .isTrue trivial
  | s, e :: events =>
    have := instDecidableSteps step ok (step s e).1 events
    inferInstanceAs (Decidable (ok s e ∧ Steps step ok (step s e).1 events))

variable {step : S → E → S × O} {ok : S → E → Prop} {s : S} {e : E} {events more : List E}

@[simp] theorem final_nil : final step s [] = s := rfl

@[simp] theorem final_cons :
    final step s (e :: events) = final step (step s e).1 events := rfl

@[simp] theorem trace_nil : trace step s [] = [] := rfl

@[simp] theorem trace_cons :
    trace step s (e :: events) = (e, (step s e).2) :: trace step (step s e).1 events := rfl

@[simp] theorem steps_nil : Steps step ok s [] := trivial

@[simp] theorem steps_cons :
    Steps step ok s (e :: events) ↔ ok s e ∧ Steps step ok (step s e).1 events := Iff.rfl

@[simp] theorem final_append :
    final step s (events ++ more) = final step (final step s events) more := by
  induction events generalizing s with
  | nil => rfl
  | cons e events ih => exact ih

@[simp] theorem trace_append :
    trace step s (events ++ more) =
      trace step s events ++ trace step (final step s events) more := by
  induction events generalizing s with
  | nil => rfl
  | cons e events ih => simp [ih]

/-- The parts of a trace are the traces of the parts of its run. -/
theorem trace_eq_append {xs ys : List (E × O)} : trace step s events = xs ++ ys ↔
      ∃ before after, events = before ++ after ∧ trace step s before = xs ∧
        trace step (final step s before) after = ys := by
  constructor
  · induction xs generalizing s events with
    | nil => exact fun h => ⟨[], events, rfl, rfl, h⟩
    | cons x xs ih =>
      intro h
      cases events with
      | nil => cases h
      | cons e events =>
        obtain ⟨hx, hrest⟩ := cons.inj h
        obtain ⟨before, after, rfl, hxs, hys⟩ := ih hrest
        exact ⟨e :: before, after, rfl, congrArg₂ List.cons hx hxs, hys⟩
  · rintro ⟨before, after, rfl, rfl, rfl⟩
    exact trace_append

@[simp] theorem steps_append :
    Steps step ok s (events ++ more) ↔
      Steps step ok s events ∧ Steps step ok (final step s events) more := by
  induction events generalizing s with
  | nil => simp
  | cons e events ih => simp [ih, and_assoc]

theorem steps_of_forall (h : ∀ s e, ok s e) : Steps step ok s events := by
  induction events generalizing s with
  | nil => exact steps_nil
  | cons e events ih => exact ⟨h s e, ih⟩

/-- What holds of a state and its past, and is kept by every step that meets the
condition, holds after every run whose steps meet it. -/
theorem invariant_of_steps {I : S → List (E × O) → Prop} (h0 : I s [])
    (hstep : ∀ s t e, I s t → ok s e → I (step s e).1 (t ++ [(e, (step s e).2)]))
    (h : Steps step ok s events) : I (final step s events) (trace step s events) := by
  -- the past of the state grows along the run
  suffices H : ∀ (past : List (E × O)), I s past →
      I (final step s events) (past ++ trace step s events) from by simpa using H [] h0
  clear h0
  induction events generalizing s with
  | nil => intro past hI; simpa using hI
  | cons e events ih =>
    intro past hI
    simpa using ih h.2 (past ++ [(e, (step s e).2)]) (hstep s past e hI h.1)

/-- The rule without a condition on the steps. -/
theorem invariant {I : S → List (E × O) → Prop} (h0 : I s [])
    (hstep : ∀ s t e, I s t → I (step s e).1 (t ++ [(e, (step s e).2)])) (events : List E) :
    I (final step s events) (trace step s events) :=
  invariant_of_steps h0 (fun s t e hI _ => hstep s t e hI)
    (steps_of_forall fun _ _ => trivial : Steps step (fun _ _ => True) s events)

/-- The rule for a property of the state alone. -/
theorem final_invariant {I : S → Prop} (h0 : I s) (hstep : ∀ s e, I s → I (step s e).1)
    (events : List E) : I (final step s events) :=
  invariant (I := fun s _ => I s) h0 (fun s _ e => hstep s e) events

/-- One party is changed, and counts as before or differently. -/
theorem countP_modify {α : Type*} (f : α → Bool) (g : α → α) {l : List α} {i : Nat} {a : α}
    (h : l[i]? = some a) :
    (l.modify i g).countP f + (f a).toNat = l.countP f + (f (g a)).toNat := by
  induction l generalizing i with
  | nil => cases h
  | cons b l ih =>
    cases i with
    | zero =>
      obtain rfl := Option.some.inj h
      rw [modify_zero_cons, countP_cons, countP_cons]
      cases f b <;> cases f (g b) <;> simp
    | succ i =>
      have := ih h
      rw [modify_succ_cons, countP_cons, countP_cons]
      omega

end Machine
