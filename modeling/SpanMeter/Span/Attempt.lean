/-!
# Attempts

Adding a duration to a total fails when the sum is no duration. The failure stops a step where it
stands: what was changed before stays changed. An attempt keeps both facts, the state that the step
left behind and whether it went through.

* `Attempt.bind` goes on only from a step that went through (`bind_done`, `bind_overflow`).
* `Attempt.map` changes the state and not the outcome.
-/

namespace SpanMeter

/-- The state a step left behind, and whether the step went through or a total passed its bound. -/
inductive Attempt (α : Type) where
  /-- The step went through. -/
  | done (state : α)
  /-- A total passed its bound; the step stopped there. -/
  | overflow (state : α)
  deriving DecidableEq

namespace Attempt

/-- What stopped a step, in words. -/
def overflowText : String := "overflow when adding durations"

variable {α β : Type}

/-- The state left behind. -/
def state : Attempt α → α
  | done a => a
  | overflow a => a

/-- Whether the step went through. -/
def isDone : Attempt α → Bool
  | done _ => true
  | overflow _ => false

/-- A change of the state that does not change the outcome. -/
def map (f : α → β) : Attempt α → Attempt β
  | done a => done (f a)
  | overflow a => overflow (f a)

/-- A further step, taken if this one went through. -/
@[inline] def bind (x : Attempt α) (f : α → Attempt α) : Attempt α :=
  match x with
  | done a => f a
  | overflow a => overflow a

@[simp] theorem bind_done (a : α) (f : α → Attempt α) : (done a).bind f = f a := rfl

@[simp] theorem bind_overflow (a : α) (f : α → Attempt α) : (overflow a).bind f = overflow a := rfl

@[simp] theorem state_map (f : α → β) (x : Attempt α) : (x.map f).state = f x.state := by
  cases x <;> rfl

@[simp] theorem isDone_map (f : α → β) (x : Attempt α) : (x.map f).isDone = x.isDone := by
  cases x <;> rfl

theorem isDone_iff {x : Attempt α} : x.isDone = true ↔ ∃ a, x = done a := by
  cases x <;> simp [isDone]

theorem bind_eq_done_iff {x : Attempt α} {f : α → Attempt α} {b : α} :
    x.bind f = done b ↔ ∃ a, x = done a ∧ f a = done b := by
  cases x <;> simp

theorem map_eq_done_iff {f : α → β} {x : Attempt α} {b : β} :
    x.map f = done b ↔ ∃ a, x = done a ∧ f a = b := by
  cases x <;> simp [map]

theorem bind_assoc (x : Attempt α) (f g : α → Attempt α) :
    (x.bind f).bind g = x.bind fun a => (f a).bind g := by
  cases x <;> rfl

theorem bind_congr {x : Attempt α} {f g : α → Attempt α} (h : ∀ a, x = done a → f a = g a) :
    x.bind f = x.bind g := by
  cases x with
  | done a => exact h a rfl
  | overflow a => rfl

/-- A list of steps, one after another, up to the first that does not go through. -/
def each (step : α → β → Attempt α) : List β → α → Attempt α
  | [], a => done a
  | b :: bs, a => (step a b).bind (each step bs)

@[simp] theorem each_nil (step : α → β → Attempt α) (a : α) : each step [] a = done a := rfl

@[simp] theorem each_cons (step : α → β → Attempt α) (b : β) (bs : List β) (a : α) :
    each step (b :: bs) a = (step a b).bind (each step bs) := rfl

theorem each_append (step : α → β → Attempt α) (bs cs : List β) (a : α) :
    each step (bs ++ cs) a = (each step bs a).bind (each step cs) := by
  induction bs generalizing a with
  | nil => rfl
  | cons b bs ih =>
    rw [List.cons_append, each_cons, each_cons, bind_assoc]
    exact congrArg _ (funext ih)

theorem each_concat (step : α → β → Attempt α) (bs : List β) (b : β) (a : α) :
    each step (bs ++ [b]) a = (each step bs a).bind fun a => step a b := by
  rw [each_append]
  congr 1
  funext a
  rw [each_cons]
  cases step a b <;> rfl

end Attempt

end SpanMeter
