/-!
# Supplies

What a caller's own code supplies when the engine asks for it, a suite of benchmarks or the facts
about the host. The code may panic; the engine then goes on without.
-/

namespace SpanMeter

/-- What a caller's code supplies when it is asked: a value, or a panic. -/
inductive Supply (α : Type) where
  | given (value : α)
  | panicked

namespace Supply

variable {α : Type}

/-- The supplied value, `default` after a panic. -/
def getD : Supply α → α → α
  | given value, _ => value
  | panicked, default => default

@[simp] theorem getD_given (a b : α) : (given a).getD b = a := rfl

@[simp] theorem getD_panicked (b : α) : (panicked : Supply α).getD b = b := rfl

end Supply

end SpanMeter
