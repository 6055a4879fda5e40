import SpanMeter.Sample.Token

/-!
# Guards

A guard holds a token for as long as some work goes on, and completes it when the work is left in
whatever way. Once the token was completed or given up, leaving does nothing more.

* `Guard.Exit` lists the ways to leave.
* `Guard.leave` says what leaving completes: the explicit step first, then whatever the guard still
  holds (`leave_eq`).
-/

namespace SpanMeter

/-- The holder of a token, empty once the token was taken. -/
structure Guard where
  held : Option Token
  deriving DecidableEq

namespace Guard

/-- A way to leave guarded work. -/
inductive Exit where
  /-- The guard was ended. -/
  | ended
  /-- The guard was ended under an outcome. -/
  | outcome (label : String)
  /-- The guard was given up. -/
  | abandoned
  /-- The guard went out of scope. -/
  | scope
  /-- The guard went out of scope because of a panic. -/
  | unwinding
  deriving DecidableEq

/-- A guard that holds a token. -/
def hold (t : Token) : Guard := ⟨some t⟩

/-- The guard with another token, if it still holds one. -/
def modify (g : Guard) (f : Token → Token) : Guard := ⟨g.held.map f⟩

/-- The token, and the guard without it. -/
def take (g : Guard) : Option Token × Guard := (g.held, ⟨none⟩)

/-- What an explicit end completes, and the guard after it. -/
def exit (g : Guard) : Exit → Option (Token × Option String) × Guard
  | .ended => (g.take.1.map fun t => (t, none), g.take.2)
  | .outcome label => (g.take.1.map fun t => (t, some label), g.take.2)
  | .abandoned => (none, g.take.2)
  | .scope | .unwinding => (none, g)

/-- What going out of scope completes. -/
def drop (g : Guard) : Option (Token × Option String) := g.take.1.map fun t => (t, none)

/-- The tokens that are completed on leaving, with their outcomes, in order. -/
def leave (g : Guard) (e : Exit) : List (Token × Option String) :=
  (g.exit e).1.toList ++ (g.exit e).2.drop.toList

/-- A guard completes its token once, in whatever way it is left, unless it was given up. -/
theorem leave_eq (t : Token) (e : Exit) :
    (hold t).leave e =
      match e with
      | .abandoned => []
      | .outcome label => [(t, some label)]
      | _ => [(t, none)] := by
  cases e <;> rfl

/-- An empty guard completes nothing. -/
theorem leave_empty (e : Exit) : leave ⟨none⟩ e = [] := by
  cases e <;> rfl

end Guard

end SpanMeter
