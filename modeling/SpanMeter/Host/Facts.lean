import SpanMeter.Number.Decimal

/-!
# Facts about the host

What a report's heading tells about the machine and the process it comes from. A fact the host does
not tell, and a variable that is unset or no text, read `?`.
-/

namespace SpanMeter

/-- What a process knows about its surroundings. -/
structure Environment where
  os : String
  family : String
  arch : String
  parallelism : Option Nat
  process : Option Nat
  /-- The bytes of a variable, if it is set. -/
  value : String → Option ByteArray

namespace Environment

/-- What a fact reads when it is not known. -/
def unknown : String := "?"

/-- The text of a variable. -/
def text (env : Environment) (name : String) : String :=
  ((env.value name).bind String.fromUTF8?).getD unknown

/-- A number, if it is known. -/
def number (n : Option Nat) : String := (n.map fun n => Number.numeral n).getD unknown

/-- The variables that a report tells. -/
def reported : List String := ["LINES", "COLUMNS", "HOST", "TERM"]

/-- The facts about the host, in order. -/
def facts (env : Environment) : List (String × String) :=
  [("os", env.os),
   ("os family", env.family),
   ("arch", env.arch),
   ("parallelism", number env.parallelism),
   ("pid", number env.process)] ++
  reported.map fun name => (name, env.text name)

/-- Surroundings that tell nothing. -/
def bare : Environment := ⟨unknown, unknown, unknown, none, none, fun _ => none⟩

end Environment

end SpanMeter
