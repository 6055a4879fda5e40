/-!
# Decimal numerals

Whole numbers in groups of three digits, and numbers with a fixed count of decimal places.

* `numeral` writes a whole number, `groupDigits` one with a separator before each group of three
  digits but the first; `length_group` counts the characters.
* `fixedPoint` writes a count of the smallest decimal unit with a point in it.
-/

namespace SpanMeter.Number

/-- The decimal digits of a number, at least one. -/
def digits (n : Nat) : List Char := Nat.toDigits 10 n

/-- A whole number in decimal digits. -/
def numeral (n : Int) : String :=
  String.ofList ((if n < 0 then ['-'] else []) ++ digits n.natAbs)

/-- Digits with `sep` before every group of three, counted from the end, but the first. -/
def group (sep : Char) : List Char → List Char
  | [] => []
  | [d] => [d]
  | d :: ds =>
    if ds.length % 3 = 0 then d :: sep :: group sep ds else d :: group sep ds

/-- A whole number with `sep` between its groups of three digits. -/
def groupDigits (n : Int) (sep : Char) : String :=
  String.ofList ((if n < 0 then ['-'] else []) ++ group sep (digits n.natAbs))

/-- A count of units of `10 ^ -places`, with that many digits after the point. -/
def fixedPoint (places units : Nat) : String :=
  let tail := digits (units % Nat.pow 10 places)
  String.ofList (digits (units / Nat.pow 10 places) ++
    '.' :: (List.replicate (places - tail.length) '0' ++ tail))

/-- The decimal numeral is how whole numbers are written. -/
theorem toString_eq_numeral (n : Int) : toString n = numeral n := by
  rw [Int.toString_eq_repr, numeral]
  cases n with
  | ofNat m =>
    have hm : ¬ Int.ofNat m < 0 := Int.not_lt.2 (Int.natCast_nonneg m)
    rw [if_neg hm]
    rfl
  | negSucc m =>
    rw [if_pos (Int.negSucc_lt_zero m)]
    apply String.toList_inj.1
    simp [Int.repr, digits, Nat.toList_repr]

theorem length_group (sep : Char) (ds : List Char) :
    (group sep ds).length = ds.length + (ds.length - 1) / 3 := by
  fun_induction group sep ds with
  | case1 => rfl
  | case2 d => simp
  | case3 d ds hne h ih =>
    have : ds ≠ [] := fun e => hne e
    have := List.length_pos_iff.2 this
    simp only [List.length_cons, ih]
    omega
  | case4 d ds hne h ih =>
    simp only [List.length_cons, ih]
    omega

end SpanMeter.Number
