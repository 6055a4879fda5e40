import SpanMeter.Number.Decimal

/-!
# The shortest decimal of a double

A double-precision number stands for all reals that round to it. Among the decimals in that interval
the ones with the fewest digits are the shortest, and the one nearest to the number is its text: in
positional notation with at least one place, or, for magnitudes from `10 ^ 16` on and below
`10 ^ -4`, in scientific notation.

* `Binary.ofBits` reads the parts of a double.
* `Binary.shortest` finds the digits: on each decimal grid, from the coarsest, it tries the two
  neighbours of the number, and takes the nearer one that lies in the interval.
* `floatText` writes a double.
-/

namespace SpanMeter.Number

/-- The magnitude `mantissa * 2 ^ exponent` of a double. -/
structure Binary where
  mantissa : Nat
  exponent : Int

/-- A decimal `digits * 10 ^ exponent`. -/
structure Decimal where
  digits : Nat
  exponent : Int
  deriving DecidableEq

namespace Binary

/-- The least exponent of a double. -/
def leastExponent : Int := -1074

/-- The magnitude of the finite double with the bits `bits`. -/
def ofBits (bits : Nat) : Binary :=
  let field := bits >>> 52 % 1 <<< 11
  let fraction := bits % 1 <<< 52
  if field = 0 then ⟨fraction, leastExponent⟩
  else ⟨1 <<< 52 + fraction, leastExponent + (field - 1 : Nat)⟩

/-- A multiple of a quarter of the last place, over a power of two. -/
def quarters (b : Binary) (q : Nat) : Nat × Nat :=
  (q <<< b.exponent.toNat, 4 <<< (-b.exponent).toNat)

/-- The lower end of the interval that rounds to the number, in quarters of the last place. -/
def lower (b : Binary) : Nat :=
  if b.mantissa = 1 <<< 52 ∧ leastExponent < b.exponent then 4 * b.mantissa - 1
  else 4 * b.mantissa - 2

/-- The upper end of the interval, in quarters of the last place. -/
def upper (b : Binary) : Nat := 4 * b.mantissa + 2

/-- The fraction `num / den` of whole grid steps of `10 ^ e`. -/
def onGrid (x : Nat × Nat) (e : Int) : Nat × Nat :=
  (x.1 * Nat.pow 10 (-e).toNat, x.2 * Nat.pow 10 e.toNat)

/-- Whether the grid point `n * 10 ^ e` rounds to the number. The ends of the interval do when the
mantissa is even. -/
def holds (b : Binary) (n : Nat) (e : Int) : Bool :=
  let lo := onGrid (b.quarters b.lower) e
  let hi := onGrid (b.quarters b.upper) e
  if b.mantissa % 2 = 0 then lo.1 ≤ n * lo.2 && n * hi.2 ≤ hi.1
  else lo.1 < n * lo.2 && n * hi.2 < hi.1

/-- The multiple of `10 ^ e` that is nearest to the number from below. -/
def below (b : Binary) (e : Int) : Nat :=
  (onGrid (b.quarters (4 * b.mantissa)) e).1 / (onGrid (b.quarters (4 * b.mantissa)) e).2

/-- The decimal on the grid of `10 ^ e` that rounds to the number and is nearest to it, the larger of
two. -/
def onGrid? (b : Binary) (e : Int) : Option Decimal :=
  let v := onGrid (b.quarters (4 * b.mantissa)) e
  let n := b.below e
  if b.holds n e && b.holds (n + 1) e then
    some (if 2 * (v.1 % v.2) < v.2 then ⟨n, e⟩ else ⟨n + 1, e⟩)
  else if b.holds n e then some ⟨n, e⟩
  else if b.holds (n + 1) e then some ⟨n + 1, e⟩
  else none

/-- The number of digits before the point of a number that is at least one; for a smaller one, less
the zeros after the point. -/
def magnitude (b : Binary) : Int :=
  let v := b.quarters (4 * b.mantissa)
  if v.2 ≤ v.1 then (digits (v.1 / v.2)).length
  else 1 - ((digits ((v.2 + v.1 - 1) / v.1 - 1)).length : Int)

/-- The grids from a coarse one on, each ten times finer than the one before. -/
def search (b : Binary) (e : Int) : Nat → Decimal
  | 0 => ⟨b.below e, e⟩
  | fuel + 1 =>
    match b.onGrid? e with
    | some d => d
    | none => b.search (e - 1) fuel

/-- The shortest decimal that rounds to the number. Seventeen digits always do. -/
def shortest (b : Binary) : Decimal := b.search b.magnitude 19

end Binary

/-- Zeros. -/
def zeros (n : Nat) : List Char := List.replicate n '0'

/-- A decimal in positional notation, with at least one place. -/
def Decimal.positional (d : Decimal) : List Char :=
  let ds := Number.digits d.digits
  let places := (-d.exponent).toNat
  if places = 0 then ds ++ zeros d.exponent.toNat ++ ['.', '0']
  else if places < ds.length then
    ds.take (ds.length - places) ++ '.' :: ds.drop (ds.length - places)
  else '0' :: '.' :: (zeros (places - ds.length) ++ ds)

/-- A decimal with one digit before the point, and a power of ten. -/
def Decimal.scientific (d : Decimal) : List Char :=
  let ds := Number.digits d.digits
  let e := d.exponent + (ds.length - 1 : Nat)
  let tail := if ds.length ≤ 1 then [] else '.' :: ds.drop 1
  ds.take 1 ++ tail ++ 'e' :: (numeral e).toList

/-- A positive double: scientific notation for large and small magnitudes, else positional. -/
def Decimal.text (d : Decimal) : List Char :=
  let point := d.exponent + (Number.digits d.digits).length
  if 17 ≤ point ∨ point ≤ -4 then d.scientific else d.positional

/-- The text of a double. -/
def floatText (x : Float) : String :=
  let bits := x.toBits.toNat
  let sign := if bits >>> 63 = 1 then ['-'] else []
  let field := bits >>> 52 % 1 <<< 11
  let fraction := bits % 1 <<< 52
  if field = 1 <<< 11 - 1 then
    if fraction = 0 then String.ofList (sign ++ "inf".toList) else "NaN"
  else
    let b := Binary.ofBits bits
    if b.mantissa = 0 then String.ofList (sign ++ ['0', '.', '0'])
    else String.ofList (sign ++ b.shortest.text)

theorem Decimal.positional_ne_nil (d : Decimal) : d.positional ≠ [] := by
  simp only [positional]
  split
  · simp
  · split <;> simp

theorem Decimal.scientific_ne_nil (d : Decimal) : d.scientific ≠ [] := by simp [scientific]

theorem Decimal.text_ne_nil (d : Decimal) : d.text ≠ [] := by
  simp only [text]
  split
  · exact d.scientific_ne_nil
  · exact d.positional_ne_nil

/-- The text of a double is not empty. -/
theorem floatText_ne_empty (x : Float) : floatText x ≠ "" := by
  simp only [floatText]
  split
  · split <;> simp
  · split <;> simp [Decimal.text_ne_nil]

end SpanMeter.Number
