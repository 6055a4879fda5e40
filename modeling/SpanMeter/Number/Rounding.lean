/-!
# Rounding

Quotients rounded to the nearest whole number, and to the nearest number of 53 significant bits. In
both a half goes to the even neighbour.

* `divEven` rounds a quotient to a whole number.
* `Dyadic` is a whole number times a power of two; `Dyadic.ofRatio` rounds a quotient to one with
  53 bits, which is what double-precision arithmetic does, and `Dyadic.div` divides two of them.
-/

namespace SpanMeter.Number

/-- The whole number nearest to `num / den`, the even one of two. -/
def divEven (num den : Nat) : Nat :=
  let q := num / den
  let r := num % den
  if 2 * r < den then q else if den < 2 * r then q + 1 else q + q % 2

/-- The number `mantissa * 2 ^ exponent`. -/
structure Dyadic where
  mantissa : Nat
  exponent : Int
  deriving DecidableEq

namespace Dyadic

/-- The numerator and denominator of `num / den` divided by `2 ^ e`. -/
def scale (num den : Nat) (e : Int) : Nat × Nat :=
  (num <<< (-e).toNat, den <<< e.toNat)

/-- The number of 53 significant bits nearest to `num / den`. -/
def ofRatio (num den : Nat) : Dyadic :=
  if num = 0 then ⟨0, 0⟩
  else
    let e : Int := (num.log2 : Int) - den.log2 - 53
    let s := scale num den e
    if s.1 < s.2 <<< 53 then ⟨divEven s.1 s.2, e⟩
    else
      let s := scale num den (e + 1)
      ⟨divEven s.1 s.2, e + 1⟩

/-- The number of 53 significant bits nearest to `n`. -/
def ofNat (n : Nat) : Dyadic := ofRatio n 1

/-- The quotient of two numbers, rounded to 53 significant bits. -/
def div (x y : Dyadic) : Dyadic :=
  let q := ofRatio x.mantissa y.mantissa
  ⟨q.mantissa, q.exponent + x.exponent - y.exponent⟩

/-- The whole number nearest to `10 ^ places` times a number. -/
def decimals (places : Nat) (x : Dyadic) : Nat :=
  let s := scale (x.mantissa * Nat.pow 10 places) 1 (-x.exponent)
  divEven s.1 s.2

end Dyadic

end SpanMeter.Number
