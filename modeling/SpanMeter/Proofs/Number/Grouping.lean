import Mathlib.Data.Nat.Digits.Defs
import SpanMeter.Report.Row

/-!
# Reading numbers back

A number that is written in groups of three digits, or with a point in it, is read back from its digits
alone: neither the separators nor the blanks that fill its column are digits.

* `Number.read` is the number whose digits stand in a text (`read_append_append`).
* `Number.read_grouped`: it reads a grouped number back.
* `Number.read_fixedPoint`: it reads a count of decimal units back.
-/

namespace SpanMeter.Number

/-- The number whose digits stand in a text, among other signs. -/
def read (text : List Char) : Nat := Nat.ofDigitChars 10 (text.filter Char.isDigit) 0

/-- Signs that are no digits do not matter. -/
theorem read_append_append {before after text : List Char}
    (hb : before.filter Char.isDigit = []) (ha : after.filter Char.isDigit = []) :
    read (before ++ text ++ after) = read text := by
  rw [read, List.filter_append, List.filter_append, hb, ha, List.nil_append, List.append_nil, read]

theorem ne_of_isDigit {c d : Char} (hc : c.isDigit = true) (hd : d.isDigit = false) : c ≠ d := by
  rintro rfl
  rw [hc] at hd
  cases hd

theorem isDigit_of_mem_digits {n : Nat} {c : Char} (h : c ∈ digits n) : c.isDigit = true :=
  Nat.isDigit_of_mem_toDigits (by decide) (by decide) h

theorem filter_digits (n : Nat) : (digits n).filter Char.isDigit = digits n :=
  List.filter_eq_self.2 fun _ => isDigit_of_mem_digits

theorem ofDigitChars_digits (n : Nat) : Nat.ofDigitChars 10 (digits n) 0 = n :=
  Nat.ofDigitChars_ten_toDigits

/-- Grouping adds nothing but separators. -/
theorem mem_group {sep c : Char} {ds : List Char} (h : c ∈ group sep ds) : c = sep ∨ c ∈ ds := by
  fun_induction group sep ds with
  | case1 => cases h
  | case2 d => exact .inr h
  | case3 d ds hne hmod ih =>
    rcases List.mem_cons.1 h with rfl | h
    · exact .inr List.mem_cons_self
    · rcases List.mem_cons.1 h with rfl | h
      · exact .inl rfl
      · exact (ih h).imp_right (List.mem_cons_of_mem _)
  | case4 d ds hne hmod ih =>
    rcases List.mem_cons.1 h with rfl | h
    · exact .inr List.mem_cons_self
    · exact (ih h).imp_right (List.mem_cons_of_mem _)

/-- Grouping loses no digit. -/
theorem filter_group {sep : Char} {p : Char → Bool} (hsep : p sep = false) (ds : List Char) :
    (group sep ds).filter p = ds.filter p := by
  fun_induction group sep ds with
  | case1 => rfl
  | case2 d => rfl
  | case3 d ds hne hmod ih =>
    rw [List.filter_cons, List.filter_cons_of_neg (by rw [hsep]; exact Bool.false_ne_true), ih,
      List.filter_cons]
  | case4 d ds hne hmod ih => rw [List.filter_cons, ih, List.filter_cons]

theorem toList_grouped (n : Nat) : (Row.grouped n).toList = group ',' (digits n) := by
  have hn : ¬ (n : Int) < 0 := by omega
  simp only [Row.grouped, groupDigits, if_neg hn, List.nil_append, Int.natAbs_natCast,
    String.toList_ofList]

/-- What stands in a grouped number. -/
theorem mem_grouped {n : Nat} {c : Char} (h : c ∈ (Row.grouped n).toList) :
    c = ',' ∨ c.isDigit = true := by
  rw [toList_grouped] at h
  exact (mem_group h).imp_right isDigit_of_mem_digits

/-- **A grouped number is read back.** -/
theorem read_grouped (n : Nat) : read (Row.grouped n).toList = n := by
  rw [read, toList_grouped, filter_group (by decide), filter_digits, ofDigitChars_digits]

/-- What stands in a number with decimal places. -/
theorem mem_fixedPoint {places units : Nat} {c : Char}
    (h : c ∈ (fixedPoint places units).toList) : c = '.' ∨ c.isDigit = true := by
  simp only [fixedPoint, String.toList_ofList, List.mem_append, List.mem_cons] at h
  rcases h with h | rfl | h | h
  · exact .inr (isDigit_of_mem_digits h)
  · exact .inl rfl
  · obtain rfl := List.eq_of_mem_replicate h
    exact .inr (by decide)
  · exact .inr (isDigit_of_mem_digits h)

/-- **A count of decimal units is read back**, since all its places are written. -/
theorem read_fixedPoint {places : Nat} (hp : 0 < places) (units : Nat) :
    read (fixedPoint places units).toList = units := by
  have hzeros : ∀ n, (List.replicate n '0').filter Char.isDigit = List.replicate n '0' := fun n =>
    List.filter_eq_self.2 fun c hc => by
      rw [List.eq_of_mem_replicate hc]
      decide
  have hlen : (digits (units % Nat.pow 10 places)).length ≤ places :=
    Nat.toDigits_length 10 _ places hp (Nat.mod_lt _ (Nat.pow_pos (by decide)))
  simp only [read, fixedPoint, String.toList_ofList, List.filter_append, filter_digits, hzeros,
    List.filter_cons_of_neg (show ¬ Char.isDigit '.' = true by decide)]
  rw [Nat.ofDigitChars_append, Nat.ofDigitChars_append, Nat.ofDigitChars_replicate_zero,
    ofDigitChars_digits, Nat.ofDigitChars_eq_ofDigitChars_zero, ofDigitChars_digits,
    ← Nat.mul_assoc, ← Nat.pow_add, Nat.add_sub_cancel' hlen]
  exact Nat.div_add_mod units (Nat.pow 10 places)

end SpanMeter.Number
