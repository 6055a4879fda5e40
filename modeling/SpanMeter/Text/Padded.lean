/-!
# Padded texts

A cell of a table: a text with blanks up to a width that counts characters. A text that is as wide
or wider stays as it is (`length_padRight`, `length_padLeft`).
-/

namespace SpanMeter.Text

/-- A text of `n` blanks. -/
def blanks (n : Nat) : String := String.ofList (List.replicate n ' ')

/-- A text with blanks after it, up to `width` characters. -/
def padRight (width : Nat) (text : String) : String := text ++ blanks (width - text.length)

/-- A text with blanks before it, up to `width` characters. -/
def padLeft (width : Nat) (text : String) : String := blanks (width - text.length) ++ text

@[simp] theorem length_blanks (n : Nat) : (blanks n).length = n := by simp [blanks]

theorem length_padRight (width : Nat) (text : String) :
    (padRight width text).length = max width text.length := by
  simp only [padRight, String.length_append, length_blanks]
  omega

theorem length_padLeft (width : Nat) (text : String) :
    (padLeft width text).length = max width text.length := by
  simp only [padLeft, String.length_append, length_blanks]
  omega

/-- A text has at most as many signs as bytes. -/
theorem length_le_utf8ByteSize (text : String) : text.length ≤ text.utf8ByteSize := by
  induction text using String.push_induction with
  | empty => exact Nat.le_refl 0
  | push text c ih =>
    rw [String.length_push, String.utf8ByteSize_push]
    exact Nat.add_le_add ih c.utf8Size_pos

end SpanMeter.Text
