import SpanMeter.Text.Printable

/-!
# Quoted texts

A text between double quotes, in which every character that would not show itself is written as an
escape: the quote and the backslash with a backslash before them, tab, line feed, carriage return
and the null character by a letter, and all other unprintable or joining characters by their code
point in hexadecimal.
-/

namespace SpanMeter.Text

/-- A code point in hexadecimal, between braces. -/
def codePoint (c : Char) : List Char :=
  '\\' :: 'u' :: '\x7b' :: (Nat.toDigits 16 c.toNat ++ ['\x7d'])

/-- One character of a quoted text. -/
def escape (c : Char) : List Char :=
  if c = '\x00' then ['\\', '0']
  else if c = '\t' then ['\\', 't']
  else if c = '\n' then ['\\', 'n']
  else if c = '\r' then ['\\', 'r']
  else if c = '\x22' then ['\\', '\x22']
  else if c = '\\' then ['\\', '\\']
  else if isExtending c || !isPrintable c then codePoint c
  else [c]

/-- A text between quotes. -/
def quoted (text : String) : String :=
  String.ofList ('\x22' :: (text.toList.flatMap escape ++ ['\x22']))

end SpanMeter.Text
