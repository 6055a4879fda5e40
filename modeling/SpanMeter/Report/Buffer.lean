import SpanMeter.Fault.Cause

/-!
# Bounded buffers

A buffer takes bytes until it is full. Of a text that does not fit it takes the bytes that do, and
reports the failure; what comes after is not offered to it.

* `Buffer.write` offers one text, `Buffer.writeAll` several, up to the first that does not fit.
* A write adds at the end (`bytes_write`).
-/

namespace SpanMeter

/-- A buffer: how many bytes it can hold, and the bytes it holds. -/
structure Buffer where
  capacity : Nat
  bytes : List UInt8

namespace Buffer

/-- The empty buffer. -/
def empty (capacity : Nat) : Buffer := ⟨capacity, []⟩

/-- The bytes of a text. -/
def bytesOf (text : String) : List UInt8 := text.toUTF8.data.toList

/-- The bytes that still fit. -/
def room (b : Buffer) : Nat := b.capacity - b.bytes.length

/-- The buffer after being offered a text, and whether the text fitted. -/
def write (b : Buffer) (text : String) : Except SystemFault Unit × Buffer :=
  (if (bytesOf text).length ≤ b.room then .ok () else .error .writeZero,
   { b with bytes := b.bytes ++ (bytesOf text).take b.room })

/-- The buffer after being offered texts one after another, up to the first that did not fit. -/
def writeAll (b : Buffer) : List String → Except SystemFault Unit × Buffer
  | [] => (.ok (), b)
  | text :: texts =>
    match b.write text with
    | (.ok (), b) => b.writeAll texts
    | (.error cause, b) => (.error cause, b)

theorem bytes_write (b : Buffer) (text : String) :
    (b.write text).2.bytes = b.bytes ++ (bytesOf text).take b.room := rfl

end Buffer

end SpanMeter
