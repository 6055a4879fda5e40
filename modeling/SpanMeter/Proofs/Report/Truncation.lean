import SpanMeter.Report.Rendering

/-!
# Reports that do not fit

A report is written to a buffer in many parts, any of which may be the one that does not fit. What comes out
does not depend on the parts: a buffer that is offered texts one after another ends like one that is offered
all of them at once. So a report is written without a failure exactly if the buffer has room for all its bytes,
and a buffer that has less room holds the beginning of the report, also where this ends within a character.

* `Buffer.writeAll_eq_write`: several texts are one text.
* `Buffer.writeAll_append_of_error`: nothing is offered behind a text that did not fit.
* `Report.truncated_render`: both for a report, in whatever parts it is written, and what becomes of one
  whose table cannot be set.
-/

namespace SpanMeter

namespace Buffer

/-! ## One text -/

@[simp] theorem bytesOf_empty : bytesOf "" = [] := rfl

@[simp] theorem bytesOf_append (s t : String) : bytesOf (s ++ t) = bytesOf s ++ bytesOf t := by
  simp [bytesOf, String.toUTF8_eq_toByteArray, String.toByteArray_append]

/-- A text that fits is taken as a whole. -/
theorem write_of_le {b : Buffer} {text : String} (h : (bytesOf text).length ≤ b.room) :
    b.write text = (.ok (), { b with bytes := b.bytes ++ bytesOf text }) := by
  rw [write, if_pos h, List.take_of_length_le h]

/-- Of a text that does not fit there is taken what does. -/
theorem write_of_lt {b : Buffer} {text : String} (h : b.room < (bytesOf text).length) :
    b.write text =
      (.error .writeZero, { b with bytes := b.bytes ++ (bytesOf text).take b.room }) := by
  rw [write, if_neg (Nat.not_le.2 h)]

/-! ## Several texts -/

theorem writeAll_cons_of_le {b : Buffer} {text : String} (h : (bytesOf text).length ≤ b.room)
    (texts : List String) :
    b.writeAll (text :: texts) =
      ({ b with bytes := b.bytes ++ bytesOf text } : Buffer).writeAll texts := by
  rw [writeAll, write_of_le h]

theorem writeAll_cons_of_lt {b : Buffer} {text : String} (h : b.room < (bytesOf text).length)
    (texts : List String) : b.writeAll (text :: texts) = b.write text := by
  rw [writeAll, write_of_lt h]

/-- **Several texts are taken like one**, also if they do not all fit. -/
theorem writeAll_eq_write (b : Buffer) (texts : List String) :
    b.writeAll texts = b.write (String.join texts) := by
  induction texts generalizing b with
  | nil => simp [writeAll, write]
  | cons text texts ih =>
    rw [String.join_cons]
    by_cases h : (bytesOf text).length ≤ b.room
    · -- the text fits, and the others have the room that it leaves
      have hroom : ({ b with bytes := b.bytes ++ bytesOf text } : Buffer).room =
          b.room - (bytesOf text).length := by
        simp only [room, List.length_append]
        omega
      have hfits : (bytesOf text ++ bytesOf (String.join texts)).length ≤ b.room ↔
          (bytesOf (String.join texts)).length ≤ b.room - (bytesOf text).length := by
        rw [List.length_append]
        omega
      rw [writeAll_cons_of_le h, ih, write, write, hroom, bytesOf_append, List.take_append,
        List.take_of_length_le h]
      simp only [hfits, List.append_assoc]
    · have hlt := Nat.not_le.1 h
      have hlong : b.room < (bytesOf (text ++ String.join texts)).length := by
        rw [bytesOf_append, List.length_append]
        omega
      rw [writeAll_cons_of_lt hlt, write_of_lt hlt, write_of_lt hlong, bytesOf_append,
        List.take_append_of_le_length (Nat.le_of_lt hlt)]

/-- Nothing is offered behind a text that did not fit. -/
theorem writeAll_append_of_error {b : Buffer} {texts : List String} {cause : SystemFault}
    (h : (b.writeAll texts).1 = .error cause) (others : List String) :
    b.writeAll (texts ++ others) = b.writeAll texts := by
  induction texts generalizing b with
  | nil => cases h
  | cons text texts ih =>
    rw [List.cons_append]
    by_cases hfits : (bytesOf text).length ≤ b.room
    · rw [writeAll_cons_of_le hfits] at h
      rw [writeAll_cons_of_le hfits, writeAll_cons_of_le hfits, ih h]
    · have hlt := Nat.not_le.1 hfits
      rw [writeAll_cons_of_lt hlt, writeAll_cons_of_lt hlt]

/-- An empty buffer gets the first bytes, as many as there is room for. -/
theorem bytes_writeAll_empty (n : Nat) (parts : List String) :
    ((empty n).writeAll parts).2.bytes = (bytesOf (String.join parts)).take n := by
  rw [writeAll_eq_write, bytes_write]
  rfl

end Buffer

namespace Report

open Buffer

/-! ## A report -/

/-- What comes of writing a report in these parts into an empty buffer for `n` bytes. -/
structure Truncated (r : Report) (n : Nat) (parts : List String) : Prop where
  /-- A report is done exactly if there is room for all of it, -/
  done_iff : ∀ text, r.text? = some text →
    ((r.renderIn parts (empty n)).1 = .done ↔ text.utf8ByteSize ≤ n)
  /-- and it fails if there is not. -/
  fault : ∀ text, r.text? = some text → n < text.utf8ByteSize →
    (r.renderIn parts (empty n)).1 = .failed .writeZero
  /-- In any case the buffer holds its first bytes, as many as there is room for. -/
  bytes : ∀ text, r.text? = some text →
    (r.renderIn parts (empty n)).2.bytes = (bytesOf text).take n ∧
      (r.renderIn parts (empty n)).2.bytes.length = min n text.utf8ByteSize
  /-- Without a table nothing is ever done: what stands before the table fails if there is no room for it,
  and its first bytes are all that the buffer gets. -/
  unset : r.text? = none →
    (r.renderIn parts (empty n)).1 =
      (if (String.join r.headPieces).utf8ByteSize ≤ n then .panicked else .failed .writeZero) ∧
    (r.renderIn parts (empty n)).2.bytes = (bytesOf (String.join r.headPieces)).take n
  /-- Nothing is added behind a part that did not fit. -/
  stops : ∀ before part after, parts = before ++ part :: after →
    ((empty n).writeAll (before ++ [part])).1 ≠ .ok () →
      (r.renderIn parts (empty n)).2 = ((empty n).writeAll (before ++ [part])).2

theorem snd_renderIn (r : Report) (parts : List String) (b : Buffer) :
    (r.renderIn parts b).2 = (b.writeAll parts).2 := by
  unfold renderIn
  split <;> simp only [*]

theorem fst_renderIn (r : Report) (n : Nat) (parts : List String) :
    (r.renderIn parts (empty n)).1 =
      if (String.join parts).utf8ByteSize ≤ n then (if r.settable then .done else .panicked)
      else .failed .writeZero := by
  rw [renderIn, writeAll_eq_write]
  by_cases h : (bytesOf (String.join parts)).length ≤ (empty n).room
  · rw [write_of_le h]
    exact (if_pos h).symm
  · rw [write_of_lt (Nat.not_le.1 h)]
    exact (if_neg h).symm

theorem join_reached_of_some {r : Report} {text : String} (h : r.text? = some text) :
    r.settable = true ∧ String.join r.reached = text := by
  obtain ⟨hs, rfl⟩ := text?_eq_some_iff.1 h
  rw [reached, if_pos hs]
  exact ⟨hs, rfl⟩

theorem reached_of_none {r : Report} (h : r.text? = none) :
    r.settable = false ∧ r.reached = r.headPieces := by
  have hs := text?_eq_none_iff.1 h
  exact ⟨hs, if_neg (Bool.eq_false_iff.1 hs)⟩

/-- What comes of writing a report depends on what the parts are together. -/
theorem truncated_of_join {r : Report} {parts : List String}
    (h : String.join parts = String.join r.reached) (n : Nat) : Truncated r n parts where
  done_iff text ht := by
    obtain ⟨hs, hj⟩ := join_reached_of_some ht
    rw [fst_renderIn, h, hj, hs]
    split <;> simp [*]
  fault text ht hlt := by
    rw [fst_renderIn, h, (join_reached_of_some ht).2, if_neg (Nat.not_le.2 hlt)]
  bytes text ht := by
    rw [snd_renderIn, bytes_writeAll_empty, h, (join_reached_of_some ht).2]
    exact ⟨rfl, List.length_take⟩
  unset hn := by
    obtain ⟨hs, hj⟩ := reached_of_none hn
    rw [fst_renderIn, snd_renderIn, bytes_writeAll_empty, h, hs, hj]
    exact ⟨rfl, rfl⟩
  stops before part after hp hne := by
    cases hr : ((empty n).writeAll (before ++ [part])).1 with
    | ok u => exact absurd hr hne
    | error cause => rw [snd_renderIn, hp, List.append_cons, writeAll_append_of_error hr]

/-- **A report in a buffer of `n` bytes.** It makes no difference in what parts it is written, and there is a
report unless a tracked name is too wide. -/
theorem truncated_render (r : Report) (n : Nat) :
    (r.text? = none ↔ ∃ name ∈ r.registry.tracked, widest < name.utf8ByteSize) ∧
    Truncated r n r.reached ∧ ∀ parts, String.join parts = String.join r.reached →
      Truncated r n parts ∧ r.renderIn parts (empty n) = r.render (empty n) := by
  refine ⟨text?_eq_none_iff.trans settable_eq_false_iff, truncated_of_join rfl n,
    fun parts h => ⟨truncated_of_join h n, ?_⟩⟩
  rw [render, renderIn, renderIn, writeAll_eq_write, writeAll_eq_write, h]

/-- A report with a parameter of one sign and two bytes. -/
def sharp : Report := ⟨.new [], .zero, false, false, [], ["ß"]⟩

/-- The second byte of the sign is the first that does not fit. -/
theorem truncated_render_sharp :
    sharp.text? = some sharp.text ∧ String.join [sharp.text] = String.join sharp.reached ∧
      61 < sharp.text.utf8ByteSize ∧
      (sharp.render (empty 61)).1 = .failed .writeZero ∧
      (sharp.renderIn [sharp.text] (empty 61)).2.bytes.length = 61 ∧
      (sharp.render (empty 61)).2.bytes.getLast? = (bytesOf "ß").head? ∧
      (sharp.render (empty 204)).1 = .done := by
  obtain ⟨-, hpieces, hparts⟩ := truncated_render sharp 61
  have htext : sharp.text? = some sharp.text := text?_eq_some_iff.2 ⟨by decide, rfl⟩
  have hjoin : String.join [sharp.text] = String.join sharp.reached := by
    rw [(join_reached_of_some htext).2]
    simp
  have hlt : 61 < sharp.text.utf8ByteSize := by decide +kernel
  refine ⟨htext, hjoin, hlt, hpieces.fault _ htext hlt, ?_, ?_, ?_⟩
  · rw [((hparts _ hjoin).1.bytes _ htext).2, Nat.min_eq_left (Nat.le_of_lt hlt)]
  · rw [render, (hpieces.bytes _ htext).1]
    decide +kernel
  · exact ((truncated_render sharp 204).2.1.done_iff _ htext).2 (by decide +kernel)

end Report

end SpanMeter
