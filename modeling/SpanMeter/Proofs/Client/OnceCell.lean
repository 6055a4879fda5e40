/-!
# Cells that are filled once

A place for a value that several threads ask for, each ready to make it if it is not there. The cell
chooses one of them to make it, lets the others wait, and hands out what was made. How it does this is
not looked at; `OnceCell.Lawful` says what it promises.

* `OnceCell.get?`, `OnceCell.enter` and `OnceCell.fill` are what a thread may do with a cell.
* `OnceCell.plain` is the cell that is nothing but its status (`lawful_plain`).
-/

namespace SpanMeter.Client

/-- What a thread is told that asks for the value of a cell and is ready to make it. -/
inductive OnceCell.Entry (α : Type) where
  /-- The value is there. -/
  | found (value : α)
  /-- Another thread is making it. -/
  | busy
  /-- This thread is to make it. -/
  | chosen

/-- A cell that is filled once by one of several threads. -/
structure OnceCell (ι α : Type) where
  State : Type
  empty : State
  /-- The value, if it is there. -/
  get? : State → Option α
  /-- A thread asks for the value, and is ready to make it. -/
  enter : State → ι → OnceCell.Entry α × State
  /-- The thread that was to make the value has made it. -/
  fill : State → ι → α → State

namespace OnceCell

variable {ι α : Type}

/-- How far a cell has come. -/
inductive Status (ι α : Type) where
  | vacant
  /-- A thread is making the value. -/
  | filling (i : ι)
  | full (value : α)

/-- What a cell promises, in terms of how far it has come: it has a value only when it is full; it
chooses a thread only when it is vacant, and no other one until that thread has made the value; and
then it keeps the value. -/
structure Lawful (cell : OnceCell ι α) (status : cell.State → Status ι α) : Prop where
  empty : status cell.empty = .vacant
  get?_full : ∀ {s a}, status s = .full a → cell.get? s = some a
  get?_vacant : ∀ {s}, status s = .vacant → cell.get? s = none
  get?_filling : ∀ {s i}, status s = .filling i → cell.get? s = none
  enter_vacant : ∀ {s}, status s = .vacant → ∀ i,
    (cell.enter s i).1 = .chosen ∧ status (cell.enter s i).2 = .filling i
  enter_filling : ∀ {s j}, status s = .filling j → ∀ i,
    (cell.enter s i).1 = .busy ∧ status (cell.enter s i).2 = .filling j
  enter_full : ∀ {s a}, status s = .full a → ∀ i,
    (cell.enter s i).1 = .found a ∧ status (cell.enter s i).2 = .full a
  fill : ∀ {s i}, status s = .filling i → ∀ a, status (cell.fill s i a) = .full a

/-- The cell that is nothing but its status. -/
def plain (ι α : Type) : OnceCell ι α where
  State := Status ι α
  empty := .vacant
  get?
    | .full a => some a
    | .vacant | .filling _ => none
  enter
    | .vacant, i => (.chosen, .filling i)
    | .filling j, _ => (.busy, .filling j)
    | .full a, _ => (.found a, .full a)
  fill _ _ a := .full a

theorem lawful_plain (ι α : Type) : (plain ι α).Lawful id where
  empty := rfl
  get?_full h := by cases h; rfl
  get?_vacant h := by cases h; rfl
  get?_filling h := by cases h; rfl
  enter_vacant h _ := by cases h; exact ⟨rfl, rfl⟩
  enter_filling h _ := by cases h; exact ⟨rfl, rfl⟩
  enter_full h _ := by cases h; exact ⟨rfl, rfl⟩
  fill _ _ := rfl

end OnceCell

end SpanMeter.Client
