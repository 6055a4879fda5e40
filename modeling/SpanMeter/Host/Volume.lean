import SpanMeter.Host.Path

/-!
# Destinations of reports

A volume holds the report files, and perhaps some devices, which take a report without keeping it.

* `Volume.locate` says what a path leads to.
* `Volume.save` writes a text in place of what was there, `Volume.read` reads it back
  (`read_save`).
* `Volume.cutOff` writes the first parts of a text that is never finished. Parts are held back and
  passed on together (`Volume.passedOn`), so that a device may not notice.
-/

namespace SpanMeter

/-- A destination that keeps nothing: whether it opens, how many bytes it takes, and whether it can
be flushed. -/
structure Device where
  /-- Why it does not open, if it does not. -/
  refusal : Option SystemFault
  /-- How many bytes it takes, if there is a bound. -/
  room : Option Nat
  /-- What it reports when it takes no more. -/
  shortage : SystemFault
  /-- Why it cannot be flushed, if it cannot. -/
  flushFault : Option SystemFault

namespace Device

/-- The device that opens and has no room. -/
def full : Device := ⟨none, some 0, .noSpace, none⟩

/-- The device that takes whatever it is given. -/
def null : Device := ⟨none, none, .noSpace, none⟩

/-- Whether a device has room for `n` bytes. -/
def fits (d : Device) (n : Nat) : Bool := d.room.all (n ≤ ·)

/-- The outcome of opening a device, writing a text to it, and flushing it. -/
def save (d : Device) (text : String) : Except SystemFault Unit :=
  match d.refusal with
  | some cause => .error cause
  | none =>
    if d.fits text.utf8ByteSize then
      match d.flushFault with
      | some cause => .error cause
      | none => .ok ()
    else .error d.shortage

/-- How many bytes are held back before they are passed on. -/
def heldBack : Nat := 8192

/-- How many bytes are passed on while parts are written one after another, when `held` bytes are held
back already. Parts are passed on when the next one does not fit behind them, or is as large as all
that can be held back. -/
def passedOn (held : Nat) : List String → Nat
  | [] => 0
  | part :: parts =>
    if part.utf8ByteSize < heldBack then
      if held + part.utf8ByteSize ≤ heldBack then passedOn (held + part.utf8ByteSize) parts
      else held + passedOn part.utf8ByteSize parts
    else held + part.utf8ByteSize + passedOn 0 parts

/-- The outcome of opening a device and writing the first parts of a text that is never finished. What
was held back last is passed on too, but nobody learns how that goes. -/
def cutOff (d : Device) (parts : List String) : Except SystemFault Unit :=
  match d.refusal with
  | some cause => .error cause
  | none => if d.fits (passedOn 0 parts) then .ok () else .error d.shortage

/-- Nothing is passed on but what was written. -/
theorem passedOn_le (held : Nat) (parts : List String) :
    passedOn held parts ≤ held + (String.join parts).utf8ByteSize := by
  induction parts generalizing held with
  | nil => exact Nat.zero_le _
  | cons part parts ih =>
    rw [passedOn, String.join_cons, String.utf8ByteSize_append]
    split
    · split
      · have := ih (held + part.utf8ByteSize)
        omega
      · have := ih part.utf8ByteSize
        omega
    · have := ih 0
      omega

theorem fits_of_le {d : Device} {m n : Nat} (h : m ≤ n) (hn : d.fits n = true) :
    d.fits m = true := by
  unfold fits at *
  cases hr : d.room with
  | none => rfl
  | some room =>
    rw [hr] at hn
    exact decide_eq_true (Nat.le_trans h (of_decide_eq_true hn))

/-- What fails on the first parts of a text fails on the text. -/
theorem save_eq_error_of_cutOff {d : Device} {parts : List String} {cause : SystemFault}
    (h : d.cutOff parts = .error cause) (rest : List String) :
    d.save (String.join (parts ++ rest)) = .error cause := by
  unfold cutOff at h
  unfold save
  cases hr : d.refusal with
  | some refusal =>
    rw [hr] at h
    exact h
  | none =>
    rw [hr] at h
    simp only at h ⊢
    split at h
    · cases h
    · rename_i hfull
      have hle : passedOn 0 parts ≤ (String.join (parts ++ rest)).utf8ByteSize := by
        have := passedOn_le 0 parts
        rw [String.join_append, String.utf8ByteSize_append]
        omega
      rw [if_neg fun hfits => hfull (fits_of_le hle hfits)]
      exact h

end Device

/-- Report files and devices in a tree of folders. -/
structure Volume where
  folders : Folders
  files : List (Location × String)
  devices : List (Location × Device)

/-- What a path leads to. -/
inductive Place where
  | file (location : Location)
  | device (device : Device)

namespace Volume

/-- The volume of the root folder, without files and devices. -/
def empty : Volume := ⟨.root, [], []⟩

/-- Whether there is a file or a device at a place. -/
def holds (v : Volume) (l : Location) : Bool :=
  (v.files.lookup l).isSome || (v.devices.lookup l).isSome

/-- What is at a place, or can be. -/
def place (v : Volume) (l : Location) : Place :=
  match v.devices.lookup l with
  | some device => .device device
  | none => .file l

/-- What a path leads to. -/
def locate (v : Volume) (path : String) : Except SystemFault Place :=
  (v.folders.follow v.holds path).map v.place

/-- The volume with `text` in the file at a place. -/
def put (v : Volume) (l : Location) (text : String) : Volume :=
  { v with files := (l, text) :: v.files.filter (·.1 ≠ l) }

/-- The volume after writing `text` to the end of a path, in place of what was there. -/
def save (v : Volume) (path text : String) : Except SystemFault Volume :=
  match v.locate path with
  | .error cause => .error cause
  | .ok (.file l) => .ok (v.put l text)
  | .ok (.device device) =>
    match device.save text with
    | .error cause => .error cause
    | .ok () => .ok v

/-- The volume after writing the first parts of a text that is never finished. -/
def cutOff (v : Volume) (path : String) (parts : List String) : Except SystemFault Volume :=
  match v.locate path with
  | .error cause => .error cause
  | .ok (.file l) => .ok (v.put l (String.join parts))
  | .ok (.device device) =>
    match device.cutOff parts with
    | .error cause => .error cause
    | .ok () => .ok v

/-- The text at the end of a path, if a file is there. -/
def read (v : Volume) (path : String) : Option String :=
  match v.locate path with
  | .ok (.file l) => v.files.lookup l
  | _ => none

/-- The files in the home folder, by name. -/
def reports (v : Volume) : List (String × String) :=
  v.files.filterMap fun f => if f.1.folder = v.folders.home then some (f.1.name, f.2) else none

/-- A file takes what is written to it. -/
theorem save_of_file {v : Volume} {path : String} {l : Location}
    (h : v.locate path = .ok (.file l)) (text : String) :
    v.save path text = .ok (v.put l text) := by
  rw [save, h]

theorem cutOff_of_file {v : Volume} {path : String} {l : Location}
    (h : v.locate path = .ok (.file l)) (parts : List String) :
    v.cutOff path parts = .ok (v.put l (String.join parts)) := by
  rw [cutOff, h]

/-- What fails on the first parts of a text fails on the text. -/
theorem save_eq_error_of_cutOff {v : Volume} {path : String} {parts : List String}
    {cause : SystemFault} (h : v.cutOff path parts = .error cause) (rest : List String) :
    v.save path (String.join (parts ++ rest)) = .error cause := by
  unfold cutOff at h
  unfold save
  split at h
  · exact h
  · cases h
  · rename_i device _
    cases hd : device.cutOff parts with
    | error c =>
      rw [hd] at h
      simp only [Device.save_eq_error_of_cutOff hd rest]
      exact h
    | ok u =>
      rw [hd] at h
      cases h

/-- A file holds what it held, or what was put there. -/
theorem mem_files_put {v : Volume} {l : Location} {text : String} {f : Location × String}
    (h : f ∈ (v.put l text).files) : f ∈ v.files ∨ f.2 = text := by
  rcases List.mem_cons.1 h with rfl | h
  · exact .inr rfl
  · exact .inl (List.mem_filter.1 h).1

/-- A path leads to a file whatever files there are. -/
theorem locate_put {v : Volume} {path : String} {l : Location} (h : v.locate path = .ok (.file l))
    (m : Location) (text : String) : (v.put m text).locate path = .ok (.file l) := by
  unfold locate at *
  cases hf : v.folders.follow v.holds path with
  | error c => simp [hf, Except.map] at h
  | ok n =>
    rw [hf] at h
    have hp : (v.put m text).folders.follow (v.put m text).holds path = .ok n :=
      Folders.follow_eq_ok _ hf
    rw [hp]
    exact h

theorem read_put {v : Volume} {path : String} {l : Location} (hl : v.locate path = .ok (.file l))
    (text : String) : (v.put l text).read path = some text := by
  unfold read
  rw [locate_put hl l text]
  simp [put]

/-- A text that was written to a file is read back from it. -/
theorem read_save {v w : Volume} {path text : String} {l : Location}
    (hl : v.locate path = .ok (.file l)) (hs : v.save path text = .ok w) :
    w.read path = some text := by
  rw [save_of_file hl, Except.ok.injEq] at hs
  exact hs ▸ read_put hl text

/-- So are the first parts of a text that was never finished. -/
theorem read_cutOff {v w : Volume} {path : String} {parts : List String} {l : Location}
    (hl : v.locate path = .ok (.file l)) (hs : v.cutOff path parts = .ok w) :
    w.read path = some (String.join parts) := by
  rw [cutOff_of_file hl, Except.ok.injEq] at hs
  exact hs ▸ read_put hl (String.join parts)

end Volume

end SpanMeter
