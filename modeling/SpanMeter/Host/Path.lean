import SpanMeter.Fault.Cause

/-!
# Paths

A path leads through folders to a place where a file can be. The folders that are there do not change;
among them is the home folder, in front of whose path every path is set that does not start at the root.

* `Folders.complete` sets the home folder's path before a path.
* `Folders.walk` goes from part to part of a path. It refuses a part that is no folder, a name that is
  too long, and a path that ends in a folder or in a slash.
* `Folders.follow` leads from a path to a place. Whether it gets there does not depend on the files
  (`follow_eq_ok`), only the reason why it does not.
-/

namespace SpanMeter

/-- A place for a file: a name in a folder, which is given by its parts from the root. -/
structure Location where
  folder : List String
  name : String
  deriving DecidableEq

/-- The folders that are there: the home folder, some others, and all folders around them. -/
structure Folders where
  home : List String
  others : List (List String)
  deriving DecidableEq

namespace Folders

/-- The root folder, which is the home folder too. -/
def root : Folders := ⟨[], []⟩

/-- Whether a folder is there. -/
def contains (f : Folders) (folder : List String) : Bool :=
  (f.home :: f.others).any fun known => folder.isPrefixOf known

/-- The longest name, in bytes. -/
def nameLimit : Nat := 255

/-- The longest path, in bytes. -/
def pathLimit : Nat := 4095

/-- The path of a folder, with a slash at its end. -/
def pathOf (folder : List String) : String := "/" ++ String.join (folder.map (· ++ "/"))

/-- A path from the root: the path itself, or the home folder's path and then the path. -/
def complete (f : Folders) (path : String) : String :=
  if path.toList.head? = some '/' then path else pathOf f.home ++ path

/-- Whether a part of a path stands for the folder that it is in, or for the one around it. -/
def isDots (part : String) : Bool := part = "." || part = ".."

/-- Where the parts of a path lead from a folder; `slash` tells that the path ended in a slash, and
`taken` where files are. The root folder stands for the one around it. -/
def walk (f : Folders) (taken : Location → Bool) (slash : Bool) :
    List String → List String → Except SystemFault Location
  | _, [] => .error .isADirectory
  | folder, [part] =>
    if slash || isDots part then .error .isADirectory
    else if nameLimit < part.utf8ByteSize then .error .nameTooLong
    else if f.contains (folder ++ [part]) then .error .isADirectory
    else .ok ⟨folder, part⟩
  | folder, part :: rest =>
    if part = "." then f.walk taken slash folder rest
    else if part = ".." then f.walk taken slash folder.dropLast rest
    else if nameLimit < part.utf8ByteSize then .error .nameTooLong
    else if f.contains (folder ++ [part]) then f.walk taken slash (folder ++ [part]) rest
    else if taken ⟨folder, part⟩ then .error .notADirectory
    else .error .notFound

/-- The place to which a path leads. -/
def follow (f : Folders) (taken : Location → Bool) (path : String) : Except SystemFault Location :=
  if path.toList.contains '\x00' then .error .nulInPath
  else if path = "" then .error .notFound
  else if pathLimit < (f.complete path).utf8ByteSize then .error .nameTooLong
  else
    let parts := (f.complete path).splitOn "/"
    f.walk taken (parts.getLast? = some "") [] (parts.filter (· ≠ ""))

theorem walk_eq_ok {f : Folders} {taken : Location → Bool} (taken' : Location → Bool) {slash : Bool}
    {folder parts : List String} {l : Location} (h : f.walk taken slash folder parts = .ok l) :
    f.walk taken' slash folder parts = .ok l := by
  fun_induction f.walk taken slash folder parts <;> simp_all [walk]

/-- The way to a place does not depend on where files are. -/
theorem follow_eq_ok {f : Folders} {taken : Location → Bool} (taken' : Location → Bool)
    {path : String} {l : Location} (h : f.follow taken path = .ok l) :
    f.follow taken' path = .ok l := by
  simp only [follow] at *
  split at h
  · cases h
  rename_i h₁
  split at h
  · cases h
  rename_i h₂
  split at h
  · cases h
  rename_i h₃
  rw [if_neg h₁, if_neg h₂, if_neg h₃]
  exact walk_eq_ok taken' h

end Folders

end SpanMeter
