/-!
# Files below a directory

A directory with files in it, and in the directories below it.  A path is followed from the
directory step by step: only an existing directory can be left by a further step, and two dots lead
to the directory above, though never out of the outermost one.
-/

namespace Delegation

/-- Files by their paths, with the texts that they hold. -/
abbrev Files := List (String × String)

namespace Files

/-- The names in a path, of which some may be empty. -/
def split (path : String) : List String :=
  (path.toList.splitOn '/').map String.ofList

/-- A step of a path: a dot stays, two dots lead to the directory above. -/
def step (steps : List String) (name : String) : List String :=
  if name = "" ∨ name = "." then steps
  else if name = ".." then steps.dropLast
  else steps ++ [name]

/-- The names that lead to the end of a path. -/
def parts (path : String) : List String :=
  (split path).foldl step []

/-- The text of the file at the end of some names. -/
def textAt? (files : Files) (names : List String) : Option String :=
  (files.find? fun f => parts f.1 == names).map Prod.snd

/-- Whether there is a directory at the end of some names: it holds a file or a directory. -/
def isDirectory (files : Files) (names : List String) : Bool :=
  names.isEmpty || files.any fun f =>
    names.isPrefixOf (parts f.1) && names.length < (parts f.1).length

/-- Follow a step from an existing directory. -/
def follow? (files : Files) (names : List String) (name : String) : Option (List String) :=
  if files.isDirectory names && !(names.isEmpty && name == "..") then some (step names name)
  else none

/-- The text of the file that a path leads to. -/
def get? (files : Files) (path : String) : Option String :=
  if path.isEmpty ∨ path.startsWith "/" then none
  else ((split path).foldlM files.follow? []).bind files.textAt?

end Files

end Delegation
