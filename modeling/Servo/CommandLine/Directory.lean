/-!
# Directories

A `Directory` has files and no other directories in it.  `Directory.read?` and
`Directory.write?` find the file to which a path leads: the last part of the path is its
name, and the parts before it may only stay in the directory.
-/

namespace Servo

/-- A directory with files only. -/
structure Directory where
  /-- The contents of the files by their names, the latest first. -/
  files : List (String × ByteArray)

namespace Directory

/-- The bytes that a path may have. -/
def pathLimit : Nat := 4095

/-- The bytes that the name of a file may have. -/
def nameLimit : Nat := 255

/-- A part of a path that stays in the directory. -/
def stays (part : String) : Bool := part = "" ∨ part = "."

/-- A file may have this name. -/
def isName (name : String) : Bool := name ≠ ".." ∧ name.utf8ByteSize ≤ nameLimit

/-- The name of the file to which a path leads.  A path from the root leads elsewhere, one
that ends in a slash leads to no file, and no path has a character of code zero in it. -/
def nameOf? (path : String) : Option String :=
  if path.startsWith "/" ∨ path.toList.contains '\x00' ∨ pathLimit < path.utf8ByteSize then none
  else
    match (path.splitOn "/").dropWhile stays with
    | [name] => if isName name then some name else none
    | _ => none

/-- The content of the file with a name. -/
def get? (d : Directory) (name : String) : Option ByteArray := d.files.lookup name

/-- The directory in which the file with a name has some content. -/
def put (d : Directory) (name : String) (content : ByteArray) : Directory :=
  ⟨(name, content) :: d.files⟩

/-- The content of the file to which a path leads; none if it leads to no file. -/
def read? (d : Directory) (path : String) : Option ByteArray := (nameOf? path).bind d.get?

/-- The directory after a file is written; none if the path cannot lead to a file. -/
def write? (d : Directory) (path : String) (content : ByteArray) : Option Directory :=
  (nameOf? path).map (d.put · content)

/-- A directory with some files, of which the last one with a name counts. -/
def ofList (files : List (String × ByteArray)) : Directory := ⟨files.reverse⟩

end Directory

end Servo
