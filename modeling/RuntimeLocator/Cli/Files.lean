/-
Files as a run sees them: which paths can be read and what they hold. A directory tree
held in memory is one way to give them.
-/

import RuntimeLocator.Text.Utf8

namespace RuntimeLocator.Cli

/-- A text as the system holds it: bytes, which need not spell one. -/
abbrev RawText := List UInt8

/-- A path. Paths are told apart by their bytes. -/
abbrev Path := RawText

/-- A path as it is shown, with U+FFFD in the place of each damaged part. -/
def Path.display (path : Path) : String :=
  Utf8.lenient path

/-- A name within a directory. -/
def Path.within (directory : Path) (name : String) : Path :=
  if directory = [] ∨ directory.getLast? = some 0x2F then directory ++ Utf8.bytes name
  else directory ++ 0x2F :: Utf8.bytes name

/-- Why a file could not be read. -/
inductive FileFailure where
  | notFound
  | isDirectory
  | notDirectory
  | nameTooLong
  | nulInName
  /-- The file holds no text. -/
  | notText
  | other (description : String)
deriving DecidableEq

def FileFailure.message : FileFailure → String
  | .notFound => "No such file or directory (os error 2)"
  | .isDirectory => "Is a directory (os error 21)"
  | .notDirectory => "Not a directory (os error 20)"
  | .nameTooLong => "File name too long (os error 36)"
  | .nulInName => "file name contained an unexpected NUL byte"
  | .notText => "stream did not contain valid UTF-8"
  | .other description => description

/-- What each path leads to. -/
structure Files where
  /-- Whether it is a regular file, which may be there and still not be readable; or why that
  cannot be told. -/
  look : Path → Except FileFailure Bool
  /-- What reading it gives. -/
  read : Path → Except FileFailure (List UInt8)

/-- What was found at a path. -/
structure Copy where
  path : Path
  look : Except FileFailure Bool
  content : Except FileFailure (List UInt8)

namespace Files

/-- Whether a path leads to a regular file, as far as can be told. -/
def isFile (files : Files) (path : Path) : Bool :=
  match files.look path with
  | .ok regular => regular
  | .error _ => false

/-- The text of a file. -/
def readText (files : Files) (path : Path) : Except FileFailure String :=
  match files.read path with
  | .error failure => .error failure
  | .ok data =>
    match Utf8.strict? data with
    | none => .error .notText
    | some text => .ok text

/-- The files of which copies were made; no other path is there. -/
def ofCopies (copies : List Copy) : Files where
  look path :=
    match copies.find? (·.path == path) with
    | some copy => copy.look
    | none => .error .notFound
  read path :=
    match copies.find? (·.path == path) with
    | some copy => copy.content
    | none => .error .notFound

end Files

/-! ### Directory trees -/

/-- A tree of directories, given by its files in the order in which they were written: each
has the components of its path from the root, and every part of such a path is a
directory. Paths without a leading slash start at the working directory. -/
structure Tree where
  workingDirectory : List RawText
  files : List (List RawText × List UInt8)

namespace Tree

/-- Whether the components lead to a directory. -/
def isDirectory (tree : Tree) (path : List RawText) : Bool :=
  path.isPrefixOf tree.workingDirectory ||
    tree.files.any fun file => path.length < file.1.length && path.isPrefixOf file.1

/-- The data of the file that the components lead to, as it was written last. -/
def file? (tree : Tree) (path : List RawText) : Option (List UInt8) :=
  (tree.files.reverse.find? (·.1 == path)).map (·.2)

/-- The components between the slashes of a path, the empty ones included. -/
def components (path : Path) : List RawText :=
  Utf8.splitAt 0x2F path

/-- One step from a place: an empty component and a dot stay there, two dots go up, and
any other component leads to a place of its name. -/
def step (place : List RawText) (component : RawText) : List RawText :=
  if component = [] ∨ component = Utf8.bytes "." then place
  else if component = Utf8.bytes ".." then place.dropLast
  else place ++ [component]

/-- The tree of files that were written from a working directory, under paths relative
to it. -/
def ofFiles (workingDirectory : List RawText) (files : List (Path × List UInt8)) : Tree where
  workingDirectory := workingDirectory
  files := files.map fun file => ((components file.1).foldl step workingDirectory, file.2)

/-- Follows components from a place. Each place on the way must be a directory, and a name
takes 255 bytes at most. -/
def follow (tree : Tree) (place : List RawText) :
    List RawText → Except FileFailure (List RawText)
  | [] => .ok place
  | component :: rest =>
    if tree.isDirectory place then
      if 255 < component.length then .error .nameTooLong
      else tree.follow (step place component) rest
    else if (tree.file? place).isSome then .error .notDirectory
    else .error .notFound

/-- The place that a path leads to. -/
def locate (tree : Tree) (path : Path) : Except FileFailure (List RawText) :=
  if path.contains 0 then .error .nulInName
  else if path = [] then .error .notFound
  else if 4096 ≤ path.length then .error .nameTooLong
  else
    let start := if path.head? = some 0x2F then [] else tree.workingDirectory
    tree.follow start (components path)

/-- The files of a tree. -/
def toFiles (tree : Tree) : Files where
  look path :=
    match tree.locate path with
    | .error failure => .error failure
    | .ok place =>
      if (tree.file? place).isSome then .ok true
      else if tree.isDirectory place then .ok false
      else .error .notFound
  read path :=
    match tree.locate path with
    | .error failure => .error failure
    | .ok place =>
      match tree.file? place with
      | some data => .ok data
      | none => if tree.isDirectory place then .error .isDirectory else .error .notFound

end Tree

end RuntimeLocator.Cli
