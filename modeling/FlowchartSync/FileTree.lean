import FlowchartSync.Path

/-!
# File trees

A file tree holds directories and files under a root directory.  A path is followed from the root
piece by piece: every piece but the last has to be reached through a directory, two dots lead to
the directory above, and a slash at the end asks for a directory.

A file holds a text, or bytes that are not the encoding of any text; nothing ever looks at such
bytes.
-/

namespace FlowchartSync

/-- Why a file or a directory cannot be read or written. -/
inductive Fault where
  | notFound
  | alreadyExists
  | notDirectory
  | isDirectory
  | notText
  | other (message : String)
  deriving DecidableEq, Repr

/-- What is said of a fault. -/
def Fault.message : Fault → String
  | notFound => "No such file or directory (os error 2)"
  | alreadyExists => "File exists (os error 17)"
  | notDirectory => "Not a directory (os error 20)"
  | isDirectory => "Is a directory (os error 21)"
  | notText => "stream did not contain valid UTF-8"
  | other message => message

/-- A place in a file tree: the names that lead to it from the root. -/
abbrev Location := List (List Char)

/-- What stands at a place: a directory, or a file with its text if its bytes are one. -/
inductive FileEntry where
  | directory
  | file (text : Option String)
  deriving DecidableEq, Repr

/-- Directories and files by their places.  The root is a directory without being listed. -/
structure FileTree where
  entries : List (Location × FileEntry)
  deriving DecidableEq, Repr

namespace FileTree

/-- The tree with nothing below its root. -/
def empty : FileTree :=
  ⟨[]⟩

/-- What stands at a place. -/
def entry? (tree : FileTree) (place : Location) : Option FileEntry :=
  if place.isEmpty then some .directory else tree.entries.lookup place

/-- The tree with an entry put at a place. -/
def put (tree : FileTree) (place : Location) (entry : FileEntry) : FileTree :=
  ⟨(place, entry) :: tree.entries.filter fun old => old.1 != place⟩

/-- One piece of a path followed from a place, which has to be a directory. -/
def follow (tree : FileTree) (place : Location) (step : List Char) : Except Fault Location :=
  match tree.entry? place with
  | none => .error .notFound
  | some (.file _) => .error .notDirectory
  | some .directory =>
      if Path.staysPut step then .ok place
      else if step = "..".toList then
        if place.isEmpty then .error .notFound else .ok place.dropLast
      else .ok (place ++ [step])

/-- The place that the pieces of a path lead to from the root. -/
def locate (tree : FileTree) (steps : List (List Char)) : Except Fault Location :=
  steps.foldlM tree.follow []

/-- The text of the file at a path. -/
def read (tree : FileTree) (path : List Char) : Except Fault String := do
  if path.isEmpty then .error .notFound
  else
    let place ← tree.locate (Path.steps path)
    match tree.entry? place with
    | none => .error .notFound
    | some .directory => .error .isDirectory
    | some (.file none) => .error .notText
    | some (.file (some text)) => .ok text

/-- The pieces of a path without the slashes at its end. -/
def trimmedSteps (path : List Char) : List (List Char) :=
  ((Path.steps path).reverse.dropWhile List.isEmpty).reverse

/-- The tree with a file written at a path, in place of any file there.  A path that ends in a
slash cannot be a file. -/
def write (tree : FileTree) (path : List Char) (content : Option String) :
    Except Fault FileTree := do
  if path.isEmpty then .error .notFound
  else
    let place ← tree.locate (trimmedSteps path)
    if path.getLast? = some '/' then .error .isDirectory
    else
      match tree.entry? place with
      | some .directory => .error .isDirectory
      | _ => .ok (tree.put place (.file content))

/-- Whether the pieces of a path lead to a directory. -/
def isDirectory (tree : FileTree) (steps : List (List Char)) : Bool :=
  match tree.locate steps with
  | .error _ => false
  | .ok place => tree.entry? place == some .directory

/-- The tree with a directory made where the pieces of a path lead. -/
def makeDirectory (tree : FileTree) (steps : List (List Char)) : Except Fault FileTree := do
  let place ← tree.locate steps
  match tree.entry? place with
  | some _ => .error .alreadyExists
  | none => .ok (tree.put place .directory)

/-- A tree after an attempt that may have gone part of the way, and how the attempt ended. -/
abbrev Attempt := FileTree × Except Fault Unit

/-- A directory made after the directories above it, which are only made if they are missing. -/
def makeBelow (tree : FileTree) (steps : List (List Char)) (above : FileTree → Attempt) :
    Attempt :=
  match tree.makeDirectory steps with
  | .ok made => (made, .ok ())
  | .error .notFound =>
      match above tree with
      | (reached, .error fault) => (reached, .error fault)
      | (ready, .ok ()) =>
          match ready.makeDirectory steps with
          | .ok made => (made, .ok ())
          | .error fault =>
              (ready, if ready.isDirectory steps then .ok () else .error fault)
  | .error fault => (tree, if tree.isDirectory steps then .ok () else .error fault)

/-- The directories made that parts of a path, given last part first, lead through. -/
def makeParts : List (List Char) → FileTree → Attempt
  | [], tree => (tree, .ok ())
  | part :: above, tree => tree.makeBelow (part :: above).reverse (makeParts above)

/-- The directory at a path made, with all directories above it. -/
def makeDirectories (tree : FileTree) (path : List Char) : Attempt :=
  if path.isEmpty then (tree, .ok ())
  else tree.makeBelow (trimmedSteps path) (makeParts (Path.parts path).reverse.tail)

end FileTree

end FlowchartSync
