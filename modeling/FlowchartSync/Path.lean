import FlowchartSync.Text.Lines
import FlowchartSync.Text.Literal

/-!
# Paths

A path is a text with slashes.  Its parts are what stands between the slashes, without empty
parts and single dots.  The last part is the file name unless it leads upwards, and the extension
of a file name starts after its last dot, which may not be its first character.
-/

namespace FlowchartSync.Path

/-- The pieces of a path between slashes, as they are followed one by one. -/
def steps (path : List Char) : List (List Char) :=
  Text.pieces '/' path

/-- Whether following a piece stays in the same directory. -/
def staysPut (step : List Char) : Bool :=
  step.isEmpty || step == ".".toList

/-- The pieces of a path that lead somewhere else. -/
def parts (path : List Char) : List (List Char) :=
  (steps path).filter fun step => !staysPut step

/-- The file name at the end of a path. -/
def fileName? (path : List Char) : Option (List Char) :=
  match (parts path).getLast? with
  | none => none
  | some part => if part = "..".toList then none else some part

/-- What stands after the last dot of a file name.  A dot at the start of the name begins no
extension. -/
def extensionOf? (name : List Char) : Option (List Char) :=
  match (name.reverse.dropWhile (· != '.')).drop 1 with
  | [] => none
  | _ :: _ => some (name.reverse.takeWhile (· != '.')).reverse

/-- The extension of a path's file name. -/
def extension? (path : List Char) : Option (List Char) := do
  extensionOf? (← fileName? path)

/-- Whether a path has an extension, in any case of its letters. -/
def hasExtension (wanted path : List Char) : Bool :=
  match extension? path with
  | none => false
  | some extension => Text.sameWord wanted extension

/-- A path inside a directory. -/
def join (directory : List Char) (name : List Char) : List Char :=
  match directory.getLast? with
  | none => name
  | some '/' => directory ++ name
  | some _ => directory ++ '/' :: name

end FlowchartSync.Path
