import FlowchartSync.Fence
import FlowchartSync.FileTree

/-!
# Import and export

A diagram is imported from a file with one of a few extensions, out of its code block if it
stands in one.  It is exported as it stands, to a path that gets the extension of diagrams if it
lacks it.
-/

namespace FlowchartSync

/-- Extensions of files that may hold a diagram, in any case of their letters. -/
def importExtensions : List (List Char) :=
  ["mmd".toList, "txt".toList, "md".toList, "markdown".toList]

/-- The extension of exported diagrams. -/
def exportExtension : List Char :=
  "mmd".toList

/-- Why an import fails. -/
inductive ImportError where
  | unsupportedExtension (path : String)
  | read (path : String) (fault : Fault)
  | empty (path : String)
  deriving DecidableEq, Repr

/-- What is said of a failed import. -/
def ImportError.message : ImportError → String
  | unsupportedExtension path =>
      "invalid file type `" ++ path ++ "`: expected one of .mmd, .txt, .md, .markdown"
  | read path fault => "failed to read `" ++ path ++ "`: " ++ fault.message
  | empty path => "`" ++ path ++ "` contains no diagram"

/-- Why an export fails. -/
structure ExportError where
  path : String
  fault : Fault
  deriving DecidableEq, Repr

/-- What is said of a failed export. -/
def ExportError.message (error : ExportError) : String :=
  "failed to write `" ++ error.path ++ "`: " ++ error.fault.message

/-- Whether a path has an extension of files that may hold a diagram. -/
def isImportable (path : List Char) : Bool :=
  importExtensions.any fun extension => Path.hasExtension extension path

/-- The diagram text in a file, from what reading the file gave.  The extension is checked before
anything else. -/
def importContent (path : String) (content : Except Fault String) : Except ImportError String :=
  if !isImportable path.toList then .error (.unsupportedExtension path)
  else
    match content with
    | .error fault => .error (.read path fault)
    | .ok text =>
        let code := Fence.extract text
        if code = "" then .error (.empty path) else .ok code

/-- The path that a diagram is exported to. -/
def exportPath (path : List Char) : List Char :=
  if Path.hasExtension exportExtension path then path else path ++ '.' :: exportExtension

namespace FileTree

/-- The diagram text in the file at a path. -/
def importDiagram (tree : FileTree) (path : String) : Except ImportError String :=
  importContent path (tree.read path.toList)

/-- The path that a text was exported to, and the tree with it. -/
def exportText (tree : FileTree) (path text : String) : Except ExportError (String × FileTree) :=
  let target := exportPath path.toList
  match tree.write target (some text) with
  | .error fault => .error ⟨String.ofList target, fault⟩
  | .ok written => .ok (String.ofList target, written)

end FileTree

end FlowchartSync
