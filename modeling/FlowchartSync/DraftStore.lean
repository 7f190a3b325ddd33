import FlowchartSync.FileTree

/-!
# Draft stores

The current text survives between sessions as a draft.  It is kept in memory, or in a file of a
fixed name in some directory, which is made when a draft is saved.
-/

namespace FlowchartSync

/-- The file that a draft is kept in. -/
def draftName : List Char :=
  "mermalaid-draft".toList

/-- Why a draft cannot be loaded or saved. -/
inductive DraftError where
  | read (fault : Fault)
  | write (fault : Fault)
  deriving DecidableEq, Repr

/-- What is said of a failed load or save. -/
def DraftError.message : DraftError → String
  | read fault => "failed to read draft: " ++ fault.message
  | write fault => "failed to write draft: " ++ fault.message

/-- Where the draft is kept: in memory, with the number of times it was saved, or in a
directory. -/
inductive DraftStore where
  | memory (draft : Option String) (writes : Nat)
  | directory (path : String)
  deriving DecidableEq, Repr

namespace DraftStore

/-- A store in memory that holds a draft already, or none. -/
def ofDraft (draft : Option String) : DraftStore :=
  memory draft 0

/-- The path of the draft in a directory. -/
def draftPath (directory : String) : List Char :=
  Path.join directory.toList draftName

/-- The draft that is kept, if any; a file that is missing is no draft. -/
def load (store : DraftStore) (tree : FileTree) : Except DraftError (Option String) :=
  match store with
  | memory draft _ => .ok draft
  | directory path =>
      match tree.read (draftPath path) with
      | .ok text => .ok (some text)
      | .error .notFound => .ok none
      | .error fault => .error (.read fault)

/-- The file tree with a draft saved in a directory. -/
def saveFile (tree : FileTree) (path text : String) : FileTree × Except DraftError Unit :=
  match tree.makeDirectories path.toList with
  | (made, .error fault) => (made, .error (.write fault))
  | (made, .ok ()) =>
      match made.write (draftPath path) (some text) with
      | .error fault => (made, .error (.write fault))
      | .ok written => (written, .ok ())

/-- The store and the file tree after a draft is saved, and whether that worked. -/
def save (store : DraftStore) (tree : FileTree) (text : String) :
    DraftStore × FileTree × Except DraftError Unit :=
  match store with
  | memory _ writes => (memory (some text) (writes + 1), tree, .ok ())
  | directory path =>
      let (saved, result) := saveFile tree path text
      (directory path, saved, result)

end DraftStore

end FlowchartSync
