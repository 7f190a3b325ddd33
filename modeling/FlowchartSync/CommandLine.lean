import FlowchartSync.CommandLine.Arguments
import FlowchartSync.Config.Reading
import FlowchartSync.Diagram.Json
import FlowchartSync.Summary
import FlowchartSync.Transfer

/-!
# The command line program

One diagram is read, from a file or from the standard input, and printed in the wanted form, or
only checked.  What the program reads is given to it as a source, so that a run is a function of
its arguments and what it reads.
-/

namespace FlowchartSync.CommandLine

/-- What a run may read: files by their paths, and the standard input. -/
structure Source where
  read : String → Except Fault String
  standardInput : Except Fault String

/-- Why a run fails. -/
inductive RunError where
  | configRead (path : String) (fault : Fault)
  | configInvalid
  | imported (error : ImportError)
  | standardInput (fault : Fault)
  deriving DecidableEq, Repr

/-- What is said of a failed run. -/
def RunError.message : RunError → String
  | configRead path fault => "failed to read config " ++ path ++ ": " ++ fault.message
  | configInvalid => "invalid config"
  | imported error => error.message
  | standardInput fault => "failed to read stdin: " ++ fault.message

/-- What a run leaves behind: its exit code, and what it printed. -/
structure Outcome where
  code : Nat
  printed : String
  complaint : Option String
  deriving DecidableEq, Repr

namespace Outcome

/-- A run that printed a text and a line break. -/
def line (code : Nat) (text : String) : Outcome :=
  ⟨code, text ++ "\n", none⟩

/-- A run that failed. -/
def failed (error : RunError) : Outcome :=
  ⟨1, "", some ("ERROR: " ++ error.message)⟩

/-- A run with wrong arguments. -/
def misused (error : UsageError) : Outcome :=
  ⟨2, "", some ("error: " ++ error.message)⟩

end Outcome

/-- The configuration of a run. -/
def loadConfig (source : Source) : Option String → Except RunError Config
  | none => .ok .standard
  | some path =>
      match source.read path with
      | .error fault => .error (.configRead path fault)
      | .ok text =>
          match Config.ofText text with
          | none => .error .configInvalid
          | some config => .ok config

/-- The diagram text that a run is about. -/
def loadText (source : Source) : Option String → Except RunError String
  | some path => (importContent path (source.read path)).mapError .imported
  | none =>
      match source.standardInput with
      | .error fault => .error (.standardInput fault)
      | .ok text => .ok (Fence.extract text)

/-- A diagram text in the wanted form; a text that is no flowchart has no canonical form but
itself. -/
def render (emit : Emit) (config : Config) (text : String) : String :=
  let diagram := Diagram.ofText text
  match emit with
  | .canonical => if diagram.isEditable then diagram.toCode else text
  | .json => diagram.toJson.pretty
  | .summary => Summary.text config diagram

/-- What checking a diagram text leaves behind. -/
def checkText (quiet : Bool) (text : String) : Outcome :=
  let diagram := Diagram.ofText text
  let code := if diagram.isEditable then 0 else 1
  if quiet then ⟨code, "", none⟩ else .line code diagram.verdict

/-- What a run leaves behind that reads all that it needs. -/
def Invocation.outcome (invocation : Invocation) (source : Source) : Except RunError Outcome := do
  let config ← loadConfig source invocation.configPath
  let text ← loadText source invocation.file
  if invocation.check then .ok (checkText invocation.quiet text)
  else .ok (.line 0 (render (invocation.emit.getD .canonical) config text))

/-- The name and the version of the program. -/
def versionLine : String :=
  "mermalaid 0.1.0"

/-- How the program is used. -/
def helpText : String :=
  "Normalize Mermaid flowcharts and inspect them as graphs\n\n" ++
  "Usage: mermalaid [OPTIONS] [FILE]\n\n" ++
  "Arguments:\n" ++
  "  [FILE]  Input file (.mmd, .txt, .md, .markdown); reads stdin if not provided\n\n" ++
  "Options:\n" ++
  "      --emit <EMIT>      What to print for the input [default: canonical] " ++
  "[possible values: canonical, json, summary]\n" ++
  "      --check            Only report whether the input is an editable flowchart " ++
  "(exit code 1 if not)\n" ++
  "      --config <CONFIG>  Configuration file (TOML)\n" ++
  "  -v, --verbose...       Enable verbose logging (repeat for more detail)\n" ++
  "  -q, --quiet            Suppress everything except errors\n" ++
  "  -h, --help             Print help\n" ++
  "  -V, --version          Print version"

/-- What a request leaves behind. -/
def Request.outcome (request : Request) (source : Source) : Outcome :=
  match request with
  | .version => .line 0 versionLine
  | .help => .line 0 helpText
  | .run invocation =>
      match invocation.outcome source with
      | .ok outcome => outcome
      | .error error => .failed error

/-- What a run with some arguments leaves behind. -/
def run (arguments : List String) (source : Source) : Outcome :=
  match readArguments arguments with
  | .error error => .misused error
  | .ok request => request.outcome source

/-- The files that a request may read. -/
def Request.paths : Request → List String
  | .run invocation => invocation.configPath.toList ++ invocation.file.toList
  | _ => []

/-- Whether a request reads the standard input. -/
def Request.readsStandardInput : Request → Bool
  | .run invocation => invocation.file.isNone
  | _ => false

end FlowchartSync.CommandLine
