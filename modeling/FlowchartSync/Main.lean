import FlowchartSync.CommandLine

/-!
# Running the command line program

The files and the standard input that the arguments ask for are read, the run is worked out from
them, and what it leaves behind is printed.
-/

namespace FlowchartSync.CommandLine

/-- The fault behind a failed access to a file. -/
def faultOf : IO.Error → Fault
  | .noFileOrDirectory .. => .notFound
  | .alreadyExists .. => .alreadyExists
  | .inappropriateType .. => .isDirectory
  | error => .other error.toString

/-- The text in some bytes. -/
def decode (bytes : ByteArray) : Except Fault String :=
  match String.fromUTF8? bytes with
  | some text => .ok text
  | none => .error .notText

/-- The text of a file. -/
def readPath (path : String) : IO (Except Fault String) := do
  try
    return decode (← IO.FS.readBinFile path)
  catch error => return .error (faultOf error)

/-- The text of the standard input. -/
def readInput : IO (Except Fault String) := do
  try
    return decode (← (← IO.getStdin).readBinToEnd)
  catch error => return .error (faultOf error)

/-- What a request may read. -/
def gather (request : Request) : IO Source := do
  let files ← request.paths.mapM fun path => return (path, ← readPath path)
  let input ← if request.readsStandardInput then readInput else pure (.ok "")
  return ⟨fun path => (files.lookup path).getD (.error .notFound), input⟩

/-- An outcome printed. -/
def report (outcome : Outcome) : IO UInt32 := do
  (← IO.getStdout).putStr outcome.printed
  if let some complaint := outcome.complaint then
    (← IO.getStderr).putStrLn complaint
  return UInt32.ofNat outcome.code

/-- One run of the program. -/
def perform (arguments : List String) : IO UInt32 := do
  match readArguments arguments with
  | .error error => report (.misused error)
  | .ok request => report (request.outcome (← gather request))

end FlowchartSync.CommandLine

/-- The program. -/
def main (arguments : List String) : IO UInt32 :=
  FlowchartSync.CommandLine.perform arguments
