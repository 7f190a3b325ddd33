/-!
# Command line arguments

The arguments name at most one file and some options.  Options are read from left to right; asking
for the version or for help ends the reading at once, whatever follows.  Every option but the one
for verbosity may be given once.  After `--` everything names files.
-/

namespace FlowchartSync.CommandLine

/-- What is printed for a diagram. -/
inductive Emit where
  | canonical
  | json
  | summary
  deriving DecidableEq, Repr

namespace Emit

/-- All kinds of output. -/
def all : List Emit :=
  [canonical, json, summary]

/-- The name of a kind of output. -/
def name : Emit → String
  | canonical => "canonical"
  | json => "json"
  | summary => "summary"

/-- The kind of output of a name. -/
def ofName? (text : String) : Option Emit :=
  all.find? fun emit => emit.name == text

end Emit

/-- What the arguments ask for.  A kind of output that is not given is the canonical text. -/
structure Invocation where
  file : Option String
  emit : Option Emit
  check : Bool
  configPath : Option String
  verbosity : Nat
  quiet : Bool
  deriving DecidableEq, Repr

/-- What no arguments ask for. -/
def Invocation.empty : Invocation :=
  ⟨none, none, false, none, 0, false⟩

/-- Why arguments are wrong. -/
inductive UsageError where
  | unknownOption (argument : String)
  | unexpectedValue (option : String)
  | missingValue (option : String)
  | invalidValue (option value : String)
  | repeatedOption (option : String)
  | surplusArgument (argument : String)
  deriving DecidableEq, Repr

/-- What is said of wrong arguments. -/
def UsageError.message : UsageError → String
  | unknownOption argument => "unexpected argument '" ++ argument ++ "' found"
  | unexpectedValue option => "unexpected value for '" ++ option ++ "'"
  | missingValue option => "a value is required for '" ++ option ++ "' but none was supplied"
  | invalidValue option value => "invalid value '" ++ value ++ "' for '" ++ option ++ "'"
  | repeatedOption option => "the argument '" ++ option ++ "' cannot be used multiple times"
  | surplusArgument argument => "unexpected argument '" ++ argument ++ "' found"

/-- What the arguments come to: the version, the help, or a run. -/
inductive Request where
  | version
  | help
  | run (invocation : Invocation)
  deriving DecidableEq, Repr

namespace Invocation

/-- The invocation with a file. -/
def withFile (invocation : Invocation) (path : String) : Except UsageError Invocation :=
  if invocation.file.isSome then .error (.surplusArgument path)
  else if path = "" then .error (.invalidValue "[FILE]" path)
  else .ok { invocation with file := some path }

/-- The invocation with a kind of output. -/
def withEmit (invocation : Invocation) (value : String) : Except UsageError Invocation :=
  if invocation.emit.isSome then .error (.repeatedOption "--emit")
  else
    match Emit.ofName? value with
    | none => .error (.invalidValue "--emit" value)
    | some emit => .ok { invocation with emit := some emit }

/-- The invocation with a configuration file. -/
def withConfig (invocation : Invocation) (path : String) : Except UsageError Invocation :=
  if invocation.configPath.isSome then .error (.repeatedOption "--config")
  else if path = "" then .error (.invalidValue "--config" path)
  else .ok { invocation with configPath := some path }

/-- The invocation that only checks. -/
def withCheck (invocation : Invocation) : Except UsageError Invocation :=
  if invocation.check then .error (.repeatedOption "--check")
  else .ok { invocation with check := true }

/-- The invocation that prints nothing but errors. -/
def withQuiet (invocation : Invocation) : Except UsageError Invocation :=
  if invocation.quiet then .error (.repeatedOption "--quiet")
  else .ok { invocation with quiet := true }

/-- The invocation with more detail in the log. -/
def withVerbose (invocation : Invocation) : Invocation :=
  { invocation with verbosity := invocation.verbosity + 1 }

end Invocation

/-- An option that takes a value. -/
inductive ValueOption where
  | emit
  | config
  deriving DecidableEq, Repr

/-- An option without a value. -/
inductive Flag where
  | check
  | verbose
  | quiet
  | version
  | help
  deriving DecidableEq, Repr

/-- An option that takes a value, by its long name. -/
def valueOption? (name : String) : Option ValueOption :=
  [("emit", .emit), ("config", .config)].lookup name

/-- An option without a value, by its long name. -/
def longFlag? (name : String) : Option Flag :=
  [("check", .check), ("verbose", .verbose), ("quiet", .quiet), ("version", .version),
    ("help", .help)].lookup name

/-- An option without a value, by its letter. -/
def shortFlag? (letter : Char) : Option Flag :=
  [('v', Flag.verbose), ('q', .quiet), ('V', .version), ('h', .help)].lookup letter

/-- The invocation with the value of an option. -/
def setValue (invocation : Invocation) (option : ValueOption) (value : String) :
    Except UsageError Invocation :=
  match option with
  | .emit => invocation.withEmit value
  | .config => invocation.withConfig value

/-- What an option without a value comes to: an end of the reading, or an invocation to go on
with. -/
def setFlag (invocation : Invocation) : Flag → Except UsageError (Request ⊕ Invocation)
  | .check => invocation.withCheck.map .inr
  | .verbose => .ok (.inr invocation.withVerbose)
  | .quiet => invocation.withQuiet.map .inr
  | .version => .ok (.inl .version)
  | .help => .ok (.inl .help)

/-- What the letters of a cluster of short options come to. -/
def setCluster (invocation : Invocation) : List Char → Except UsageError (Request ⊕ Invocation)
  | [] => .ok (.inr invocation)
  | letter :: letters =>
      match shortFlag? letter with
      | none => .error (.unknownOption (String.ofList ['-', letter]))
      | some flag =>
          match setFlag invocation flag with
          | .error error => .error error
          | .ok (.inl request) => .ok (.inl request)
          | .ok (.inr after) => setCluster after letters

/-- Whether an argument looks like an option, so that it is no value of the option before it. -/
def looksLikeOption (argument : String) : Bool :=
  match argument.toList with
  | '-' :: _ :: _ => true
  | _ => false

/-- The invocation with every argument taken as a file. -/
def takeFiles (invocation : Invocation) (arguments : List String) :
    Except UsageError Invocation :=
  arguments.foldlM Invocation.withFile invocation

/-- What arguments come to, from an invocation to go on with. -/
def readFrom (invocation : Invocation) : List String → Except UsageError Request
  | [] => .ok (.run invocation)
  | argument :: rest =>
      match argument.toList with
      | ['-', '-'] => (takeFiles invocation rest).map .run
      | '-' :: '-' :: long =>
          let name := String.ofList (long.takeWhile (· != '='))
          match valueOption? name, longFlag? name, long.dropWhile (· != '=') with
          | some option, _, _ :: value =>
              match setValue invocation option (String.ofList value) with
              | .error error => .error error
              | .ok after => readFrom after rest
          | some option, _, [] =>
              match rest with
              | [] => .error (.missingValue argument)
              | value :: others =>
                  if looksLikeOption value then .error (.missingValue argument)
                  else
                    match setValue invocation option value with
                    | .error error => .error error
                    | .ok after => readFrom after others
          | none, some _, _ :: _ => .error (.unexpectedValue argument)
          | none, some flag, [] =>
              match setFlag invocation flag with
              | .error error => .error error
              | .ok (.inl request) => .ok request
              | .ok (.inr after) => readFrom after rest
          | none, none, _ => .error (.unknownOption argument)
      | '-' :: letter :: letters =>
          match setCluster invocation (letter :: letters) with
          | .error error => .error error
          | .ok (.inl request) => .ok request
          | .ok (.inr after) => readFrom after rest
      | _ =>
          match invocation.withFile argument with
          | .error error => .error error
          | .ok after => readFrom after rest

/-- What arguments come to. -/
def readArguments (arguments : List String) : Except UsageError Request :=
  readFrom .empty arguments

end FlowchartSync.CommandLine
