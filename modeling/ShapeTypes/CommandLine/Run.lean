import ShapeTypes.CommandLine.Options
import ShapeTypes.FileTree.Write
import ShapeTypes.Generator
import ShapeTypes.Name.Pascal
import ShapeTypes.SourceCheck
import ShapeTypes.Text.ControlSequence
import ShapeTypes.Value.Json

/-!
# The command line

A run reads a schema and perhaps a configuration from a file tree, generates the document and writes
it. The schema may name surrogates, for which a run is told characters to stand in for them; the
texts of a run show these characters.

* `Invocation`, `Rejection`, `CommandLine.invocation`: what a command line asks for, why it asks for
  nothing, and how that is found out.
* `CommandLine.prepare`: the document to be written; nothing is written by then.
* `CommandLine.execute`: the tree after the document is written.
* `CommandLine.run`: the run as its user sees it, by exit code and texts.
-/

namespace ShapeTypes.CommandLine

open Text (StandIns)

/-- What a command line asks for. -/
structure Invocation where
  /-- The choices made by options. -/
  choices : Choices
  /-- The file with the schema. -/
  source : Place
  /-- The file to be written. -/
  target : Place
  /-- The file with the configuration. -/
  config : Option Place

/-- Why a command line asks for nothing that can be carried out. -/
inductive Rejection where
  /-- It is not well formed, or does not fit the files there are. -/
  | usage (fault : UsageFault)
  /-- It cannot be looked at. -/
  | failure (failure : Failure)

/-- The place that a written path means. -/
def placeOf (here : Place) (written : String) : Except Rejection Place :=
  if Path.holdsNull written then .error (.failure .nullCharacter)
  else .ok (Path.ofString here written).simplified

/-- The place of the configuration file, which has to exist. -/
def configPlace (here : Place) (tree : FileTree) (written : String) : Except Rejection Place := do
  let place ← placeOf here written
  if (tree.get? place).isSome then return place
  else throw (.usage (.nonexistent "'--config' / '-c'" "Path" written))

/-- The place of an argument that names a file. -/
def filePlace (here : Place) (tree : FileTree) (parameter : String) (mustExist : Bool) :
    Option String → Except Rejection Place
  | none => .error (.usage (.missingArgument parameter))
  | some written => do
    let place ← placeOf here written
    match tree.get? place with
    | some (.directory _) => throw (.usage (.directory ("'" ++ parameter ++ "'") "File" written))
    | some (.file _) => return place
    | none =>
      if mustExist then throw (.usage (.nonexistent ("'" ++ parameter ++ "'") "File" written))
      else return place

/-- What a scanned command line asks for. The configuration is looked at first, then the arguments
in order, then whatever follows them. -/
def invocation (here : Place) (tree : FileTree) (scanned : Scanned) :
    Except Rejection Invocation := do
  let choices := Choices.ofSettings scanned.settings
  let config ←
    match choices.config with
    | some written => (configPlace here tree written).map some
    | none => pure none
  let source ← filePlace here tree "PATH" true scanned.arguments[0]?
  let target ← filePlace here tree "OUTPUT" false scanned.arguments[1]?
  match scanned.arguments.drop 2 with
  | [] => return ⟨choices, source, target, config⟩
  | extra => throw (.usage (.extraArguments extra))

/-! ## Documents -/

/-- The text with every line end written as a line feed. -/
def unifyLineEnds : List Char → List Char
  | [] => []
  | '\r' :: '\n' :: rest => '\n' :: unifyLineEnds rest
  | '\r' :: rest => '\n' :: unifyLineEnds rest
  | c :: rest => c :: unifyLineEnds rest

/-- The value of the JSON document in a file. -/
def readDocument (standIns : StandIns) (tree : FileTree) (place : Place) : Except Failure Value :=
  match tree.get? place with
  | some (.file bytes) =>
    match String.fromUTF8? bytes with
    | none => .error .undecodable
    | some raw =>
      let text := String.ofList (unifyLineEnds raw.toList)
      match Json.read standIns text with
      | .ok value => .ok value
      | .error misread =>
        if misread.fault = .longInteger then .error .longInteger
        else .error (.notJson (place.text) (misread.message text))
  | some (.directory _) => .error .isADirectory
  | none => .error .notFound

/-- The configuration in a file, or the default one. -/
def readConfig (standIns : StandIns) (tree : FileTree) : Option Place → Except Failure Config
  | none => .ok {}
  | some place =>
    match readDocument standIns tree place with
    | .error failure => .error failure
    | .ok value =>
      match Config.ofValue value with
      | .ok config => .ok config
      | .error failure =>
        if failure.isConfiguration then
          .error (.notConfig (place.text) (failure.message.getD ""))
        else .error failure

/-- The choices about the output with those of the command line, which take precedence. -/
def overrideOutput (choices : Choices) (output : Output) : Output :=
  { output with mode := if choices.force then .force else output.mode }

/-- The configuration with the choices of the command line, which take precedence. A mode cannot be
set where there are no choices about the output. -/
def overrideConfig (choices : Choices) (config : Config) : Except Failure Config :=
  if choices.force && config.output.isNone then .error .noSuchPart
  else
    .ok { config with
      output := config.output.map (overrideOutput choices)
      exportTypes := if choices.noExport then .bool false else config.exportTypes }

/-! ## Names -/

/-- The name of a file without its last extension; a dot at either end starts none. -/
def fileStem (name : String) : String :=
  let cs := name.toList
  let extension := cs.reverse.takeWhile (· != '.')
  let stem := cs.take (cs.length - extension.length - 1)
  if extension.isEmpty || stem.isEmpty then name else String.ofList stem

/-- The name without an ending that marks schemas. -/
def withoutSchemaEnding (name : String) : String :=
  let ending := ".schema".toList
  let cs := name.toList
  if ending.isSuffixOf cs then String.ofList (cs.take (cs.length - ending.length)) else name

/-- The name of a root that has none: the words of the stem of its file. -/
def defaultName (place : Place) : String :=
  Name.pascalCase (withoutSchemaEnding (fileStem (place.getLast?.getD "")))

/-- The schema names its root. -/
def namesRoot : Value → Bool
  | .object entries => (Entries.getOrNull entries "name").truthy
  | _ => false

/-- The name given to the root: the one on the command line, else none if the schema has one, else
the one made from the file's. -/
def rootName (choices : Choices) (place : Place) (schema : Value) : Value :=
  match choices.name with
  | some name => .string name
  | none => if namesRoot schema then .null else .string (defaultName place)

/-! ## Runs -/

/-- The document of an invocation, and the choices about its output; whether there are any is found
out when the document is there. -/
def prepare (standIns : StandIns) (tree : FileTree) (asked : Invocation) :
    Traced Event (Output × Document) := do
  let schema ← Traced.ofExcept (readDocument standIns tree asked.source)
  let config ← Traced.ofExcept (readConfig standIns tree asked.config)
  let config ← Traced.ofExcept (overrideConfig asked.choices config)
  let document ← Generator.document
    { schema := .value schema
      config := config
      name := rootName asked.choices asked.source schema }
  match config.output with
  | some output => return (output, document)
  | none => Traced.fail .noSuchPart

/-- The request to write the document of an invocation. -/
def writeRequest (standIns : StandIns) (asked : Invocation) (output : Output)
    (document : Document) : WriteRequest where
  path := { steps := asked.target }
  content := standIns.points (document.text ++ "\n")
  mode := output.mode
  validate := output.validate.truthy

/-- The tree after an invocation, with the log and the result. -/
def execute (standIns : StandIns) (tree : FileTree) (asked : Invocation) :
    FileTree × Traced Event Unit :=
  let prepared := prepare standIns tree asked
  match prepared.result with
  | .error failure => (tree, ⟨prepared.trace, .error failure⟩)
  | .ok (output, document) =>
    let outcome := tree.write checkText (writeRequest standIns asked output document)
    match outcome.result with
    | .error failure => (outcome.tree, ⟨prepared.trace, .error failure⟩)
    | .ok () =>
      (outcome.tree, ⟨prepared.trace ++ [.wrote asked.target.text], .ok ()⟩)

/-- What a run leaves: its exit code, its texts, the failure that it did not expect, and the tree.
-/
structure Outcome where
  /-- The exit code. -/
  exit : Nat
  /-- The standard output. -/
  stdout : String
  /-- The standard error. -/
  stderr : String
  /-- A failure that is not reported to the user. -/
  unexpected : Option Failure
  /-- The tree afterwards. -/
  tree : FileTree

/-- The lines of the log, if it is shown. -/
def logText (choices : Choices) (events : List Event) : String :=
  if choices.verbose then String.join (events.map fun event => event.line ++ "\n") else ""

/-- The first line of the usage. -/
def usageLine : String := "Usage: json_schema_to_ts [OPTIONS] PATH OUTPUT\n"

/-- The help text. -/
def helpText : String :=
  usageLine ++ "\n" ++
  "  Generate TypeScript declarations from the JSON shape description in PATH.\n" ++ "\n" ++
  "Options:\n" ++
  "  -n, --name TEXT    Name of the root declaration (defaults to the schema's\n" ++
  "                     name, then the file name)\n" ++
  "  -c, --config PATH\n" ++
  "  -f, --force        Overwrite the output file if it exists\n" ++
  "  --no-export        Do not prefix declarations with `export`\n" ++
  "  -v, --verbose      Log compilation details\n" ++
  "  --help             Show this message and exit.\n"

/-- The lines that report an error, without the control sequences that a message may have taken over
from a name. -/
def errorText (message : String) : String := Text.plain ("Error: " ++ message ++ "\n")

/-- The text of a fault of usage. -/
def usageText (fault : UsageFault) : String :=
  (if fault.showsUsage then usageLine ++ "Try 'json_schema_to_ts --help' for help.\n\n" else "") ++
    errorText fault.message

/-- A run that ends with a fault of usage. -/
def usageOutcome (tree : FileTree) (fault : UsageFault) : Outcome :=
  ⟨2, "", usageText fault, none, tree⟩

/-- A run that carries out an invocation. -/
def invocationOutcome (standIns : StandIns) (tree : FileTree) (asked : Invocation) : Outcome :=
  let (tree', traced) := execute standIns tree asked
  let log := logText asked.choices traced.trace
  match traced.result with
  | .ok () => ⟨0, "", log, none, tree'⟩
  | .error failure =>
    if failure.isReported then
      ⟨1, "", log ++ errorText (failure.message.getD ""), none, tree'⟩
    else ⟨1, "", log, some failure, tree'⟩

/-- A run of the command line. -/
def run (standIns : StandIns) (here : Place) (tree : FileTree) (arguments : List String) :
    Outcome :=
  match scan arguments with
  | .error fault => usageOutcome tree fault
  | .ok scanned =>
    if (Choices.ofSettings scanned.settings).help then ⟨0, helpText, "", none, tree⟩
    else
      match invocation here tree scanned with
      | .error (.usage fault) => usageOutcome tree fault
      | .error (.failure failure) => ⟨1, "", "", some failure, tree⟩
      | .ok asked => invocationOutcome standIns tree asked

end ShapeTypes.CommandLine
