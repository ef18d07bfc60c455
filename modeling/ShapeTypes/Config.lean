import ShapeTypes.Shape.Ignored

/-!
# Configuration

* `OutputMode`, `Output`, `Config`: the choices that a configuration holds.
* `Config.ofValue`: the configuration that a value describes, entry by entry; what it does not
  mention keeps its default.
* `Config.assign`: what one entry does. Entries for what is no choice are ignored, but for three
  names that every configuration knows beside its choices: its class and the references to it cannot
  be exchanged, and its attributes can only be exchanged as a whole.
-/

namespace ShapeTypes

/-- What to do when the output exists. -/
inductive OutputMode where
  /-- Refuse to write. -/
  | keep
  /-- Overwrite it. -/
  | force
deriving DecidableEq

namespace OutputMode

/-- The word for a mode. -/
def name : OutputMode → String
  | keep => "error"
  | force => "force"

/-- The mode that a value names. -/
def ofValue? : Value → Option OutputMode
  | .string "error" => some keep
  | .string "force" => some force
  | _ => none

@[simp] theorem ofValue?_name (mode : OutputMode) : ofValue? (.string mode.name) = some mode := by
  cases mode <;> rfl

end OutputMode

/-- The choices about the output. -/
structure Output where
  /-- What to do when it exists. -/
  mode : OutputMode := .keep
  /-- The source is checked before it is written. -/
  validate : Value := .bool true

/-- The output section of a configuration. -/
def Output.ofValue : Value → Except Failure Output
  | .object entries =>
    let mode := (Entries.get? entries "mode").getD (.string OutputMode.keep.name)
    match OutputMode.ofValue? mode with
    | some known =>
      .ok { mode := known
            validate := (Entries.get? entries "validate_before_write").getD (.bool true) }
    | none => .error (if mode.isShowable then .unknownMode mode else .longInteger)
  | other => .error (.outputNotObject other.typeName)

/-- The choices that a run leaves to its user. A choice may be any value; flags count by whether
they are given. A configuration whose attributes have been exchanged may lack those that have no
default of their own. -/
structure Config where
  /-- Declarations are exported. -/
  exportTypes : Value := .bool true
  /-- A comment stands on top of the document. -/
  addComment : Value := .bool false
  /-- The keys of the properties that are left out, if there are any such keys to look at. -/
  ignoreFields : Ignored := .list []
  /-- The choices about the output, if there are any. -/
  output : Option Output := some {}

namespace Config

/-- The configuration with the given attributes in the place of its own. What stands there for the
output is no section of a configuration. -/
def ofAttributes (attributes : Entries) : Config where
  exportTypes := (attributes.get? "export_types").getD (.bool true)
  addComment := (attributes.get? "add_generation_comment").getD (.bool false)
  ignoreFields := attributes.get? "ignore_fields"
  output := none

/-- The configuration after an entry of its description. -/
def assign (config : Config) (key : String) (value : Value) : Except Failure Config :=
  match key with
  | "output" => (Output.ofValue value).map fun output => { config with output := some output }
  | "export_types" => .ok { config with exportTypes := value }
  | "add_generation_comment" => .ok { config with addComment := value }
  | "ignore_fields" =>
    .ok (if config.ignoreFields.isSome then { config with ignoreFields := some value } else config)
  | "__dict__" =>
    match value with
    | .object attributes => .ok (ofAttributes attributes)
    | _ => .error .wrongKind
  | "__class__" => .error .wrongKind
  | "__weakref__" => .error .noSuchPart
  | _ => .ok config

/-- The configuration after the entries of its description. -/
def assignAll (config : Config) : Entries → Except Failure Config
  | [] => .ok config
  | (key, value) :: rest =>
    match config.assign key value with
    | .error failure => .error failure
    | .ok config => config.assignAll rest

/-- The configuration that a value describes. -/
def ofValue : Value → Except Failure Config
  | .object entries => assignAll {} entries
  | other => .error (.configNotObject other.typeName)

end Config

end ShapeTypes
