import ShapeTypes.Number.Integer
import ShapeTypes.Value.Display

/-!
# Failures

* `Failure`: every way in which an operation of the library can fail, by its cause.
* `Failure.message`: the wording, for the failures that have one.
* `Failure.isReported`: the failures that the command line reports to its user.
* `Value.shown`, `Value.written`: the texts of a value, which an integer may be too long for.
-/

namespace ShapeTypes

/-- Why an operation fails. -/
inductive Failure where
  /-- A shape has a variant that produces no type. -/
  | unknownVariant (variant : String) (path : Value)
  /-- The root shape is neither an object nor an array. -/
  | invalidRoot (variant : String)
  /-- The root array has no name. -/
  | namelessArray
  /-- An object shape has neither a name nor a source for one. -/
  | namelessObject
  /-- The configuration is not an object. -/
  | configNotObject (typeName : String)
  /-- The output section of the configuration is not an object. -/
  | outputNotObject (typeName : String)
  /-- The output mode of the configuration is unknown. -/
  | unknownMode (mode : Value)
  /-- The output exists and must not be overwritten. -/
  | outputExists (path : String)
  /-- The generated source declares nothing. -/
  | noDeclarations
  /-- The generated source has unbalanced brackets. -/
  | unbalanced (opening closing : Char) (opened closed : Nat)
  /-- A custom check refused the source. -/
  | refused (reason : String)
  /-- A thing that is no declaration with a body was to be rendered. -/
  | notRenderable (typeName : String)
  /-- A type expression has an unknown kind. -/
  | unknownKind (kind : String)
  /-- An array type has no element type, or several. -/
  | notOneElement
  /-- A value is of a kind on which the operation is not defined. -/
  | wrongKind
  /-- A part was asked of a thing that has none. -/
  | noSuchPart
  /-- An integer is too large to be compared with the range of doubles. -/
  | hugeInteger
  /-- An integer has too many digits to be read or shown. -/
  | longInteger
  /-- A file does not hold text. -/
  | undecodable
  /-- A text holds a surrogate, which no bytes stand for. -/
  | unencodable
  /-- A file does not hold a JSON document. -/
  | notJson (path reason : String)
  /-- A file does not hold a configuration. -/
  | notConfig (path reason : String)
  /-- A file stands where a directory has to be. -/
  | fileExists
  /-- A path leads through a file. -/
  | notADirectory
  /-- A directory stands where a file has to be. -/
  | isADirectory
  /-- A path does not lead anywhere. -/
  | notFound
  /-- A path names a directory by a step upwards or as the root, which cannot be replaced. -/
  | busy
  /-- A name or a path takes more bytes than a file system allows. -/
  | nameTooLong
  /-- A path holds the null character. -/
  | nullCharacter

namespace Failure

/-- The wording of a failure, if it has one. -/
def message : Failure → Option String
  | unknownVariant variant path =>
    some ("Unknown type: " ++ variant ++ (if path.truthy then " at " ++ path.text else ""))
  | invalidRoot variant =>
    some ("Root schema must be of type 'object' or 'array', got '" ++ variant ++ "'")
  | namelessArray => some "Root array schema has no name"
  | namelessObject => some "Object schema has neither a name nor a key"
  | configNotObject typeName => some ("Config must be a JSON object, got " ++ typeName)
  | outputNotObject typeName => some ("Config 'output' must be a JSON object, got " ++ typeName)
  | unknownMode mode =>
    some ("Unknown output mode " ++ mode.inspect ++ ", expected one of: error, force")
  | outputExists path =>
    some ("Output file already exists: " ++ path ++ ". Use force mode to overwrite.")
  | noDeclarations => some "Generated TypeScript code has no type declarations"
  | unbalanced opening closing opened closed =>
    some ("Generated TypeScript code has unbalanced '" ++ String.ofList [opening, closing] ++
      "': " ++ naturalText opened ++ " open, " ++ naturalText closed ++ " close")
  | refused reason => some reason
  | notRenderable typeName => some ("Cannot render declaration of type " ++ typeName)
  | unknownKind kind => some ("Unsupported type kind: " ++ kind)
  | notJson path reason => some (path ++ " is not valid JSON: " ++ reason)
  | notConfig path reason => some (path ++ ": " ++ reason)
  | _ => none

/-- The failure says that a shape or a configuration cannot be compiled. -/
def isConfiguration : Failure → Bool
  | unknownVariant .. | invalidRoot _ | namelessArray | namelessObject => true
  | configNotObject _ | outputNotObject _ | unknownMode _ => true
  | _ => false

/-- The failure says that generated source must not be written. -/
def isRefusal : Failure → Bool
  | outputExists _ | noDeclarations | unbalanced .. | refused _ => true
  | _ => false

/-- The failure says that a file that is read holds something else than it should. -/
def isDocument : Failure → Bool
  | notJson .. | notConfig .. => true
  | _ => false

/-- The failure is reported to the user of the command line. -/
def isReported (failure : Failure) : Bool :=
  failure.isConfiguration || failure.isRefusal || failure.isDocument

/-- Every reported failure has a wording. -/
theorem isSome_message_of_isReported {failure : Failure} (h : failure.isReported = true) :
    failure.message.isSome = true := by
  cases failure <;>
    simp_all [isReported, isConfiguration, isRefusal, isDocument, message]

end Failure

namespace Value

/-- The text of a value in a message or a document, if no integer in it is too long. -/
def shown (v : Value) : Except Failure String :=
  if v.isShowable then .ok v.text else .error .longInteger

/-- The source text of a value as a literal, if no integer in it is too long. -/
def written (v : Value) : Except Failure String :=
  if v.isShowable then .ok v.source else .error .longInteger

@[simp] theorem shown_string (s : String) : (string s).shown = .ok s := rfl

@[simp] theorem written_string (s : String) : (string s).written = .ok (Text.Quoted.quote s) := by
  simp [written]

theorem written_of_isShowable {v : Value} (h : v.isShowable = true) : v.written = .ok v.source :=
  if_pos h

end Value

/-- The failure for a variant that produces no type, if no integer in its path is too long to be
shown. -/
def Failure.unsupported (variant : String) (path : Value) : Failure :=
  if path.isShowable then .unknownVariant variant path else .longInteger

/-- The failure for the items of the root array, under its name if no integer in that is too long to
be shown. -/
def Failure.unsupportedItems (variant : String) (name : Value) : Failure :=
  if name.isShowable then .unknownVariant variant (.string (name.text ++ "/items"))
  else .longInteger

/-- The failure for a value that names no variant, if no integer in it is too long to be shown. -/
def Failure.unknownType (type : Value) (path : String) : Failure :=
  if type.isShowable then .unknownVariant type.text (.string path) else .longInteger

@[simp] theorem Failure.unsupported_string (variant s : String) :
    unsupported variant (.string s) = .unknownVariant variant (.string s) := rfl

end ShapeTypes
