import ShapeTypes.Decl.Basic
import ShapeTypes.Text.Quoted

/-!
# The source text of declarations

* `isIdentifier`: the names that need no quotes as the name of a field.
* `Decl.source`: a record as an interface, an alias as a type alias.
* `joinSources`: a document, with a comment line on top if one is wanted.
-/

namespace ShapeTypes

/-- A letter of the Latin alphabet, an underscore or a dollar sign. -/
def isIdentifierStart (c : Char) : Bool :=
  ('A' ≤ c && c ≤ 'Z') || ('a' ≤ c && c ≤ 'z') || c == '_' || c == '$'

/-- A character that starts an identifier, or a decimal digit. -/
def isIdentifierPart (c : Char) : Bool := isIdentifierStart c || ('0' ≤ c && c ≤ '9')

/-- The characters form an identifier. -/
def isIdentifierChars : List Char → Bool
  | [] => false
  | c :: cs => isIdentifierStart c && cs.all isIdentifierPart

/-- The name is an identifier. -/
def isIdentifier (name : String) : Bool := isIdentifierChars name.toList

/-- The source text of a field's name: quoted unless it is an identifier. -/
def fieldName (name : String) : String :=
  if isIdentifier name then name else Text.Quoted.quote name

/-- The source line of a field with the text of its type. -/
def fieldLine (name : String) (optional : Bool) (type : String) : String :=
  "    " ++ fieldName name ++ (if optional then "?" else "") ++ ": " ++ type ++ ";\n"

/-- The source line of a field. The name has to be a string. -/
def Field.source (field : Field) : Except Failure String :=
  match field.name with
  | .string name =>
    field.type.text.map fun type => fieldLine name field.optional.truthy type.text
  | _ => .error .wrongKind

/-- The source lines of several fields. -/
def fieldSources : List Field → Except Failure (List String)
  | [] => .ok []
  | field :: rest =>
    match field.source with
    | .error failure => .error failure
    | .ok line => (fieldSources rest).map (line :: ·)

/-- The type parameters between angle brackets, if there are any. -/
def parameterText (parameters : List String) : String :=
  if parameters.isEmpty then "" else "<" ++ ", ".intercalate parameters ++ ">"

/-- The start of a declaration up to its type parameters. -/
def Decl.heading (exported : Bool) (keyword : String) (decl : Decl) : String :=
  (if exported then "export " else "") ++ keyword ++ " " ++ decl.name.text ++
    parameterText decl.parameters

/-- The source text of a declaration, without a line feed at its end. -/
def Decl.source (exported : Bool) (decl : Decl) : Except Failure String :=
  match decl.body with
  | .record fields =>
    (fieldSources fields).map fun lines =>
      decl.heading exported "interface" ++ " \x7b\n" ++ String.join lines ++ "\x7d"
  | .synonym target =>
    target.text.map fun type => decl.heading exported "type" ++ " = " ++ type.text ++ ";"
  | .bare => .error (.notRenderable decl.kindName)

/-- The source text of a candidate. -/
def Candidate.source (exported : Bool) : Candidate → Except Failure String
  | .declaration decl => decl.source exported
  | .foreign value => .error (.notRenderable value.typeName)

/-- The source texts of several declarations. -/
def declSources (exported : Bool) : List Decl → Except Failure (List String)
  | [] => .ok []
  | decl :: rest =>
    match decl.source exported with
    | .error failure => .error failure
    | .ok text => (declSources exported rest).map (text :: ·)

/-- The texts with a blank line between two of them, below the comment line if there is one. -/
def joinSources (comment : String) (sources : List String) : String :=
  (if comment = "" then "" else "// " ++ comment ++ "\n\n") ++ "\n\n".intercalate sources

end ShapeTypes
