import ShapeTypes.Failure

/-!
# Type expressions

* `TypeExpr`: the types that a field or an alias can have.
* `TypeExpr.text`: the source text of a type. Brackets of an array bind tighter than the bar of a
  union, so an element that is a union of several members stands in parentheses.
-/

namespace ShapeTypes

/-- A type expression. Those that shapes compile to have string names, one element per array and at
least one member per union; a caller may hand in any other. -/
inductive TypeExpr where
  /-- A keyword, such as `string`. -/
  | keyword (name : Value)
  /-- A declaration, by its name. -/
  | reference (name : Value)
  /-- The type of one value. -/
  | literal (value : Value)
  /-- The type of null. -/
  | null
  /-- The array type of the elements given, of which there has to be one. -/
  | array (elements : List TypeExpr)
  /-- The union of its members. -/
  | union (members : List TypeExpr)
  /-- A type of a kind that has no source text. -/
  | unknown (kind : String)
  /-- No type where one has to be. -/
  | missing

namespace TypeExpr

/-- The union has several members, which need parentheses before brackets. -/
def isWide : TypeExpr → Bool
  | union (_ :: _ :: _) => true
  | _ => false

/-- The texts of the values, if all of them are strings. -/
def allStrings : List Value → Except Failure (List String)
  | [] => .ok []
  | .string s :: rest => (allStrings rest).map (s :: ·)
  | _ :: _ => .error .wrongKind

/-- The text of an array of elements whose text is given. -/
def arrayText (wide : Bool) (element : String) : String :=
  if wide then "(" ++ element ++ ")[]" else element ++ "[]"

mutual

/-- The source text of a type. The name of a keyword or a reference is answered as it stands,
whatever value it is. -/
def text : TypeExpr → Except Failure Value
  | keyword name => .ok name
  | reference name => .ok name
  | literal value => value.written.map .string
  | null => .ok (.string "null")
  | array [element] =>
    match text element with
    | .error failure => .error failure
    | .ok t => t.shown.map fun shown => .string (arrayText element.isWide shown)
  | array _ => .error .notOneElement
  | union members =>
    match texts members with
    | .error failure => .error failure
    | .ok ts => (allStrings ts).map fun strings => .string (" | ".intercalate strings)
  | unknown kind => .error (.unknownKind kind)
  | missing => .error .noSuchPart

/-- The source texts of several types. -/
def texts : List TypeExpr → Except Failure (List Value)
  | [] => .ok []
  | t :: rest =>
    match text t with
    | .error failure => .error failure
    | .ok v => (texts rest).map (v :: ·)

end

end TypeExpr

end ShapeTypes
