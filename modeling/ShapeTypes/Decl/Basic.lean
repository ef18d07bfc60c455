import ShapeTypes.TypeExpr

/-!
# Declarations

* `Field`, `Decl`: a named declaration of a record of fields or of an alias.
* `Decl.identity?`: the text under which declarations count as the same.
* `Candidate`: what a caller hands in as a declaration.
-/

namespace ShapeTypes

/-- A field of a record. -/
structure Field where
  /-- The name of the field. -/
  name : Value
  /-- Its type. -/
  type : TypeExpr
  /-- It may be missing. -/
  optional : Value

/-- What a declaration declares. -/
inductive Body where
  /-- A record of fields. -/
  | record (fields : List Field)
  /-- Another name for a type. -/
  | synonym (target : TypeExpr)
  /-- Nothing: a bare name. -/
  | bare

/-- A named declaration. -/
structure Decl where
  /-- The name. -/
  name : Value
  /-- The names of the type parameters. -/
  parameters : List String
  /-- What is declared. -/
  body : Body

/-- A thing handed in as a declaration: one, or any other value. -/
inductive Candidate where
  /-- A declaration. -/
  | declaration (decl : Decl)
  /-- A value that is none. -/
  | foreign (value : Value)

namespace Decl

/-- The record of some fields. -/
def record (name : Value) (fields : List Field) : Decl := ⟨name, [], .record fields⟩

/-- Another name for a type. -/
def synonym (name : Value) (target : TypeExpr) : Decl := ⟨name, [], .synonym target⟩

/-- The word by which logs call the kind of a declaration. -/
def kindName (decl : Decl) : String :=
  match decl.body with
  | .record _ => "StructureDeclaration"
  | .synonym _ => "AliasDeclaration"
  | .bare => "Declaration"

/-- The text under which declarations count as the same: the name and the type parameters, joined by
bars. It needs a string as name. -/
def identity? (decl : Decl) : Except Failure String :=
  match decl.name with
  | .string name => .ok ("|".intercalate (name :: decl.parameters))
  | _ => .error .wrongKind

end Decl

/-- The text under which candidates count as the same. -/
def Candidate.identity? : Candidate → Except Failure String
  | .declaration decl => decl.identity?
  | .foreign _ => .error .noSuchPart

end ShapeTypes
