import ShapeTypes.Generator

/-!
# Sessions

A session declares shapes one by one into a growing list, which can be freed from repetitions at any
time and rendered.

* `Session`, `Step`, `Reply`: the state of a session, what can be asked of it, and what it answers.
* `Session.perform`: one step. A failing step leaves in the list what it had put out before it
  failed.
-/

namespace ShapeTypes

/-- The declarations put out so far, under a configuration. -/
structure Session where
  /-- The configuration. -/
  config : Config
  /-- The declarations, in the order in which they were put out. -/
  declarations : List Decl

/-- What can be asked of a session. -/
inductive Step where
  /-- The declarations of a whole schema, apart from those of the session. -/
  | root (shape : Shape)
  /-- Declare an object, under the name that an array hands down, or null. -/
  | object (shape : Shape) (derived : Value)
  /-- Declare a shape, under the name that an array hands down, or null. -/
  | type (shape : Shape) (derived : Value)
  /-- Declare a property. -/
  | property (shape : Shape)
  /-- Take a declaration as it is. -/
  | emit (candidate : Candidate)
  /-- Drop the repetitions. -/
  | unique
  /-- Change the keys that are left out. -/
  | ignore (keys : Value)
  /-- Render the declarations, the last one first. -/
  | render

/-- What a session answers. -/
inductive Reply where
  /-- Declarations and the reference to their root. -/
  | declarations (decls : List Decl) (root : TypeExpr)
  /-- A type. -/
  | type (type : TypeExpr)
  /-- A field. -/
  | field (field : Field)
  /-- Nothing. -/
  | done
  /-- A source text. -/
  | source (text : String)

namespace Session

/-- A session without declarations. -/
def start (config : Config) : Session := ⟨config, []⟩

/-- The session after a computation that puts out declarations, and its answer. -/
def absorb {α : Type} (session : Session) (computation : Declaring α) (reply : α → Reply) :
    Session × Except Failure Reply :=
  ({ session with declarations := session.declarations ++ computation.trace },
    computation.result.map reply)

/-- One step of a session. -/
def perform (session : Session) (step : Step) : Session × Except Failure Reply :=
  let ignored := session.config.ignoreFields
  match step with
  | .root shape =>
    let computation := Shape.declareRoot ignored shape
    (session, computation.result.map (.declarations computation.trace))
  | .object shape derived => session.absorb (shape.declareObject ignored derived) .type
  | .type shape derived => session.absorb (shape.declareType ignored derived) .type
  | .property shape => session.absorb (shape.declareProperty ignored) .field
  | .emit (.declaration decl) => session.absorb (declare decl) .type
  | .emit (.foreign _) => (session, .error .noSuchPart)
  | .unique =>
    match Decl.unique session.declarations with
    | .ok (kept, _) => ({ session with declarations := kept }, .ok .done)
    | .error failure => (session, .error failure)
  | .ignore keys =>
    ({ session with config := { session.config with ignoreFields := some keys } }, .ok .done)
  | .render =>
    let sources := declSources session.config.exportTypes.truthy session.declarations.reverse
    (session, sources.map fun texts => .source (session.config.joinSources "" texts))

end Session

end ShapeTypes
