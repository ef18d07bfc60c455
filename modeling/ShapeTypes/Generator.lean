import ShapeTypes.Config
import ShapeTypes.Decl.Source
import ShapeTypes.Decl.Unique
import ShapeTypes.Shape.Declare
import ShapeTypes.Shape.OfValue

/-!
# Generated documents

From a schema to a document: the schema is read, its declarations are put out, repetitions are
dropped, and the declarations are rendered with the root first.

* `Event`: what a run reports to its log, and `Event.line`, its wording.
* `Generator.declarations`: the declarations of the document, root first.
* `Generator.document`: the document and its parts.
-/

namespace ShapeTypes

/-- The schema of a run: a value that describes a shape, or a shape. -/
inductive Schema where
  /-- A value that describes a shape. -/
  | value (value : Value)
  /-- A shape. -/
  | shape (shape : Shape)

/-- The shape of a schema. A foreign value in place of a shape is read like any other value. -/
def Schema.load : Schema → Except Failure Shape
  | .value v => Shape.ofValue v
  | .shape (.foreign v) => Shape.ofValue v
  | .shape s => .ok s

/-- What a run reports to its log. -/
inductive Event where
  /-- A declaration is put out. -/
  | emitting (decl : Decl)
  /-- A repeated declaration is dropped. -/
  | dropping (identity : String)
  /-- The declarations are complete. -/
  | compiled (name : Value) (total kept : Nat)
  /-- A file has been written. -/
  | wrote (path : String)

/-- The wording of an event, with its level and its source. -/
def Event.line : Event → String
  | .emitting decl =>
    "DEBUG json_schema_to_ts.pipeline.analyzer.declaration_builder: Emitting " ++ decl.kindName ++
      " " ++ decl.name.text
  | .dropping identity =>
    "DEBUG json_schema_to_ts.pipeline.analyzer.deduplicator: Dropping duplicate declaration " ++
      identity
  | .compiled name total kept =>
    "DEBUG json_schema_to_ts.pipeline.generator: Compiled " ++ name.text ++ " into " ++
      naturalText total ++ " declarations (" ++ naturalText kept ++ " after deduplication)"
  | .wrote path => "INFO json_schema_to_ts.pipeline.writer.atomic_writer: Wrote " ++ path

/-- A schema with the choices that its document depends on. -/
structure Generator where
  /-- The schema. -/
  schema : Schema
  /-- The configuration. -/
  config : Config
  /-- A name for the root, which takes precedence over the name in the schema. -/
  name : Value

/-- A document and its parts: the names and the source texts of its declarations. -/
structure Document where
  /-- The whole source text. -/
  text : String
  /-- The declarations with their source texts, root first. -/
  parts : List (Decl × String)

/-- The source texts joined to a document, under the configuration. -/
def Config.joinSources (config : Config) (comment : String) (sources : List String) : String :=
  ShapeTypes.joinSources (if config.addComment.truthy then comment else "") sources

namespace Generator

/-- The shape of the root, under the name given for it. -/
def root (generator : Generator) : Except Failure Shape :=
  generator.schema.load.map fun shape =>
    if generator.name.truthy then shape.withName generator.name else shape

/-- The explicit name of a root shape. -/
def rootName (shape : Shape) : Value := (shape.attributes?.map Attributes.name).getD .null

/-- The declarations of the schema, root first, each identity once. -/
def declarations (generator : Generator) : Traced Event (List Decl) := do
  let shape ← Traced.ofExcept generator.root
  let emitted := Shape.declareRoot generator.config.ignoreFields shape
  Traced.emitAll (emitted.trace.map .emitting)
  let _ ← Traced.ofExcept emitted.result
  let (kept, dropped) ← Traced.ofExcept (Decl.unique emitted.trace)
  Traced.emitAll (dropped.map .dropping)
  Traced.emit (.compiled (rootName shape) emitted.trace.length kept.length)
  return kept.reverse

/-- The comment on top of a document. -/
def comment (decls : List Decl) : String :=
  let rootName := (decls.head?.map fun decl => decl.name.text).getD ""
  "Generated by json_schema_to_ts from " ++ rootName ++ ". Do not edit by hand."

/-- The document of the declarations. -/
def documentOf (config : Config) (decls : List Decl) : Except Failure Document :=
  (declSources config.exportTypes.truthy decls).map fun sources =>
    ⟨config.joinSources (comment decls) sources, decls.zip sources⟩

/-- The document of the schema. -/
def document (generator : Generator) : Traced Event Document := do
  let decls ← generator.declarations
  Traced.ofExcept (documentOf generator.config decls)

end Generator

end ShapeTypes
