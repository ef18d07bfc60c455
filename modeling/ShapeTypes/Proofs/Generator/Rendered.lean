import ShapeTypes.Generator
import ShapeTypes.Proofs.Decl.Lines
import ShapeTypes.Proofs.Decl.Unique
import ShapeTypes.Proofs.Shape.Expand

/-!
# What is compiled can be rendered

Once the declarations of a schema are put out, nothing fails any more.

* `Decl.Compiled.wellFormed`, `Decl.Compiled.target`: what is required of the types of declarations.
* `Shape.legible_of_declareRoot`: the names that stand in the declarations of a schema are texts, so
  that the declarations can be written.
* `Config.rendered_declareRoot`: **a schema that compiles has well-formed types only, and its
  declarations are freed of repetitions and rendered without failure**.
-/

namespace ShapeTypes

namespace Decl

/-- The types of a compiled declaration are well formed. -/
theorem Compiled.wellFormed {decl : Decl} (h : decl.Compiled) :
    ∀ t ∈ decl.body.types, t.WellFormed := by
  have hbody := h.body
  cases hdecl : decl.body with
  | record fields =>
      rw [hdecl] at hbody
      cases hbody with
      | record htypes =>
          intro t ht
          obtain ⟨field, hfield, rfl⟩ := List.mem_map.mp ht
          exact (htypes field hfield).wellFormed
  | synonym target =>
      rw [hdecl] at hbody
      cases hbody with
      | synonym name =>
          exact List.forall_mem_singleton.mpr (TypeExpr.Regular.reference name).array.wellFormed
  | bare => exact fun t ht => absurd ht List.not_mem_nil

/-- The target of a compiled alias is an array of a reference. -/
theorem Compiled.target {decl : Decl} (h : decl.Compiled) {target : TypeExpr}
    (htarget : decl.body = .synonym target) : ∃ name, target = .array [.reference name] := by
  have hbody := h.body
  rw [htarget] at hbody
  cases hbody with
  | synonym name => exact ⟨name, rfl⟩

end Decl

/-- What a schema with text labels puts out is legible. -/
theorem Shape.legible_of_declareRoot {ignored : Ignored} {shape : Shape} {emitted : List Decl}
    {root : TypeExpr} (hlabels : shape.HasTextLabels)
    (h : declareRoot ignored shape = ⟨emitted, .ok root⟩) :
    ∀ decl ∈ emitted, decl.Legible fun _ => True := by
  have hgrounded := grounded_declareRoot ignored shape []
  rw [h] at hgrounded
  have hname : ∀ decl ∈ emitted, ∃ s, decl.name = .string s ∧ True := by
    simpa using exists_name_of_declareRoot hlabels h
  intro decl hdecl
  refine ⟨hname decl hdecl, fun name hmem => ?_,
    exists_fieldName_of_declareRoot hlabels h decl hdecl⟩
  obtain ⟨other, hother, rfl⟩ :=
    List.mem_map.mp (hgrounded.resolves.closed decl hdecl name hmem)
  exact hname other hother

namespace Config

/-- **What is compiled is well formed and can be rendered.** Let the keys and names of a schema be
texts or missing, and let the schema compile under a configuration. Then every type in its
declarations is well formed at any depth; every alias is one for an array of a reference; and
dropping repetitions, rendering each declaration that is kept and rendering the document succeed. -/
theorem rendered_declareRoot (config : Config) {shape : Shape} {emitted : List Decl}
    {root : TypeExpr} (hlabels : shape.HasTextLabels)
    (h : Shape.declareRoot config.ignoreFields shape = ⟨emitted, .ok root⟩) :
    (∀ decl ∈ emitted, (∀ t ∈ decl.body.types, t.WellFormed) ∧
      ∀ target, decl.body = .synonym target → ∃ name, target = .array [.reference name]) ∧
    ∃ kept dropped, Decl.unique emitted = .ok (kept, dropped) ∧
      (∀ decl ∈ kept, ∃ source, decl.source config.exportTypes.truthy = .ok source) ∧
      ∃ document, Generator.documentOf config kept.reverse = .ok document := by
  have hgrounded := Shape.grounded_declareRoot config.ignoreFields shape []
  rw [h] at hgrounded
  have hcompiled := hgrounded.compiled
  have hlegible := Shape.legible_of_declareRoot hlabels h
  obtain ⟨kept, dropped, hunique⟩ :=
    Decl.exists_unique_of_text (Shape.exists_name_of_declareRoot hlabels h)
  have hsub := (Decl.kept_of_unique hunique).sublist.subset
  have hsources : ∀ decl ∈ kept, ∃ source,
      decl.source config.exportTypes.truthy = .ok source := by
    intro decl hdecl
    obtain ⟨lines, -, hsource⟩ := Decl.exists_written (hcompiled decl (hsub hdecl))
      (hlegible decl (hsub hdecl)) config.exportTypes.truthy
    exact ⟨_, hsource⟩
  refine ⟨fun decl hdecl => ?_, kept, dropped, hunique, hsources, ?_⟩
  · exact ⟨(hcompiled decl hdecl).wellFormed, fun _ => (hcompiled decl hdecl).target⟩
  · have hreversed : ∀ decl ∈ kept.reverse,
        ∃ source, decl.source config.exportTypes.truthy = .ok source :=
      fun decl hdecl => hsources decl (List.mem_reverse.mp hdecl)
    obtain ⟨sources, hforall⟩ := List.exists_forall₂ hreversed
    exact ⟨_, Failure.map_eq_ok.mpr ⟨sources, declSources_eq_ok.mpr hforall, rfl⟩⟩

/-- A list of readings with an enumeration that admits null, rows that admit null at each depth, and
a part that is declared twice. -/
def readings : Shape :=
  .array { name := .string "Readings", nullable := .bool true }
    (.object {}
      [.number { key := .string "level", nullable := .bool true }
          (.list [.double (.finite false 3 (-1)), .double (.zero true)]),
        .array { key := .string "rows", nullable := .bool true }
          (.array { nullable := .bool true } (.string { nullable := .bool true } .null)),
        .object { key := .string "from", name := .string "Part" } [],
        .object { key := .string "to", name := .string "Part" } []])

/-- What the readings put out. -/
def readingsDecls : List Decl :=
  [.record (.string "Part") [], .record (.string "Part") [],
    .record (.string "Reading")
      [⟨.string "level", .union [.literal (.double (.finite false 3 (-1))),
          .literal (.double (.zero true)), .null], .bool false⟩,
        ⟨.string "rows",
          .union [.array [.union [.array [.union [.keyword (.string "string"), .null]], .null]],
            .null], .bool false⟩,
        ⟨.string "from", .reference (.string "Part"), .bool false⟩,
        ⟨.string "to", .reference (.string "Part"), .bool false⟩],
    .synonym (.string "Readings") (.array [.reference (.string "Reading")])]

/-- The readings compile to well-formed types and are rendered. -/
theorem rendered_readings :
    Shape.declareRoot (.list []) readings =
      ⟨readingsDecls, .ok (.reference (.string "Readings"))⟩ ∧
    (∀ decl ∈ readingsDecls, (∀ t ∈ decl.body.types, t.WellFormed) ∧
      ∀ target, decl.body = .synonym target → ∃ name, target = .array [.reference name]) ∧
    ∃ kept dropped, Decl.unique readingsDecls = .ok (kept, dropped) ∧
      (∀ decl ∈ kept, ∃ source, decl.source false = .ok source) ∧
      ∃ document, Generator.documentOf { exportTypes := .bool false, addComment := .bool true }
        kept.reverse = .ok document := by
  have hlabels : readings.HasTextLabels := by
    intro node hnode a ha
    simp only [readings, Shape.nodes, Shape.nodesOf, List.cons_append, List.nil_append,
      List.append_nil, List.mem_cons, List.not_mem_nil, or_false] at hnode
    rcases hnode with rfl | rfl | rfl | rfl | rfl | rfl | rfl | rfl <;>
      · cases ha
        exact ⟨rfl, rfl⟩
  have hdeclare : Shape.declareRoot (.list []) readings =
      ⟨readingsDecls, .ok (.reference (.string "Readings"))⟩ := rfl
  exact ⟨hdeclare, rendered_declareRoot { exportTypes := .bool false, addComment := .bool true }
    hlabels hdeclare⟩

end Config

end ShapeTypes
