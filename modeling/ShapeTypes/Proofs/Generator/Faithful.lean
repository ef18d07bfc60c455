import ShapeTypes.Proofs.Decl.Lines
import ShapeTypes.Proofs.Generator.Checked

/-!
# Documents determine their declarations

A document is a text of paragraphs, one for each declaration, below one for the comment if there is
one. Names that are identifiers, and none of those that stand for built-in types, keep the
paragraphs apart.

* `Generator.Readable`: what is asked of a run: its names are such identifiers, and truth values say
  which fields may be missing.
* `Generator.toList_joinSources`: the text of a document, paragraph by paragraph.
* `Generator.reduced_decls_of_text`: **rendering loses nothing**. Documents with the same text have
  the same declarations when reduced.
-/

namespace ShapeTypes

open Text

/-- The fields of a declaration with a source text are named by texts. -/
theorem Decl.exists_fieldName_of_source {decl : Decl} {exported : Bool} {source : String}
    (h : decl.source exported = .ok source) :
    ∀ field ∈ decl.fields, ∃ s, field.name = .string s := by
  intro field hfield
  unfold fields at hfield
  rcases source_eq_ok h with ⟨fields, lines, hbody, hlines, -⟩ | ⟨target, -, hbody, -, -⟩
  · rw [hbody] at hfield
    obtain ⟨line, -, hline⟩ := (fieldSources_eq_ok.mp hlines).exists_of_mem_left hfield
    obtain ⟨name, -, hname, -, -⟩ := Field.source_eq_ok hline
    exact ⟨name, hname⟩
  · rw [hbody] at hfield
    cases hfield

namespace Generator

/-- A run with declarations that can be read back: their names are identifiers, and none of those
that stand for built-in types; and truth values say everywhere in the schema what may be missing. -/
structure Readable (generator : Generator) (decls : List Decl) : Prop where
  /-- The declarations of the run. -/
  declared : generator.declarations.result = .ok decls
  /-- Their names. -/
  names : ∀ decl ∈ decls, ∃ s, decl.name = .string s ∧ IsTypeName s
  /-- The flags of the schema. -/
  flags : ∀ shape, generator.root = .ok shape → shape.HasBooleanOptional

variable {generator : Generator} {decls : List Decl} {sources : List String} {exported : Bool}

namespace Readable

/-- Truth values say which fields may be missing. -/
theorem optional (h : Readable generator decls) :
    ∀ decl ∈ decls, ∀ field ∈ decl.fields, ∃ b, field.optional = .bool b := by
  obtain ⟨shape, emitted, root, kept, hshape, hroot, -, -, hkept, rfl⟩ := exists_kept h.declared
  intro decl hdecl
  have hmem := hkept.sublist.subset (List.mem_reverse.mp hdecl)
  exact Shape.exists_optional_of_declareRoot (h.flags shape hshape) hroot decl hmem

/-- Declarations that are rendered are legible. -/
theorem legible (h : Readable generator decls)
    (hsources : declSources exported decls = .ok sources) :
    ∀ decl ∈ decls, decl.Legible IsTypeName := by
  intro decl hdecl
  obtain ⟨source, -, hsource⟩ := (declSources_eq_ok.mp hsources).exists_of_mem_left hdecl
  refine ⟨h.names decl hdecl, fun name hname => ?_, Decl.exists_fieldName_of_source hsource⟩
  obtain ⟨other, hother, rfl⟩ :=
    List.mem_map.mp (closed_of_declarations h.declared decl hdecl name hname)
  exact h.names other hother

/-- The declarations are written in the grammar, and these are their sources. -/
theorem exists_lines (h : Readable generator decls)
    (hsources : declSources exported decls = .ok sources) :
    ∃ lines, List.Forall₂ (Decl.Written IsTypeName exported) decls lines ∧
      sources = lines.map fun p => String.ofList (unlines p) := by
  have hwritten : ∀ decl ∈ decls, ∃ lines, decl.Written IsTypeName exported lines ∧
      decl.source exported = .ok (String.ofList (unlines lines)) := fun decl hdecl =>
    Decl.exists_written (compiled_of_declarations h.declared decl hdecl)
      (h.legible hsources decl hdecl) exported
  obtain ⟨lines, hlines⟩ := List.exists_forall₂ hwritten
  refine ⟨lines, hlines.imp fun _ _ hboth => hboth.1, ?_⟩
  have hsame : declSources exported decls =
      .ok (lines.map fun p => String.ofList (unlines p)) := by
    rw [declSources_eq_ok, List.forall₂_map_right_iff]
    exact hlines.imp fun _ _ hboth => hboth.2
  exact Except.ok.inj (hsources.symm.trans hsame)

end Readable

/-! ## Paragraphs -/

/-- The paragraph of the comment line; there is none without a comment. -/
def commentParagraphs (comment : String) : List (List (List Char)) :=
  if comment = "" then [] else [[("// " ++ comment).toList]]

/-- **The text of a document is a text of paragraphs.** -/
theorem toList_joinSources (comment : String) {lines : List (List (List Char))} (hne : lines ≠ []) :
    (joinSources comment (lines.map fun p => String.ofList (unlines p))).toList =
      paragraphs (commentParagraphs comment ++ lines) := by
  have hsources : ("\n\n".intercalate (lines.map fun p => String.ofList (unlines p))).toList =
      paragraphs lines := by
    rw [String.toList_intercalate, paragraphs, List.map_map]
    refine congrArg _ (List.map_congr_left fun p _ => ?_)
    exact String.toList_ofList
  obtain ⟨first, rest, rfl⟩ := List.exists_cons_of_ne_nil hne
  rw [joinSources, commentParagraphs, String.toList_append, hsources]
  split
  · rfl
  · rw [List.singleton_append, paragraphs, paragraphs, List.map_cons, List.map_cons, List.map_cons,
      List.intercalate_cons_cons, unlines_singleton, String.toList_append]
    rfl

/-- The comment on top of a document is not empty. -/
theorem comment_ne_empty (decls : List Decl) : comment decls ≠ "" := by
  intro h
  have hend := (String.append_eq_empty_iff.mp h).2
  revert hend
  decide

/-- The comment on top of declarations with identifiers as names stands on one line. -/
theorem feed_not_mem_comment (h : Readable generator decls) : '\n' ∉ (comment decls).toList := by
  have hroot : '\n' ∉ ((decls.head?.map fun decl => decl.name.text).getD "").toList := by
    cases decls with
    | nil => exact List.not_mem_nil
    | cons root rest =>
        obtain ⟨s, hs, hname⟩ := h.names root List.mem_cons_self
        rw [List.head?_cons, Option.map_some, Option.getD_some, hs]
        exact not_mem_of_isIdentifier hname.1 rfl
  unfold comment
  rw [String.toList_append, String.toList_append, List.mem_append, List.mem_append, not_or, not_or]
  exact ⟨⟨by decide, hroot⟩, by decide⟩

/-- The comment that a configuration puts on top of the document. -/
def usedComment (config : Config) (decls : List Decl) : String :=
  if config.addComment.truthy then comment decls else ""

/-- The comment line is a paragraph. -/
theorem isParagraph_comment (h : Readable generator decls) (config : Config) :
    ∀ p ∈ commentParagraphs (usedComment config decls), IsParagraph p := by
  unfold commentParagraphs usedComment
  split
  · split
    · exact fun p hp => absurd hp List.not_mem_nil
    · refine List.forall_mem_singleton.mpr ⟨List.cons_ne_nil _ _, by simp, ?_⟩
      refine List.forall_mem_singleton.mpr ?_
      rw [String.toList_append, List.mem_append, not_or]
      exact ⟨by decide, feed_not_mem_comment h⟩
  · rw [if_pos rfl]
    exact fun p hp => absurd hp List.not_mem_nil

/-- Below the comments of one configuration, the same paragraphs are those of the declarations. -/
theorem lines_eq_of_paragraphs {config : Config} {decls decls' : List Decl}
    {lines lines' : List (List (List Char))}
    (h : commentParagraphs (usedComment config decls) ++ lines =
      commentParagraphs (usedComment config decls') ++ lines') : lines = lines' := by
  unfold commentParagraphs usedComment at h
  by_cases hcomment : config.addComment.truthy = true
  · rw [if_pos hcomment, if_pos hcomment, if_neg (comment_ne_empty decls),
      if_neg (comment_ne_empty decls')] at h
    exact (List.cons.inj h).2
  · rw [if_neg hcomment, if_pos rfl, if_neg hcomment, if_pos rfl] at h
    exact h

/-! ## Documents -/

variable {generator' : Generator} {decls' : List Decl} {document document' : Document}

/-- The text of a document is one of paragraphs: the lines of its declarations, below the comment.
-/
theorem Readable.exists_text (h : Readable generator decls)
    (hdocument : generator.document.result = .ok document) :
    ∃ lines,
      List.Forall₂ (Decl.Written IsTypeName generator.config.exportTypes.truthy) decls lines ∧
      lines ≠ [] ∧ document.text.toList =
        paragraphs (commentParagraphs (usedComment generator.config decls) ++ lines) := by
  obtain ⟨decls₁, sources, hdecls, hsources, rfl⟩ := document_eq_ok hdocument
  cases Except.ok.inj (h.declared.symm.trans hdecls)
  obtain ⟨lines, hlines, rfl⟩ := h.exists_lines hsources
  have hne : lines ≠ [] := by
    obtain ⟨-, -, root, rest, -, -, rfl⟩ := exists_root_of_declarations h.declared
    cases hlines
    exact List.cons_ne_nil _ _
  exact ⟨lines, hlines, hne, toList_joinSources _ hne⟩

/-- The lines of a document are paragraphs. -/
theorem Readable.isParagraph (h : Readable generator decls) {lines : List (List (List Char))}
    (hlines : List.Forall₂ (Decl.Written IsTypeName exported) decls lines) (config : Config) :
    ∀ p ∈ commentParagraphs (usedComment config decls) ++ lines, IsParagraph p := by
  rw [List.forall_mem_append]
  refine ⟨isParagraph_comment h config, fun p hp => ?_⟩
  obtain ⟨decl, -, hdecl⟩ := hlines.exists_of_mem_right hp
  exact hdecl.isParagraph

/-- **Rendering loses nothing.** Let two schemas be generated under one configuration; let the names
of their declarations be identifiers, and none of those that stand for built-in types; and let truth
values say what may be missing. If the documents have the same text, then the declarations are the
same, in the same order, once unions of one member are replaced by that member and literals are
known by their texts only. -/
theorem reduced_decls_of_text (h : Readable generator decls) (h' : Readable generator' decls')
    (hconfig : generator.config = generator'.config)
    (hdocument : generator.document.result = .ok document)
    (hdocument' : generator'.document.result = .ok document')
    (htext : document.text = document'.text) :
    decls.map Decl.reduced = decls'.map Decl.reduced := by
  obtain ⟨lines, hlines, hne, hparagraphs⟩ := h.exists_text hdocument
  obtain ⟨lines', hlines', hne', hparagraphs'⟩ := h'.exists_text hdocument'
  rw [← hconfig] at hlines' hparagraphs'
  rw [htext, hparagraphs'] at hparagraphs
  have hsame := paragraphs_inj (h'.isParagraph hlines' generator.config)
    (h.isParagraph hlines generator.config) (by simp [hne']) (by simp [hne]) hparagraphs
  cases lines_eq_of_paragraphs hsame
  refine hlines.map_eq_map hlines' fun decl hdecl decl' hdecl' p hp hp' => ?_
  exact Decl.reduced_eq_of_written hp hp' (h.optional decl hdecl) (h'.optional decl' hdecl')

/-- An invoice whose lines are named after their key. -/
def invoice : Generator where
  schema := .shape (.object { name := .string "Invoice" }
    [.string { key := .string "state", nullable := .bool true } (.list [.string "a\"; | null"]),
      .array { key := .string "lines", optional := .bool true } (.object {} [])])
  config := { addComment := .bool true, ignoreFields := .list [.string "draft"] }
  name := .null

/-- The invoice once more, with a property that is ignored, lines with a name of their own, and its
own name given by the run. -/
def draft : Generator where
  schema := .shape (.object {}
    [.boolean { key := .string "draft" },
      .string { key := .string "state", nullable := .bool true } (.list [.string "a\"; | null"]),
      .array { key := .string "lines", optional := .bool true }
        (.object { name := .string "Line" } [])])
  config := invoice.config
  name := .string "Invoice"

/-- The declarations of both. -/
def invoiceDecls : List Decl :=
  [.record (.string "Invoice")
      [⟨.string "state", .union [.literal (.string "a\"; | null"), .null], .bool false⟩,
        ⟨.string "lines", .array [.reference (.string "Line")], .bool true⟩],
    .record (.string "Line") []]

/-- The sources of these. -/
def invoiceSources : List String :=
  ["export interface Invoice \x7b\n    state: \"a\\\"; | null\" | null;\n" ++
      "    lines?: Line[];\n\x7d",
    "export interface Line \x7b\n\x7d"]

/-- The document of both. -/
def invoiceDocument : Document where
  text := "// Generated by json_schema_to_ts from Invoice. Do not edit by hand.\n\n" ++
    "\n\n".intercalate invoiceSources
  parts := invoiceDecls.zip invoiceSources

set_option maxRecDepth 2000 in
/-- Both invoices give the same text, and so the same declarations. -/
theorem reduced_decls_of_invoice : invoice.document.result = .ok invoiceDocument ∧
    draft.document.result = .ok invoiceDocument ∧
    ∃ decls decls', invoice.declarations.result = .ok decls ∧
      draft.declarations.result = .ok decls' ∧
      decls.map Decl.reduced = decls'.map Decl.reduced := by
  have hnames : ∀ decl ∈ invoiceDecls, ∃ s, decl.name = .string s ∧ IsTypeName s := by
    refine List.forall_mem_cons.mpr ⟨⟨"Invoice", rfl, by decide⟩, ?_⟩
    exact List.forall_mem_singleton.mpr ⟨"Line", rfl, by decide⟩
  have hinvoice : Readable invoice invoiceDecls := by
    refine ⟨rfl, hnames, fun shape hshape => ?_⟩
    cases hshape
    decide
  have hdraft : Readable draft invoiceDecls := by
    refine ⟨rfl, hnames, fun shape hshape => ?_⟩
    cases hshape
    decide
  have hdocument : invoice.document.result = .ok invoiceDocument := by rfl
  have hdocument' : draft.document.result = .ok invoiceDocument := by rfl
  exact ⟨hdocument, hdocument', invoiceDecls, invoiceDecls, hinvoice.declared, hdraft.declared,
    reduced_decls_of_text hinvoice hdraft rfl hdocument hdocument' rfl⟩

end Generator

end ShapeTypes
