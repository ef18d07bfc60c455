import ShapeTypes.Proofs.Decl.Source
import ShapeTypes.Proofs.Generator.Closed
import ShapeTypes.Proofs.Number.Numeral
import ShapeTypes.Proofs.SourceCheck

/-!
# Generated documents pass the check

Everything that is rendered is neutral for the check, from the literals up to the document, as long
as the names of the declarations are plain. Keys and texts of enumerations are quoted where they are
not plain.

* `TypeExpr.hasNeutralText`: the text of a compiled type that refers to plain names is neutral.
* `Decl.neutral_source`: so is the source of a compiled declaration.
* `Generator.checkSource_document`: **a document whose declarations have plain names passes the
  check**, whatever characters stand in its keys and its literals.
-/

namespace ShapeTypes

/-- The value is a text without checked characters. -/
def Value.IsPlain (v : Value) : Prop := ∃ s, v = .string s ∧ Plain s.toList

/-! ## Literals and names -/

/-- A numeral is neutral. -/
theorem neutral_of_numeral {s : String} (h : ∀ c ∈ s.toList, isNumeralChar c = true) :
    Neutral s :=
  neutral_of_plain (plain_of_forall (by decide) h)

/-- An identifier is neutral. -/
theorem neutral_of_isIdentifier {s : String} (h : isIdentifier s = true) : Neutral s := by
  have hparts : ∀ c ∈ s.toList, isIdentifierPart c = true := by
    unfold isIdentifier at h
    cases hs : s.toList with
    | nil => simp
    | cons c rest =>
        rw [hs] at h
        obtain ⟨hstart, hrest⟩ := Bool.and_eq_true_iff.mp h
        refine List.forall_mem_cons.mpr ⟨?_, List.all_eq_true.mp hrest⟩
        rw [isIdentifierPart, hstart, Bool.true_or]
  exact neutral_of_plain (plain_of_forall (by decide) hparts)

/-- The written name of a field is neutral, whatever stands in it. -/
theorem neutral_fieldName (name : String) : Neutral (fieldName name) := by
  unfold fieldName
  split
  · rename_i hidentifier
    exact neutral_of_isIdentifier hidentifier
  · exact neutral_quote name

/-- A written literal is neutral, whatever stands in it. -/
theorem neutral_source_of_literalKind? {v : Value} {kind : LiteralKind}
    (h : v.literalKind? = some kind) : Neutral v.source := by
  cases v with
  | int n =>
      rw [Value.source]
      exact neutral_of_numeral fun c hc => isNumeralChar_of_mem_integerText hc
  | double x =>
      have hfinite : x.isFinite = true := by
        by_contra hx
        simp [Value.literalKind?, hx] at h
      rw [Value.source]
      exact neutral_of_numeral fun c hc => Double.isNumeralChar_of_mem_numeral hfinite hc
  | string s =>
      rw [Value.source_string]
      exact neutral_quote s
  | null => cases h
  | bool b => cases h
  | list items => cases h
  | object entries => cases h

/-! ## Types -/

namespace TypeExpr

/-- The type has a text, and that is neutral. -/
def HasNeutralText (t : TypeExpr) : Prop := ∃ s, t.text = .ok (.string s) ∧ Neutral s

/-- The text of a keyword is neutral. -/
theorem hasNeutralText_keyword {word : String} (h : word ∈ primitiveKeywords) :
    (keyword (.string word)).HasNeutralText := by
  have hplain : ∀ word ∈ primitiveKeywords, Plain word.toList := by decide
  exact ⟨word, by rw [text], neutral_of_plain (hplain word h)⟩

/-- The text of a literal is neutral. -/
theorem hasNeutralText_literal {v : Value} {kind : LiteralKind} (h : v.literalKind? = some kind)
    (hshown : v.isShowable = true) : (literal v).HasNeutralText :=
  ⟨v.source, text_literal hshown, neutral_source_of_literalKind? h⟩

/-- The text of null is neutral. -/
theorem hasNeutralText_null : null.HasNeutralText :=
  ⟨"null", by rw [text], neutral_of_plain (by decide)⟩

/-- The text of an array is neutral if that of its element is, with parentheses or without. -/
theorem HasNeutralText.array {t : TypeExpr} (h : t.HasNeutralText) :
    (array [t]).HasNeutralText := by
  obtain ⟨s, hs, hneutral⟩ := h
  refine ⟨arrayText t.isWide s, text_array hs, ?_⟩
  unfold arrayText
  split
  · exact hneutral.enclose (by decide) (by decide)
  · have hbrackets : Neutral ("" ++ s ++ "[]") := hneutral.enclose (by decide) (by decide)
    rwa [String.empty_append] at hbrackets

/-- The text of a union is neutral if those of its members are. -/
theorem hasNeutralText_union {members : List TypeExpr} (h : ∀ t ∈ members, t.HasNeutralText) :
    (union members).HasNeutralText := by
  obtain ⟨strings, htexts, hneutral⟩ := exists_texts h
  refine ⟨" | ".intercalate strings, text_union htexts, ?_⟩
  exact neutral_intercalate (neutral_of_plain (by decide)) hneutral

/-- The text of a compiled type is neutral if the names it refers to are plain. -/
theorem hasNeutralText {t : TypeExpr} (ht : t.Regular) (h : ∀ name ∈ t.references, name.IsPlain) :
    t.HasNeutralText := by
  induction ht with
  | keyword hword => exact hasNeutralText_keyword hword
  | reference name =>
      obtain ⟨s, rfl, hs⟩ := h name (List.mem_singleton_self name)
      exact ⟨s, by rw [text], neutral_of_plain hs⟩
  | array ht ih =>
      rw [references_array, List.flatMap_singleton] at h
      exact (ih h).array
  | enumeration hne hkind hshown =>
      refine hasNeutralText_union fun t ht => ?_
      obtain ⟨v, hv, rfl⟩ := List.mem_map.mp ht
      exact hasNeutralText_literal (hkind v hv) (hshown v hv)
  | nullableEnumeration hne hkind hshown =>
      refine hasNeutralText_union fun t ht => ?_
      rcases List.mem_append.mp ht with hliteral | hnull
      · obtain ⟨v, hv, rfl⟩ := List.mem_map.mp hliteral
        exact hasNeutralText_literal (hkind v hv) (hshown v hv)
      · rw [List.mem_singleton.mp hnull]
        exact hasNeutralText_null
  | nullable ht hunion ih =>
      rw [references_union, List.flatMap_cons, List.forall_mem_append] at h
      refine hasNeutralText_union (List.forall_mem_cons.mpr ⟨ih h.1, ?_⟩)
      exact List.forall_mem_singleton.mpr hasNeutralText_null

end TypeExpr

/-! ## Declarations -/

/-- The line of a field of neutral type is neutral. -/
theorem neutral_fieldLine (name : String) (optional : Bool) {type : String} (h : Neutral type) :
    Neutral (fieldLine name optional type) := by
  have hmark : Neutral (if optional then "?" else "") := by
    cases optional <;> exact neutral_of_plain (by decide)
  unfold fieldLine
  have hindent : Neutral "    " := neutral_of_plain (by decide)
  have hcolon : Neutral ": " := neutral_of_plain (by decide)
  have hend : Neutral ";\n" := neutral_of_plain (by decide)
  exact ((((hindent.append (neutral_fieldName name)).append hmark).append hcolon).append h).append
    hend

/-- The source of a field with a compiled type that refers to plain names is neutral. -/
theorem Field.neutral_source {field : Field} {line : String} (ht : field.type.Regular)
    (hnames : ∀ name ∈ field.type.references, name.IsPlain) (h : field.source = .ok line) :
    Neutral line := by
  obtain ⟨name, type, -, htype, rfl⟩ := Field.source_eq_ok h
  obtain ⟨s, hs, hneutral⟩ := TypeExpr.hasNeutralText ht hnames
  rw [hs] at htype
  cases htype
  exact neutral_fieldLine name field.optional.truthy hneutral

/-- The lines of fields with compiled types that refer to plain names are neutral. -/
theorem neutral_fieldSources {fields : List Field} {lines : List String}
    (htypes : ∀ field ∈ fields, field.type.Regular)
    (hnames : ∀ field ∈ fields, ∀ name ∈ field.type.references, name.IsPlain)
    (h : fieldSources fields = .ok lines) : ∀ line ∈ lines, Neutral line := by
  intro line hline
  obtain ⟨field, hfield, hsource⟩ := (fieldSources_eq_ok.mp h).exists_of_mem_right hline
  exact Field.neutral_source (htypes field hfield) (hnames field hfield) hsource

namespace Decl

variable {decl : Decl} {exported : Bool} {source : String}

/-- The start of a declaration is neutral if its name is plain. -/
theorem neutral_heading (hname : decl.name.IsPlain) (hparameters : decl.parameters = [])
    {keyword : String} (hkeyword : Neutral keyword) : Neutral (decl.heading exported keyword) := by
  obtain ⟨s, hs, hplain⟩ := hname
  have hexport : Neutral (if exported then "export " else "") := by
    cases exported <;> exact neutral_of_plain (by decide)
  have hblank : Neutral " " := neutral_of_plain (by decide)
  have hnone : Neutral (parameterText []) := neutral_of_plain (by decide)
  unfold heading
  rw [hs, hparameters]
  exact (((hexport.append hkeyword).append hblank).append (neutral_of_plain hplain)).append hnone

/-- The lines of an interface stand in balanced brackets. -/
theorem neutral_interface {heading : String} {lines : List String} (hheading : Neutral heading)
    (hlines : ∀ line ∈ lines, Neutral line) :
    Neutral (heading ++ " \x7b\n" ++ String.join lines ++ "\x7d") := by
  have hblock : Neutral (" \x7b\n" ++ String.join lines ++ "\x7d") :=
    (neutral_join hlines).enclose (by decide) (by decide)
  have hsource := hheading.append hblock
  rwa [← String.append_assoc, ← String.append_assoc] at hsource

/-- An alias for a neutral type is neutral. -/
theorem neutral_alias {heading type : String} (hheading : Neutral heading) (htype : Neutral type) :
    Neutral (heading ++ " = " ++ type ++ ";") := by
  have hequals : Neutral " = " := neutral_of_plain (by decide)
  have hend : Neutral ";" := neutral_of_plain (by decide)
  exact ((hheading.append hequals).append htype).append hend

/-- The source of a compiled declaration is neutral if its name and the names it refers to are
plain. -/
theorem neutral_source (hcompiled : decl.Compiled) (hname : decl.name.IsPlain)
    (hnames : ∀ name ∈ decl.references, name.IsPlain) (h : decl.source exported = .ok source) :
    Neutral source := by
  have hheading {keyword : String} (hkeyword : Neutral keyword) :
      Neutral (decl.heading exported keyword) :=
    neutral_heading hname hcompiled.parameters hkeyword
  have hbody := hcompiled.body
  unfold references at hnames
  rcases source_eq_ok h with
    ⟨fields, lines, hfields, hlines, rfl⟩ | ⟨target, type, htarget, htype, rfl⟩
  · rw [hfields] at hbody hnames
    cases hbody with
    | record htypes =>
        have hfieldNames : ∀ field ∈ fields, ∀ name ∈ field.type.references, name.IsPlain :=
          fun field hfield name hname =>
            hnames name (List.mem_flatMap.mpr ⟨_, List.mem_map_of_mem hfield, hname⟩)
        have hneutral := neutral_fieldSources htypes hfieldNames hlines
        exact neutral_interface (hheading (neutral_of_plain (by decide))) hneutral
  · rw [htarget] at hbody hnames
    cases hbody with
    | synonym name =>
        have hregular := (TypeExpr.Regular.reference name).array
        have hreferences : ∀ name' ∈ (TypeExpr.array [.reference name]).references,
            name'.IsPlain := by
          simpa [Body.types] using hnames
        obtain ⟨s, hs, hneutral⟩ := TypeExpr.hasNeutralText hregular hreferences
        rw [hs] at htype
        cases htype
        exact neutral_alias (hheading (neutral_of_plain (by decide))) hneutral

/-- The word that starts a declaration stands in its source. -/
theorem exists_word_infix (h : decl.source exported = .ok source) :
    ∃ word ∈ declarationWords, word.toList <:+: source.toList := by
  have hheading (keyword : String) :
      (keyword ++ " ").toList <:+: (decl.heading exported keyword).toList := by
    refine ⟨(if exported then "export " else "").toList,
      (decl.name.text ++ parameterText decl.parameters).toList, ?_⟩
    simp [heading]
  rcases source_eq_ok h with ⟨fields, lines, -, -, rfl⟩ | ⟨target, type, -, -, rfl⟩
  · refine ⟨"interface ", by decide, (hheading "interface").trans ?_⟩
    rw [String.append_assoc, String.append_assoc, String.toList_append]
    exact (List.prefix_append _ _).isInfix
  · refine ⟨"type ", by decide, (hheading "type").trans ?_⟩
    rw [String.append_assoc, String.append_assoc, String.toList_append]
    exact (List.prefix_append _ _).isInfix

end Decl

/-! ## Documents -/

namespace Generator

variable {generator : Generator} {document : Document}

/-- A run makes a document if it succeeds with declarations and these are rendered. -/
theorem document_eq_ok (h : generator.document.result = .ok document) :
    ∃ decls sources, generator.declarations.result = .ok decls ∧
      declSources generator.config.exportTypes.truthy decls = .ok sources ∧
      document = ⟨generator.config.joinSources (comment decls) sources, decls.zip sources⟩ := by
  have hrun := Traced.eq_of_result h
  unfold Generator.document at hrun
  obtain ⟨before, decls, after, hdecls, hdocument, -⟩ := Traced.bind_eq_ok.mp hrun
  have hresult : documentOf generator.config decls = .ok document :=
    congrArg Traced.result hdocument
  obtain ⟨sources, hsources, rfl⟩ := Failure.map_eq_ok.mp hresult
  exact ⟨decls, sources, congrArg Traced.result hdecls, hsources, rfl⟩

/-- The comment on top of declarations with plain names is neutral. -/
theorem neutral_comment {decls : List Decl} (h : ∀ decl ∈ decls, decl.name.IsPlain) :
    Neutral (comment decls) := by
  have hroot : Neutral ((decls.head?.map fun decl => decl.name.text).getD "") := by
    cases decls with
    | nil => exact neutral_of_plain (by decide)
    | cons root rest =>
        obtain ⟨s, hs, hplain⟩ := h root List.mem_cons_self
        rw [List.head?_cons, Option.map_some, Option.getD_some, hs]
        exact neutral_of_plain hplain
  have hbefore : Neutral "Generated by json_schema_to_ts from " := neutral_of_plain (by decide)
  have hafter : Neutral ". Do not edit by hand." := neutral_of_plain (by decide)
  exact (hbefore.append hroot).append hafter

/-- Neutral sources make a neutral document. -/
theorem neutral_joinSources {comment : String} {sources : List String} (hcomment : Neutral comment)
    (h : ∀ source ∈ sources, Neutral source) : Neutral (joinSources comment sources) := by
  have hslashes : Neutral "// " := neutral_of_plain (by decide)
  have hlines : Neutral "\n\n" := neutral_of_plain (by decide)
  unfold joinSources
  refine Neutral.append ?_ (neutral_intercalate hlines h)
  split
  · exact neutral_of_plain (by decide)
  · exact (hslashes.append hcomment).append hlines

/-- The first source stands in the document. -/
theorem infix_joinSources (comment source : String) (rest : List String) :
    source.toList <:+: (joinSources comment (source :: rest)).toList := by
  obtain ⟨tail, htail⟩ : ∃ tail, "\n\n".intercalate (source :: rest) = source ++ tail := by
    cases rest with
    | nil => exact ⟨"", by simp⟩
    | cons next rest => exact ⟨_, by rw [String.intercalate_cons_cons, String.append_assoc]⟩
  unfold joinSources
  rw [htail, String.toList_append, String.toList_append]
  exact (List.prefix_append _ _).isInfix.trans (List.suffix_append _ _).isInfix

variable {decls : List Decl} {sources : List String} {exported : Bool}

/-- If the names in the parts of a document are plain, so are the names of its declarations. -/
theorem isPlain_of_parts (hdecls : generator.declarations.result = .ok decls)
    (hlength : decls.length = sources.length)
    (hnames : ∀ part ∈ decls.zip sources, Plain part.1.name.text.toList) :
    ∀ decl ∈ decls, decl.name.IsPlain := by
  intro decl hdecl
  obtain ⟨s, -, hs⟩ := exists_name_of_declarations hdecls decl hdecl
  have hparts : (decls.zip sources).map Prod.fst = decls :=
    List.map_fst_zip (Nat.le_of_eq hlength)
  rw [← hparts] at hdecl
  obtain ⟨part, hpart, rfl⟩ := List.mem_map.mp hdecl
  have hplain := hnames part hpart
  rw [hs] at hplain
  exact ⟨s, hs, hplain⟩

/-- The sources of a document whose declarations have plain names are neutral: what they refer to is
declared in the document too. -/
theorem neutral_declSources (hdecls : generator.declarations.result = .ok decls)
    (hplain : ∀ decl ∈ decls, decl.name.IsPlain)
    (hsources : declSources exported decls = .ok sources) : ∀ source ∈ sources, Neutral source := by
  intro source hsource
  obtain ⟨decl, hdecl, hrender⟩ := (declSources_eq_ok.mp hsources).exists_of_mem_right hsource
  have hcompiled := compiled_of_declarations hdecls decl hdecl
  refine Decl.neutral_source hcompiled (hplain decl hdecl) (fun name hname => ?_) hrender
  have hlisted := closed_of_declarations hdecls decl hdecl name hname
  obtain ⟨other, hother, rfl⟩ := List.mem_map.mp hlisted
  exact hplain other hother

/-- A declaration starts in the document: the root is always declared. -/
theorem exists_word_joinSources (hdecls : generator.declarations.result = .ok decls)
    (hsources : declSources exported decls = .ok sources) (comment : String) :
    ∃ word ∈ declarationWords, word.toList <:+: (joinSources comment sources).toList := by
  obtain ⟨-, -, root, rest, -, -, rfl⟩ := exists_root_of_declarations hdecls
  obtain ⟨source, others, hroot, -, rfl⟩ :=
    List.forall₂_cons_left_iff.mp (declSources_eq_ok.mp hsources)
  obtain ⟨word, hword, hstands⟩ := Decl.exists_word_infix hroot
  exact ⟨word, hword, hstands.trans (infix_joinSources comment source others)⟩

/-- **Generated documents pass the check.** If a document is generated and the names of its
declarations hold neither a quote nor a bracket, then the check of the document, with a line feed at
its end, succeeds. -/
theorem checkSource_document (h : generator.document.result = .ok document)
    (hnames : ∀ part ∈ document.parts, ∀ c ∈ part.1.name.text.toList, c ∉ checkedChars) :
    checkSource (document.text ++ "\n") = .ok () := by
  obtain ⟨decls, sources, hdecls, hrendered, rfl⟩ := document_eq_ok h
  have hlength := (declSources_eq_ok.mp hrendered).length_eq
  have hplain := isPlain_of_parts hdecls hlength hnames
  have hcomment : Neutral (if generator.config.addComment.truthy then comment decls else "") := by
    split
    · exact neutral_comment hplain
    · exact neutral_of_plain (by decide)
  have hdocument := neutral_joinSources hcomment (neutral_declSources hdecls hplain hrendered)
  have hend : Neutral "\n" := neutral_of_plain (by decide)
  obtain ⟨word, hword, hstands⟩ := exists_word_joinSources hdecls hrendered _
  refine checkSource_of_neutral (hdocument.append hend) hword ?_
  rw [String.toList_append]
  exact hstands.trans (List.prefix_append _ _).isInfix

/-- A menu whose keys and texts hold what the check looks at. -/
def menu : Generator where
  schema := .shape (.object { name := .string "Menu" }
    [.string { key := .string "say \"\x7b\"", nullable := .bool true }
        (.list [.string "\\", .string "(\n[", .string "é"]),
      .array { key := .string "" } (.boolean { nullable := .bool true })])
  config := { addComment := .bool true }
  name := .null

/-- The declaration of the menu. -/
def menuDecl : Decl :=
  .record (.string "Menu")
    [⟨.string "say \"\x7b\"",
        .union [.literal (.string "\\"), .literal (.string "(\n["), .literal (.string "é"), .null],
        .bool false⟩,
      ⟨.string "", .array [.union [.keyword (.string "boolean"), .null]], .bool false⟩]

/-- The source of the menu. -/
def menuSource : String :=
  "export interface Menu \x7b\n" ++
    "    \"say \\\"\x7b\\\"\": \"\\\\\" | \"(\\n[\" | \"é\" | null;\n" ++
    "    \"\": (boolean | null)[];\n\x7d"

/-- The document of the menu. -/
def menuDocument : Document where
  text := "// Generated by json_schema_to_ts from Menu. Do not edit by hand.\n\n" ++ menuSource
  parts := [(menuDecl, menuSource)]

/-- The menu is generated and passes. -/
theorem checkSource_menu : menu.document.result = .ok menuDocument ∧
    checkSource (menuDocument.text ++ "\n") = .ok () := by
  have h : menu.document.result = .ok menuDocument := by rfl
  have hplain : Plain menuDecl.name.text.toList := by decide
  exact ⟨h, checkSource_document h (List.forall_mem_singleton.mpr hplain)⟩

end Generator

end ShapeTypes
