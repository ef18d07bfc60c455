import ShapeTypes.Proofs.Shape.Fields
import ShapeTypes.Proofs.Shape.Grounded
import ShapeTypes.Proofs.Text.Paragraphs
import ShapeTypes.Proofs.TypeText

/-!
# The lines of a declaration

* `Field.Written`, `Decl.Written`: **the grammar of the source of compiled declarations**, line by
  line; `Decl.Legible`: what a compiled declaration needs to be written in it, and
  `Decl.exists_written`: it is written in it then.
* `Decl.Written.isParagraph`: the lines of a declaration are a paragraph.
* `Decl.reduced`: a declaration with its types reduced; `Decl.reduced_eq_of_written`: **declarations
  with the same lines are the same when reduced**.
-/

namespace ShapeTypes

open Text

/-! ## The names of fields -/

/-- The written name of a field is found in what goes on with no part of an identifier. -/
theorem fieldName_append_inj {name name' : String} {rest rest' : List Char}
    (hrest : ∀ c ∈ rest.head?, isIdentifierPart c = false)
    (hrest' : ∀ c ∈ rest'.head?, isIdentifierPart c = false)
    (h : (fieldName name).toList ++ rest = (fieldName name').toList ++ rest') :
    name = name' ∧ rest = rest' := by
  -- an identifier does not start with a quote
  have hmixed {s s' : String} {rest rest' : List Char} (hs : isIdentifier s = true)
      (h : s.toList ++ rest = (Quoted.quote s').toList ++ rest') : False := by
    obtain ⟨c, cs, hcs, hstart, -⟩ := exists_start_of_isIdentifier hs
    rw [hcs, Quoted.toList_quote, List.cons_append, List.cons_append] at h
    obtain ⟨rfl, -⟩ := List.cons.inj h
    cases hstart
  unfold fieldName at h
  by_cases hname : isIdentifier name = true
  · rw [if_pos hname] at h
    by_cases hname' : isIdentifier name' = true
    · rw [if_pos hname'] at h
      obtain ⟨-, -, -, -, hparts⟩ := exists_start_of_isIdentifier hname
      obtain ⟨-, -, -, -, hparts'⟩ := exists_start_of_isIdentifier hname'
      obtain ⟨hchars, hr⟩ := append_inj_of_kind hparts hparts' hrest hrest' h
      exact ⟨String.toList_inj.mp hchars, hr⟩
    · rw [if_neg hname'] at h
      exact (hmixed hname h).elim
  · rw [if_neg hname] at h
    by_cases hname' : isIdentifier name' = true
    · rw [if_pos hname'] at h
      exact (hmixed hname' h.symm).elim
    · rw [if_neg hname'] at h
      exact Quoted.quote_append_inj h

/-- The written name of a field stands on one line. -/
theorem feed_not_mem_fieldName (name : String) : '\n' ∉ (fieldName name).toList := by
  unfold fieldName
  split
  · rename_i hname
    exact not_mem_of_isIdentifier hname rfl
  · exact Quoted.feed_not_mem_quote name

/-! ## Fields -/

namespace Field

/-- What stands behind the name of a field. -/
def ending (optional : Bool) (type : List Char) : List Char :=
  (if optional then ['?'] else []) ++ ':' :: ' ' :: (type ++ [';'])

/-- The characters of the line of a field. -/
def chars (name : String) (optional : Bool) (type : List Char) : List Char :=
  [' ', ' ', ' ', ' '] ++ ((fieldName name).toList ++ ending optional type)

/-- The grammar of the lines of fields: a name, a mark if the field may be missing, and a type. -/
inductive Written (P : String → Prop) : Field → List Char → Prop
  /-- The line of a field. -/
  | line {name : String} {type : TypeExpr} {optional : Value} {form : TypeExpr.Form}
      {cs : List Char} (h : type.Written P form cs) :
      Written P ⟨.string name, type, optional⟩ (chars name optional.truthy cs)

variable {P : String → Prop} {field field' : Field} {line : List Char}

/-- The line of a field is its characters and a line feed. -/
theorem toList_fieldLine (name : String) (optional : Bool) (type : String) :
    (fieldLine name optional type).toList = chars name optional type.toList ++ ['\n'] := by
  cases optional <;> simp [fieldLine, chars, ending]

/-- A field of compiled type is written in the grammar if its name is a text and the names that it
refers to are of the kind. -/
theorem exists_written (ht : field.type.Regular) (hname : ∃ s, field.name = .string s)
    (hreferences : ∀ name ∈ field.type.references, ∃ s, name = .string s ∧ P s) :
    ∃ line, field.Written P line ∧ field.source = .ok (String.ofList (line ++ ['\n'])) := by
  obtain ⟨form, type, htype, hwritten⟩ := TypeExpr.exists_written ht hreferences
  obtain ⟨name, ftype, optional⟩ := field
  obtain ⟨s, rfl⟩ := hname
  refine ⟨_, Written.line hwritten, Failure.map_eq_ok.mpr ⟨_, htype, ?_⟩⟩
  rw [← String.toList_inj, Value.text_string, toList_fieldLine, String.toList_ofList]

/-- What stands behind the name starts with no part of an identifier. -/
theorem not_isIdentifierPart_of_ending (optional : Bool) (type : List Char) :
    ∀ c ∈ (ending optional type).head?, isIdentifierPart c = false := by
  intro c hc
  cases optional <;>
    · cases hc
      rfl

/-- What stands behind the name determines the mark and the text of the type. -/
theorem ending_inj {optional optional' : Bool} {type type' : List Char}
    (h : ending optional type = ending optional' type') :
    optional = optional' ∧ type = type' := by
  have hmark {type type' : List Char} : ending true type ≠ ending false type' := by
    intro h
    cases (List.cons.inj h).1
  cases optional with
  | false =>
      cases optional' with
      | false => simpa [ending] using h
      | true => exact (hmark h.symm).elim
  | true =>
      cases optional' with
      | false => exact (hmark h).elim
      | true => simpa [ending] using h

/-- The line of a field stands on one line. -/
theorem Written.feed_not_mem (h : field.Written IsTypeName line) : '\n' ∉ line := by
  cases h with
  | @line name type optional form cs h =>
      have hcs := h.feed_not_mem
      have hname := feed_not_mem_fieldName name
      cases hoptional : optional.truthy <;> simp [chars, ending, hcs, hname]

/-- The field with its type reduced. -/
def reduced (field : Field) : Field := { field with type := field.type.reduced }

/-- Fields with the same line are the same when reduced, if truth values say whether they may be
missing. -/
theorem reduced_eq_of_written (h : field.Written IsTypeName line)
    (h' : field'.Written IsTypeName line) (hflag : ∃ b, field.optional = .bool b)
    (hflag' : ∃ b, field'.optional = .bool b) : field.reduced = field'.reduced := by
  cases h with
  | @line name type optional form cs hwritten =>
      generalize hchars : chars name optional.truthy cs = whole at h'
      cases h' with
      | @line name' type' optional' form' cs' hwritten' =>
          obtain ⟨b, rfl⟩ := hflag
          obtain ⟨b', rfl⟩ := hflag'
          obtain ⟨rfl, hending⟩ := fieldName_append_inj (not_isIdentifierPart_of_ending _ _)
            (not_isIdentifierPart_of_ending _ _) (List.append_cancel_left hchars)
          obtain ⟨hoptional, rfl⟩ := ending_inj hending
          rw [Value.truthy_bool, Value.truthy_bool] at hoptional
          subst hoptional
          rw [reduced, reduced, TypeExpr.reduced_eq_of_written hwritten hwritten']

end Field

/-! ## Declarations -/

namespace Decl

/-- The start of a declaration. -/
def opening (exported : Bool) (keyword : String) (name : String) : List Char :=
  (if exported then "export " else "").toList ++ (keyword.toList ++ ' ' :: name.toList)

/-- The grammar of the lines of declarations: an interface has a line for each field, an alias has
one line. -/
inductive Written (P : String → Prop) (exported : Bool) : Decl → List (List Char) → Prop
  /-- An interface. -/
  | record {name : String} {fields : List Field} {lines : List (List Char)} (hname : P name)
      (h : List.Forall₂ (Field.Written P) fields lines) :
      Written P exported (record (.string name) fields)
        ((opening exported "interface" name ++ [' ', '\x7b']) :: (lines ++ [['\x7d']]))
  /-- An alias. -/
  | synonym {name : String} {target : TypeExpr} {form : TypeExpr.Form} {cs : List Char}
      (hname : P name) (h : target.Written P form cs) :
      Written P exported (synonym (.string name) target)
        [opening exported "type" name ++ ([' ', '=', ' '] ++ (cs ++ [';']))]

/-- The name of a declaration and those that it refers to are texts of a kind, and the names of its
fields are texts. -/
structure Legible (P : String → Prop) (decl : Decl) : Prop where
  /-- The name. -/
  name : ∃ s, decl.name = .string s ∧ P s
  /-- The names that it refers to. -/
  references : ∀ name ∈ decl.references, ∃ s, name = .string s ∧ P s
  /-- The names of its fields. -/
  fields : ∀ field ∈ decl.fields, ∃ s, field.name = .string s

variable {P : String → Prop} {decl decl' : Decl} {exported : Bool} {lines : List (List Char)}

/-- The start of a declaration without type parameters. -/
theorem toList_heading (exported : Bool) (keyword name : String) (body : Body) :
    (heading exported keyword ⟨.string name, [], body⟩).toList = opening exported keyword name := by
  simp [heading, opening, parameterText]

/-- **Every compiled declaration is written in the grammar**, if it is legible. -/
theorem exists_written (hcompiled : decl.Compiled) (hlegible : decl.Legible P) (exported : Bool) :
    ∃ lines, decl.Written P exported lines ∧
      decl.source exported = .ok (String.ofList (unlines lines)) := by
  obtain ⟨hparameters, -, hbody⟩ := hcompiled
  obtain ⟨name, parameters, body⟩ := decl
  obtain ⟨⟨s, hname, hs⟩, hreferences, hfields⟩ := hlegible
  cases hparameters
  cases hname
  cases hbody with
  | @record fields htypes =>
      have hlines : ∀ field ∈ fields, ∃ line, field.Written P line ∧
          field.source = .ok (String.ofList (line ++ ['\n'])) := by
        intro field hfield
        refine Field.exists_written (htypes field hfield) (hfields field hfield) ?_
        intro name hname
        exact hreferences name (List.mem_flatMap.mpr ⟨_, List.mem_map_of_mem hfield, hname⟩)
      obtain ⟨lines, hlines⟩ := List.exists_forall₂ hlines
      have hsources : fieldSources fields =
          .ok (lines.map fun line => String.ofList (line ++ ['\n'])) := by
        rw [fieldSources_eq_ok, List.forall₂_map_right_iff]
        exact hlines.imp fun _ _ h => h.2
      refine ⟨_, Written.record hs (hlines.imp fun _ _ h => h.1), ?_⟩
      refine Failure.map_eq_ok.mpr ⟨_, hsources, ?_⟩
      rw [← String.toList_inj, ← List.cons_append, unlines_concat]
      simp [toList_heading, String.toList_join, List.flatMap_map, List.flatMap_cons]
  | synonym reference =>
      obtain ⟨t, rfl, ht⟩ := hreferences reference (by simp [references, Body.types])
      obtain ⟨form, text, htext, hwritten⟩ := TypeExpr.exists_written
        (TypeExpr.Regular.reference (.string t)).array (by simpa using ht)
      refine ⟨_, Written.synonym hs hwritten, ?_⟩
      unfold source
      refine Failure.map_eq_ok.mpr ⟨_, htext, ?_⟩
      rw [← String.toList_inj, unlines_singleton]
      simp [toList_heading]

/-- No line feed stands in the start of a declaration. -/
theorem feed_not_mem_opening {keyword name : String} (hkeyword : '\n' ∉ keyword.toList)
    (hname : IsTypeName name) : '\n' ∉ opening exported keyword name := by
  have hfeed : '\n' ∉ name.toList := not_mem_of_isIdentifier hname.1 rfl
  cases exported <;> simp [opening, hkeyword, hfeed]

/-- **The lines of a declaration are a paragraph.** -/
theorem Written.isParagraph (h : decl.Written IsTypeName exported lines) : IsParagraph lines := by
  cases h with
  | @record name fields lines hname h =>
      have hopening : '\n' ∉ opening exported "interface" name :=
        feed_not_mem_opening (by decide) hname
      have hlines : ∀ line ∈ lines, line ≠ [] ∧ '\n' ∉ line := by
        intro line hline
        obtain ⟨field, -, hfield⟩ := h.exists_of_mem_right hline
        refine ⟨?_, hfield.feed_not_mem⟩
        cases hfield
        simp [Field.chars]
      refine ⟨List.cons_ne_nil _ _, ?_, ?_⟩
      · simp only [List.mem_cons, List.mem_append, not_or, List.not_mem_nil, or_false]
        exact ⟨by simp, fun hnil => (hlines [] hnil).1 rfl, by simp⟩
      · rw [List.forall_mem_cons, List.forall_mem_append]
        refine ⟨by simp [hopening], fun line hline => (hlines line hline).2, ?_⟩
        exact List.forall_mem_singleton.mpr (by decide)
  | @synonym name target form cs hname h =>
      have hopening : '\n' ∉ opening exported "type" name :=
        feed_not_mem_opening (by decide) hname
      refine ⟨List.cons_ne_nil _ _, by simp, List.forall_mem_singleton.mpr ?_⟩
      simp [hopening, h.feed_not_mem]

/-! ## Declarations up to the text of their literals -/

/-- The body with its types reduced. -/
def reducedBody : Body → Body
  | .record fields => .record (fields.map Field.reduced)
  | .synonym target => .synonym target.reduced
  | .bare => .bare

/-- The declaration with its types reduced. -/
def reduced (decl : Decl) : Decl := { decl with body := reducedBody decl.body }

/-- The start of a declaration determines its name. -/
theorem opening_append_inj {keyword name name' : String} {rest rest' : List Char}
    (hname : IsTypeName name) (hname' : IsTypeName name')
    (h : opening exported keyword name ++ ' ' :: rest =
      opening exported keyword name' ++ ' ' :: rest') : name = name' ∧ rest = rest' := by
  have hblank {rest : List Char} : ∀ c ∈ (' ' :: rest).head?, isIdentifierPart c = false := by
    intro c hc
    cases hc
    rfl
  obtain ⟨-, -, -, -, hparts⟩ := exists_start_of_isIdentifier hname.1
  obtain ⟨-, -, -, -, hparts'⟩ := exists_start_of_isIdentifier hname'.1
  simp only [opening, List.append_assoc, List.cons_append] at h
  have hnames := List.append_cancel_left (List.append_cancel_left h)
  obtain ⟨hchars, hrest⟩ :=
    append_inj_of_kind hparts hparts' hblank hblank (List.cons.inj hnames).2
  exact ⟨String.toList_inj.mp hchars, (List.cons.inj hrest).2⟩

/-- **Declarations with the same lines are the same when reduced**, if truth values say which fields
may be missing. -/
theorem reduced_eq_of_written (h : decl.Written IsTypeName exported lines)
    (h' : decl'.Written IsTypeName exported lines)
    (hflags : ∀ field ∈ decl.fields, ∃ b, field.optional = .bool b)
    (hflags' : ∀ field ∈ decl'.fields, ∃ b, field.optional = .bool b) :
    decl.reduced = decl'.reduced := by
  cases h with
  | @record name fields lines hname hlines =>
      generalize hall : (opening exported "interface" name ++ [' ', '\x7b']) ::
        (lines ++ [['\x7d']]) = whole at h'
      cases h' with
      | @record name' fields' lines' hname' hlines' =>
          obtain ⟨hopening, hrest⟩ := List.cons.inj hall
          obtain ⟨rfl, -⟩ := opening_append_inj hname hname' hopening
          cases List.append_cancel_right hrest
          have hfields : fields.map Field.reduced = fields'.map Field.reduced :=
            hlines.map_eq_map hlines' fun field hfield field' hfield' _ hline hline' =>
              Field.reduced_eq_of_written hline hline' (hflags field hfield)
                (hflags' field' hfield')
          rw [reduced, reduced, record, record, reducedBody, reducedBody, hfields]
      | synonym hname' h' =>
          -- an alias has one line, an interface at least two
          cases lines <;> cases (List.cons.inj hall).2
  | @synonym name target form cs hname hwritten =>
      generalize hall : [opening exported "type" name ++ ([' ', '=', ' '] ++ (cs ++ [';']))] =
        whole at h'
      cases h' with
      | @record name' fields' lines' hname' hlines' =>
          cases lines' <;> cases (List.cons.inj hall).2
      | @synonym name' target' form' cs' hname' hwritten' =>
          obtain ⟨rfl, hrest⟩ := opening_append_inj hname hname' (List.cons.inj hall).1
          have htail : ['=', ' '] ++ (cs ++ [';']) = ['=', ' '] ++ (cs' ++ [';']) := hrest
          cases List.append_cancel_right (List.append_cancel_left htail)
          have htarget := TypeExpr.reduced_eq_of_written hwritten hwritten'
          rw [reduced, reduced, synonym, synonym, reducedBody, reducedBody, htarget]

end Decl

end ShapeTypes
