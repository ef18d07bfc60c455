import ShapeTypes.Proofs.Decl.Source
import ShapeTypes.Proofs.LiteralText

/-!
# The text of a type determines the type

Compiled types are written without ambiguity: the end of a text tells apart arrays and types with
null, its first character words and literals, and a literal ends where it says so itself.

* `TypeExpr.Written`: **the grammar of the texts of types**, with the form of each text;
  `TypeExpr.exists_written`: every compiled type has such a text.
* `TypeExpr.formOf`: the form that is read off a text; `TypeExpr.formOf_written`: it is the form
  that the text was written in.
* `TypeExpr.reduced`: a type with unions of one member replaced by the member and literals known by
  their texts only; `TypeExpr.reduced_eq_of_written`: **types with the same text have the same
  reduced type**.
-/

namespace ShapeTypes

/-! ## The grammar of texts -/

namespace TypeExpr

/-- The forms that the text of a compiled type has. -/
inductive Form where
  /-- A single word. -/
  | word
  /-- An element with brackets behind it. -/
  | brackets
  /-- Literals between bars. -/
  | literals
  /-- Another text with null behind it. -/
  | orNull
deriving DecidableEq

/-- The members of a union; another type is its own only member. -/
def members : TypeExpr → List TypeExpr
  | union types => types
  | other => [other]

/-- The text of an element with brackets behind it, in parentheses or not. -/
def bracketed (wide : Bool) (cs : List Char) : List Char :=
  if wide then '(' :: (cs ++ [')', '[', ']']) else cs ++ ['[', ']']

/-- What stands behind a type that admits null. -/
def nullEnd : List Char := bar ++ ['n', 'u', 'l', 'l']

/-- The grammar of the texts of compiled types that refer to declarations with names of a kind. -/
inductive Written (P : String → Prop) : Form → TypeExpr → List Char → Prop
  /-- The keyword of a primitive. -/
  | keyword {word : String} (hword : word ∈ primitiveKeywords) :
      Written P .word (keyword (.string word)) word.toList
  /-- The name of a declaration. -/
  | reference {s : String} (hs : P s) : Written P .word (reference (.string s)) s.toList
  /-- An array. -/
  | array {form : Form} {t : TypeExpr} {cs : List Char} (h : Written P form t cs) :
      Written P .brackets (array [t]) (bracketed t.isWide cs)
  /-- An enumeration. -/
  | enumeration {values : List Value} {kind : LiteralKind} (hne : values ≠ [])
      (hkind : ∀ v ∈ values, v.literalKind? = some kind) :
      Written P .literals (union (values.map literal))
        (bar.intercalate (values.map fun v => v.source.toList))
  /-- A type that admits null; the members of a union stand next to null. -/
  | orNull {form : Form} {t : TypeExpr} {cs : List Char} (h : Written P form t cs)
      (hform : form ≠ .orNull) : Written P .orNull (union (t.members ++ [null])) (cs ++ nullEnd)

variable {P : String → Prop} {form form' : Form} {t t' : TypeExpr} {cs cs' : List Char}

/-- The characters of an array's text are those of its element with brackets. -/
theorem toList_arrayText (wide : Bool) (s : String) :
    (arrayText wide s).toList = bracketed wide s.toList := by
  cases wide <;> simp [arrayText, bracketed]

/-- The characters of joined texts are those of the texts between bars. -/
theorem toList_joined (strings : List String) :
    (" | ".intercalate strings).toList = bar.intercalate (strings.map String.toList) := by
  rw [String.toList_intercalate]
  rfl

/-- The texts of literals that are not too long. -/
theorem texts_literals {values : List Value} (hshown : ∀ v ∈ values, v.isShowable = true) :
    texts (values.map literal) = .ok ((values.map Value.source).map .string) := by
  rw [texts_eq_ok, List.map_map, List.forall₂_map_left_iff, List.forall₂_map_right_iff,
    List.forall₂_same]
  exact fun v hv => text_literal (hshown v hv)

/-- The texts of types with null behind them. -/
theorem texts_append_null {types : List TypeExpr} {strings : List String}
    (h : texts types = .ok (strings.map .string)) :
    texts (types ++ [null]) = .ok ((strings ++ ["null"]).map .string) := by
  rw [texts_eq_ok, List.map_append]
  refine List.rel_append (texts_eq_ok.mp h) (List.Forall₂.cons ?_ List.Forall₂.nil)
  rw [text]

/-- The text of types with null behind them goes on with null. -/
theorem text_orNull {types : List TypeExpr} {strings : List String}
    (h : texts types = .ok (strings.map .string)) (hne : strings ≠ []) :
    ∃ s, (union (types ++ [null])).text = .ok (.string s) ∧
      s.toList = bar.intercalate (strings.map String.toList) ++ nullEnd := by
  refine ⟨_, text_union (texts_append_null h), ?_⟩
  obtain ⟨first, rest, rfl⟩ := List.exists_cons_of_ne_nil hne
  rw [toList_joined, List.cons_append, List.map_cons, List.map_cons, intercalate_bar,
    intercalate_bar, List.map_append, barred, List.flatMap_append, List.append_assoc]
  rfl

/-- A type that is no union admits null in no member. -/
theorem Written.form_ne_orNull (h : Written P form t cs) (hunion : t.isUnion = false) :
    form ≠ .orNull := by
  cases h with
  | keyword => exact Form.noConfusion
  | reference => exact Form.noConfusion
  | array => exact Form.noConfusion
  | enumeration => exact Form.noConfusion
  | orNull => cases hunion

/-- A type that is no union is its only member. -/
theorem members_of_isUnion (h : t.isUnion = false) : t.members = [t] := by
  cases t with
  | union types => cases h
  | _ => rfl

/-- **Every compiled type has a text of the grammar**, if the names it refers to are of the kind. -/
theorem exists_written (ht : t.Regular) (h : ∀ name ∈ t.references, ∃ s, name = .string s ∧ P s) :
    ∃ form s, t.text = .ok (.string s) ∧ Written P form t s.toList := by
  induction ht with
  | keyword hword => exact ⟨.word, _, by rw [text], Written.keyword hword⟩
  | reference name =>
      obtain ⟨s, rfl, hs⟩ := h name (List.mem_singleton_self name)
      exact ⟨.word, s, by rw [text], Written.reference hs⟩
  | @array t ht ih =>
      rw [references_array, List.flatMap_singleton] at h
      obtain ⟨form, s, hs, hwritten⟩ := ih h
      refine ⟨.brackets, _, text_array hs, ?_⟩
      rw [toList_arrayText]
      exact hwritten.array
  | @enumeration values kind hne hkind hshown =>
      refine ⟨.literals, _, text_union (texts_literals hshown), ?_⟩
      rw [toList_joined, List.map_map]
      exact Written.enumeration hne hkind
  | @nullableEnumeration values kind hne hkind hshown =>
      have hne' : values.map Value.source ≠ [] := by simpa using hne
      obtain ⟨s, hs, hchars⟩ := text_orNull (texts_literals hshown) hne'
      refine ⟨.orNull, s, hs, ?_⟩
      rw [hchars, List.map_map]
      exact (Written.enumeration hne hkind).orNull Form.noConfusion
  | @nullable t ht hunion ih =>
      rw [references_union, List.flatMap_cons, List.forall_mem_append] at h
      obtain ⟨form, s, hs, hwritten⟩ := ih h.1
      have htexts : texts [t] = .ok ([s].map .string) :=
        texts_eq_ok.mpr (List.Forall₂.cons hs List.Forall₂.nil)
      obtain ⟨whole, hwhole, hchars⟩ := text_orNull htexts (List.cons_ne_nil s [])
      refine ⟨.orNull, whole, hwhole, ?_⟩
      rw [hchars, List.map_singleton, List.intercalate_singleton, ← List.singleton_append,
        ← members_of_isUnion hunion]
      exact hwritten.orNull (hwritten.form_ne_orNull hunion)

/-! ## Reading the form off a text -/

/-- The form that is read off a text: its end tells apart types that admit null and arrays, its
start words and literals. -/
def formOf (cs : List Char) : Form :=
  if nullEnd.isSuffixOf cs then .orNull
  else if cs.getLast? = some ']' then .brackets
  else if cs.head?.any isIdentifierStart then .word
  else .literals

/-- What a text with null behind it ends with. -/
theorem getLast?_append_nullEnd (cs : List Char) : (cs ++ nullEnd).getLast? = some 'l' := by
  rw [List.getLast?_append]
  rfl

/-- A text that does not end like null has none behind it. -/
theorem not_isSuffixOf_nullEnd (h : cs.getLast? ≠ some 'l') : nullEnd.isSuffixOf cs = false := by
  rw [Bool.eq_false_iff]
  intro hsuffix
  obtain ⟨before, rfl⟩ := List.isSuffixOf_iff_suffix.mp hsuffix
  exact h (getLast?_append_nullEnd before)

/-- The text of an array ends with a bracket. -/
theorem getLast?_bracketed (wide : Bool) (cs : List Char) :
    (bracketed wide cs).getLast? = some ']' := by
  cases wide with
  | false => rw [bracketed, if_neg Bool.false_ne_true, List.getLast?_append]; rfl
  | true => rw [bracketed, if_pos rfl, ← List.cons_append, List.getLast?_append]; rfl

/-- The form of an identifier is read off. -/
theorem formOf_identifier {s : String} (h : isIdentifier s = true) : formOf s.toList = .word := by
  obtain ⟨c, rest, hs, hstart, -⟩ := exists_start_of_isIdentifier h
  have hsuffix : nullEnd.isSuffixOf s.toList = false := by
    rw [Bool.eq_false_iff]
    intro hsuffix
    have hblank := (List.isSuffixOf_iff_suffix.mp hsuffix).subset (List.mem_cons_self (a := ' '))
    exact not_mem_of_isIdentifier h rfl hblank
  have hlast : s.toList.getLast? ≠ some ']' :=
    fun hlast => not_mem_of_isIdentifier h rfl (List.mem_of_getLast? hlast)
  rw [formOf, hsuffix, if_neg Bool.false_ne_true, if_neg hlast, hs]
  simp [hstart]

/-- The form of literals is read off. -/
theorem formOf_literals {texts : List (List Char)} (h : ∀ cs ∈ texts, IsLiteralText cs) :
    formOf (bar.intercalate texts) = .literals := by
  have hends := isLiteralEnd_of_literals h
  have hsuffix := not_isSuffixOf_nullEnd fun hlast => Bool.false_ne_true (hends 'l' hlast)
  have hlast : (bar.intercalate texts).getLast? ≠ some ']' :=
    fun hlast => Bool.false_ne_true (hends ']' hlast)
  have hhead : (bar.intercalate texts).head?.any isIdentifierStart = false := by
    cases hfirst : (bar.intercalate texts).head? with
    | none => rfl
    | some c => exact not_isIdentifierStart_of_literals h c hfirst
  rw [formOf, hsuffix, hhead, if_neg Bool.false_ne_true, if_neg hlast, if_neg Bool.false_ne_true]

/-- The texts of the values of an enumeration are texts of literals. -/
theorem isLiteralText_of_mem {values : List Value} {kind : LiteralKind}
    (h : ∀ v ∈ values, v.literalKind? = some kind) :
    ∀ cs ∈ values.map fun v => v.source.toList, IsLiteralText cs := by
  intro cs hcs
  obtain ⟨v, hv, rfl⟩ := List.mem_map.mp hcs
  exact isLiteralText_source (h v hv)

/-- **The form that is read off a text is the one that it was written in.** -/
theorem formOf_written (h : Written IsTypeName form t cs) : formOf cs = form := by
  cases h with
  | keyword hword => exact formOf_identifier (isIdentifier_of_mem_primitiveKeywords _ hword)
  | reference hs => exact formOf_identifier hs.1
  | @array form t cs h =>
      have hlast := getLast?_bracketed t.isWide cs
      have hsuffix : nullEnd.isSuffixOf (bracketed t.isWide cs) = false :=
        not_isSuffixOf_nullEnd (by simp [hlast])
      rw [formOf, hsuffix, if_neg Bool.false_ne_true, if_pos hlast]
  | enumeration hne hkind => exact formOf_literals (isLiteralText_of_mem hkind)
  | orNull h hform =>
      rw [formOf, if_pos (List.isSuffixOf_iff_suffix.mpr (List.suffix_append _ _))]

/-! ## Types up to the text of their literals -/

/-- The union of some types; one type stands for itself. -/
def joined : List TypeExpr → TypeExpr
  | [t] => t
  | types => union types

mutual

/-- The type with unions of one member replaced by that member, and with literals known by their
texts only. -/
def reduced : TypeExpr → TypeExpr
  | literal value => literal (.string value.source)
  | array elements => array (reducedOf elements)
  | union types => joined (reducedOf types)
  | other => other

/-- Several types, reduced. -/
def reducedOf : List TypeExpr → List TypeExpr
  | [] => []
  | t :: rest => reduced t :: reducedOf rest

end

/-- Several types are reduced one by one. -/
theorem reducedOf_eq_map (types : List TypeExpr) : reducedOf types = types.map reduced := by
  induction types with
  | nil => rfl
  | cons t rest ih => rw [reducedOf, ih, List.map_cons]

@[simp] theorem reduced_literal (value : Value) :
    (literal value).reduced = literal (.string value.source) := rfl

@[simp] theorem reduced_array (elements : List TypeExpr) :
    (array elements).reduced = array (elements.map reduced) := by
  rw [reduced, reducedOf_eq_map]

/-- A reduced type is the union of its reduced members. -/
theorem reduced_eq_joined (t : TypeExpr) : t.reduced = joined (t.members.map reduced) := by
  cases t with
  | union types => rw [reduced, reducedOf_eq_map, members]
  | _ => rfl

/-- Literals with the same texts are the same when reduced. -/
theorem reduced_literals {values values' : List Value}
    (h : (values.map fun v => v.source.toList) = values'.map fun v => v.source.toList) :
    (values.map literal).map reduced = (values'.map literal).map reduced := by
  have hsources (values : List Value) : (values.map literal).map reduced =
      (values.map fun v => v.source.toList).map fun cs => literal (.string (String.ofList cs)) := by
    simp
  rw [hsources, hsources, h]

/-! ## Texts determine types -/

/-- What the text of a compiled type ends with is no parenthesis. -/
theorem Written.getLast?_ne (h : Written IsTypeName form t cs) : cs.getLast? ≠ some ')' := by
  have hword {s : String} (hs : isIdentifier s = true) : s.toList.getLast? ≠ some ')' :=
    fun hlast => not_mem_of_isIdentifier hs rfl (List.mem_of_getLast? hlast)
  cases h with
  | keyword hmem => exact hword (isIdentifier_of_mem_primitiveKeywords _ hmem)
  | reference hs => exact hword hs.1
  | array h =>
      rw [getLast?_bracketed]
      decide
  | enumeration hne hkind =>
      intro hlast
      have hend := isLiteralEnd_of_literals (isLiteralText_of_mem hkind) ')' hlast
      cases hend
  | orNull h hform =>
      rw [getLast?_append_nullEnd]
      decide

/-- Brackets, with parentheses or without, are told apart from what stands before them. -/
theorem bracketed_inj {wide wide' : Bool} (h : bracketed wide cs = bracketed wide' cs')
    (hlast : cs.getLast? ≠ some ')') (hlast' : cs'.getLast? ≠ some ')') : cs = cs' := by
  have hmixed {cs cs' : List Char} (h : bracketed true cs = bracketed false cs')
      (hlast : cs'.getLast? ≠ some ')') : False := by
    have hparen : ('(' :: (cs ++ [')'])) ++ ['[', ']'] = cs' ++ ['[', ']'] := by
      rw [List.cons_append, List.append_assoc]
      exact h
    rw [← List.append_cancel_right hparen, ← List.cons_append, List.getLast?_concat] at hlast
    exact hlast rfl
  cases wide with
  | false =>
      cases wide' with
      | false => exact List.append_cancel_right h
      | true => exact (hmixed h.symm hlast).elim
  | true =>
      cases wide' with
      | false => exact (hmixed h hlast').elim
      | true => exact List.append_cancel_right (List.cons.inj h).2

/-- Types with the same text have the same members when reduced. -/
theorem reduced_members_of_written (h : Written IsTypeName form t cs)
    (h' : Written IsTypeName form' t' cs) :
    t.members.map reduced = t'.members.map reduced := by
  have hform : form = form' := by rw [← formOf_written h, formOf_written h']
  subst hform
  induction h generalizing t' with
  | @keyword word hword =>
      generalize hcs : word.toList = cs at h'
      cases h' with
      | keyword hword' =>
          rw [String.toList_inj.mp hcs]
      | reference hs =>
          rw [String.toList_inj.mp hcs] at hword
          exact absurd (List.mem_cons_of_mem _ hword) hs.2
  | @reference s hs =>
      generalize hcs : s.toList = cs at h'
      cases h' with
      | keyword hword' =>
          rw [String.toList_inj.mp hcs] at hs
          exact absurd (List.mem_cons_of_mem _ hword') hs.2
      | reference hs' => rw [String.toList_inj.mp hcs]
  | @array form t cs h ih =>
      generalize hcs : bracketed t.isWide cs = whole at h'
      cases h' with
      | @array form' t' cs' h' =>
          have heq := bracketed_inj hcs h.getLast?_ne h'.getLast?_ne
          subst heq
          have hform : form' = form := by rw [← formOf_written h', formOf_written h]
          subst hform
          have hreduced : t.reduced = t'.reduced := by
            rw [reduced_eq_joined, ih h', ← reduced_eq_joined]
          simp [members, hreduced]
  | @enumeration values kind hne hkind =>
      generalize hcs : bar.intercalate (values.map fun v => v.source.toList) = whole at h'
      cases h' with
      | @enumeration values' kind' hne' hkind' =>
          refine reduced_literals (literals_inj (isLiteralText_of_mem hkind)
            (isLiteralText_of_mem hkind') ?_ ?_ hcs)
          · simpa using hne
          · simpa using hne'
  | @orNull form t cs h hform ih =>
      generalize hcs : cs ++ nullEnd = whole at h'
      cases h' with
      | @orNull form' t' cs' h' hform' =>
          have heq := List.append_cancel_right hcs
          subst heq
          have hform : form' = form := by rw [← formOf_written h', formOf_written h]
          subst hform
          rw [members, members, List.map_append, List.map_append, ih h']

/-- **Types with the same text are the same when reduced.** -/
theorem reduced_eq_of_written (h : Written IsTypeName form t cs)
    (h' : Written IsTypeName form' t' cs) : t.reduced = t'.reduced := by
  rw [reduced_eq_joined, reduced_members_of_written h h', ← reduced_eq_joined]

/-- The text of a compiled type stands on one line. -/
theorem Written.feed_not_mem (h : Written IsTypeName form t cs) : '\n' ∉ cs := by
  induction h with
  | keyword hmem =>
      exact not_mem_of_isIdentifier (isIdentifier_of_mem_primitiveKeywords _ hmem) rfl
  | reference hs => exact not_mem_of_isIdentifier hs.1 rfl
  | @array form t cs h ih =>
      unfold bracketed
      split <;> simp [ih]
  | enumeration hne hkind => exact feed_not_mem_literals (isLiteralText_of_mem hkind)
  | orNull h hform ih =>
      rw [List.mem_append, not_or]
      exact ⟨ih, by decide⟩

end TypeExpr

end ShapeTypes
