import ShapeTypes.Proofs.TypeReading
import ShapeTypes.Proofs.TypeText

/-!
# What the text of a type says

* `TypeExpr.IsPlain`: the types of which something is said here: their names are words, every array
  has one element and every union a member.
* `TypeExpr.meant`: the members that a type means: nested unions are flattened, a union of one
  member is that member, and keywords are not told from references.
* `TypeExpr.said`: the members that its text says. The brackets of an array go to the last member
  of its element, unless the element is a union of several members.
* `TypeExpr.IsPlain.exists_operands`: the text is made of one operand for each member that it says.
* `TypeExpr.IsPlain.said_eq_meant_iff`: **it says what is meant exactly if no array hides a union
  of several members behind a union of one**. Otherwise some text has too many members.
* `TypeExpr.reads_text`: both together.
-/

namespace ShapeTypes

namespace TypeExpr

/-! ## Types and their members -/

/-- Types whose names are words, and whose arrays and unions have the parts that they need. -/
inductive IsPlain : TypeExpr → Prop
  /-- A keyword. -/
  | keyword {s : String} (h : IsTypeWord s) : IsPlain (keyword (.string s))
  /-- A reference. -/
  | reference {s : String} (h : IsTypeWord s) : IsPlain (reference (.string s))
  /-- A literal, in which no integer is too long for a source text. -/
  | literal {v : Value} (h : v.IsLiteral) (hshown : v.isShowable = true) : IsPlain (literal v)
  /-- Null. -/
  | null : IsPlain null
  /-- An array of one element. -/
  | array {t : TypeExpr} (h : IsPlain t) : IsPlain (array [t])
  /-- A union of at least one member, which may be unions themselves. -/
  | union {types : List TypeExpr} (hne : types ≠ []) (h : ∀ t ∈ types, IsPlain t) :
      IsPlain (union types)

/-- A union of one plain type is plain. -/
theorem IsPlain.single {t : TypeExpr} (h : t.IsPlain) : (TypeExpr.union [t]).IsPlain :=
  .union (List.cons_ne_nil _ _) (List.forall_mem_singleton.mpr h)

/-- Brackets behind the last of some members. -/
def bracketLast : List Member → List Member
  | [] => []
  | [m] => [.array [m]]
  | m :: next :: rest => m :: bracketLast (next :: rest)

mutual

/-- The members that a type means. -/
def meant : TypeExpr → List Member
  | keyword name => [.word name.text]
  | reference name => [.word name.text]
  | literal value => [.literal value]
  | null => [.null]
  | array [t] => [.array (meant t)]
  | union types => meantOf types
  | _ => []

/-- The members that several types mean. -/
def meantOf : List TypeExpr → List Member
  | [] => []
  | t :: rest => meant t ++ meantOf rest

end

mutual

/-- The members that the text of a type says. -/
def said : TypeExpr → List Member
  | keyword name => [.word name.text]
  | reference name => [.word name.text]
  | literal value => [.literal value]
  | null => [.null]
  | array [t] => if t.isWide then [.array (said t)] else bracketLast (said t)
  | union types => saidOf types
  | _ => []

/-- The members that the texts of several types say. -/
def saidOf : List TypeExpr → List Member
  | [] => []
  | t :: rest => said t ++ saidOf rest

end

/-- The type with unions of one member around it taken away. -/
def unwrapped : TypeExpr → TypeExpr
  | union [t] => unwrapped t
  | t => t

/-! ## What the text says -/

/-- Operands between bars, each of which is read as one member. -/
structure IsMadeOf (operands : List (List Char)) (members : List Member) (cs : List Char) :
    Prop where
  /-- The operands stand between bars. -/
  text : cs = bar.intercalate operands
  /-- There is one. -/
  nonempty : operands ≠ []
  /-- Each operand is read as one member. -/
  reads : List.Forall₂ (fun operand m => Reads .operand operand [m]) operands members

section

variable {operands operands' : List (List Char)} {members members' : List Member}
  {cs cs' : List Char}

/-- A word or a literal is its only operand. -/
theorem isMadeOf_atom {m : Member} (h : m.IsAtom) : IsMadeOf [m.text.toList] [m] m.text.toList := by
  refine ⟨(List.intercalate_singleton ..).symm, List.cons_ne_nil _ _, .cons ?_ .nil⟩
  have hreads := (Reads.atom h).operand 0
  rwa [bracketRun, List.append_nil] at hreads

/-- Operands between bars are a union. -/
theorem IsMadeOf.reads_union (h : IsMadeOf operands members cs) : Reads .union cs members := by
  obtain ⟨rfl, hne, hreads⟩ := h
  induction hreads with
  | nil => contradiction
  | @cons operand m operands members hread hreads ih =>
      cases hreads with
      | nil =>
          rw [List.intercalate_singleton]
          exact .last hread
      | cons hnext hrest =>
          rw [List.intercalate_cons_cons, List.append_assoc]
          exact .bar hread (ih (List.cons_ne_nil _ _))

/-- A type in parentheses with brackets behind it is a single operand. -/
theorem IsMadeOf.grouped (h : IsMadeOf operands members cs) :
    IsMadeOf [bracketed true cs] [.array members] (bracketed true cs) := by
  refine ⟨(List.intercalate_singleton ..).symm, List.cons_ne_nil _ _, .cons ?_ .nil⟩
  have hreads := h.reads_union.group.operand 1
  rwa [List.cons_append, List.append_assoc] at hreads

/-- Brackets behind an operand apply to it. -/
theorem reads_brackets {m : Member} (h : Reads .operand cs [m]) :
    Reads .operand (cs ++ ['[', ']']) [.array [m]] := by
  generalize [m] = members at h
  cases h with
  | operand h n =>
      rw [List.append_assoc, bracketRun_concat]
      exact h.operand (n + 1)

/-- Brackets without parentheses go to the last operand. -/
theorem IsMadeOf.bracketLast (h : IsMadeOf operands members cs) :
    ∃ operands', IsMadeOf operands' (bracketLast members) (cs ++ ['[', ']']) := by
  obtain ⟨rfl, hne, hreads⟩ := h
  induction hreads with
  | nil => contradiction
  | @cons operand m operands members hread hreads ih =>
      cases hreads with
      | nil =>
          rw [List.intercalate_singleton]
          exact ⟨[operand ++ ['[', ']']], (List.intercalate_singleton ..).symm,
            List.cons_ne_nil _ _, .cons (reads_brackets hread) .nil⟩
      | cons hnext hrest =>
          obtain ⟨operands', htext, hne', hreads'⟩ := ih (List.cons_ne_nil _ _)
          obtain ⟨first, others, rfl⟩ := List.exists_cons_of_ne_nil hne'
          refine ⟨operand :: first :: others, ?_, List.cons_ne_nil _ _, .cons hread hreads'⟩
          rw [List.intercalate_cons_cons, List.intercalate_cons_cons, ← htext, List.append_assoc]

/-- Types with a bar between them have the operands of both. -/
theorem IsMadeOf.append (h : IsMadeOf operands members cs) (h' : IsMadeOf operands' members' cs') :
    IsMadeOf (operands ++ operands') (members ++ members') (cs ++ (bar ++ cs')) := by
  obtain ⟨rfl, hne, hreads⟩ := h
  obtain ⟨rfl, hne', hreads'⟩ := h'
  refine ⟨?_, List.append_ne_nil_of_left_ne_nil hne _, List.rel_append hreads hreads'⟩
  obtain ⟨first, others, rfl⟩ := List.exists_cons_of_ne_nil hne
  obtain ⟨first', others', rfl⟩ := List.exists_cons_of_ne_nil hne'
  rw [List.cons_append, intercalate_bar, intercalate_bar, intercalate_bar, barred_append,
    barred_cons, List.append_assoc]

end

/-- The texts of several types with bars between them have the operands of all of them. -/
theorem exists_operands_of_texts {types : List TypeExpr} (hne : types ≠ [])
    (h : ∀ t ∈ types, ∃ s operands, t.text = .ok (.string s) ∧
      IsMadeOf operands t.said s.toList) :
    ∃ (first : String) (others : List String) (operands : List (List Char)),
      texts types = .ok ((first :: others).map .string) ∧
      IsMadeOf operands (saidOf types)
        (bar.intercalate ((first :: others).map String.toList)) := by
  induction types with
  | nil => contradiction
  | cons t rest ih =>
      obtain ⟨⟨s, operands, hs, hmade⟩, hrest⟩ := List.forall_mem_cons.mp h
      rw [saidOf, texts, hs]
      cases rest with
      | nil =>
          refine ⟨s, [], operands, rfl, ?_⟩
          rw [saidOf, List.append_nil, List.map_singleton, List.intercalate_singleton]
          exact hmade
      | cons next rest =>
          obtain ⟨first, others, operands', htexts, hmade'⟩ := ih (List.cons_ne_nil _ _) hrest
          refine ⟨s, first :: others, operands ++ operands', ?_, ?_⟩
          · rw [htexts]
            rfl
          · rw [List.map_cons, List.map_cons, List.intercalate_cons_cons, ← List.map_cons,
              List.append_assoc]
            exact hmade.append hmade'

/-- **The text of a type is made of the members that it says.** -/
theorem IsPlain.exists_operands {t : TypeExpr} (ht : t.IsPlain) :
    ∃ s operands, t.text = .ok (.string s) ∧ IsMadeOf operands t.said s.toList := by
  induction ht with
  | @keyword s h => exact ⟨s, _, by rw [text], isMadeOf_atom (m := .word s) h⟩
  | @reference s h => exact ⟨s, _, by rw [text], isMadeOf_atom (m := .word s) h⟩
  | @literal v h hshown =>
      exact ⟨v.source, _, text_literal hshown, isMadeOf_atom (m := .literal v) h⟩
  | null => exact ⟨"null", _, by rw [text], isMadeOf_atom (m := .null) trivial⟩
  | @array t ht ih =>
      obtain ⟨s, operands, hs, hmade⟩ := ih
      simp only [text_array hs, said]
      cases t.isWide with
      | true =>
          refine ⟨_, [bracketed true s.toList], rfl, ?_⟩
          rw [toList_arrayText]
          exact hmade.grouped
      | false =>
          obtain ⟨operands', hmade'⟩ := hmade.bracketLast
          refine ⟨_, operands', rfl, ?_⟩
          rw [toList_arrayText]
          exact hmade'
  | @union types hne htypes ih =>
      obtain ⟨first, others, operands, htexts, hmade⟩ := exists_operands_of_texts hne ih
      refine ⟨_, operands, text_union htexts, ?_⟩
      rw [toList_joined]
      exact hmade

/-! ## The text says what is meant -/

/-- Brackets leave the number of members as it is. -/
theorem length_bracketLast (members : List Member) :
    (bracketLast members).length = members.length := by
  induction members with
  | nil => rfl
  | cons m rest ih =>
      cases rest with
      | nil => rfl
      | cons next others => rw [bracketLast, List.length_cons, ih]; rfl

/-- Brackets apply to all members if and only if there is one. -/
theorem bracketLast_eq_singleton {members element : List Member} :
    bracketLast members = [.array element] ↔ members.length = 1 ∧ members = element := by
  constructor
  · intro h
    have hlength : members.length = 1 := by rw [← length_bracketLast, h, List.length_singleton]
    obtain ⟨m, rfl⟩ := List.length_eq_one_iff.mp hlength
    cases h
    exact ⟨rfl, rfl⟩
  · rintro ⟨hlength, rfl⟩
    obtain ⟨m, rfl⟩ := List.length_eq_one_iff.mp hlength
    rfl

/-- Every type means some member. -/
theorem IsPlain.length_meant_pos {t : TypeExpr} (ht : t.IsPlain) : 0 < t.meant.length := by
  induction ht with
  | union hne htypes ih =>
      obtain ⟨t, rest, rfl⟩ := List.exists_cons_of_ne_nil hne
      rw [meant, meantOf, List.length_append]
      exact Nat.add_pos_left (ih t List.mem_cons_self) _
  | _ => exact Nat.zero_lt_one

/-- Several types mean at least as many members as they are. -/
theorem length_le_length_meantOf {types : List TypeExpr} (htypes : ∀ t ∈ types, t.IsPlain) :
    types.length ≤ (meantOf types).length := by
  induction types with
  | nil => exact Nat.le_refl _
  | cons t rest ih =>
      obtain ⟨ht, hrest⟩ := List.forall_mem_cons.mp htypes
      have hpos := ht.length_meant_pos
      have hle := ih hrest
      rw [meantOf, List.length_append, List.length_cons]
      omega

/-- A type means one member unless it is a union of several, apart from unions of one around it. -/
theorem IsPlain.length_meant_eq_one_iff {t : TypeExpr} (ht : t.IsPlain) :
    t.meant.length = 1 ↔ t.unwrapped.isWide = false := by
  induction ht with
  | @union types hne htypes ih =>
      match types, hne with
      | [t], _ =>
          rw [meant, meantOf, meantOf, List.append_nil, unwrapped]
          exact ih t List.mem_cons_self
      | t :: next :: rest, _ =>
          have hle := length_le_length_meantOf htypes
          have hwide : (TypeExpr.union (t :: next :: rest)).unwrapped.isWide = true := rfl
          simp only [List.length_cons] at hle
          simp only [meant, hwide, Bool.true_eq_false, iff_false]
          omega
  | _ => exact iff_of_true rfl rfl

/-- Several texts say no fewer members than are meant if none of them does. -/
theorem length_meantOf_le {types : List TypeExpr}
    (h : ∀ t ∈ types, t.meant.length ≤ t.said.length) :
    (meantOf types).length ≤ (saidOf types).length := by
  induction types with
  | nil => exact Nat.le_refl _
  | cons t rest ih =>
      obtain ⟨ht, hrest⟩ := List.forall_mem_cons.mp h
      rw [meantOf, saidOf, List.length_append, List.length_append]
      exact Nat.add_le_add ht (ih hrest)

/-- The text never says fewer members than are meant. -/
theorem IsPlain.length_meant_le {t : TypeExpr} (ht : t.IsPlain) :
    t.meant.length ≤ t.said.length := by
  induction ht with
  | @array t ht ih =>
      rw [meant, said]
      split
      · exact Nat.le_refl _
      · rw [length_bracketLast]
        exact Nat.le_trans ht.length_meant_pos ih
  | union hne htypes ih => exact length_meantOf_le ih
  | _ => exact Nat.le_refl _

/-- Several texts say what is meant if and only if each of them does: none of them can make up for
what another one says too much. -/
theorem saidOf_eq_meantOf_iff {types : List TypeExpr} (htypes : ∀ t ∈ types, t.IsPlain) :
    saidOf types = meantOf types ↔ ∀ t ∈ types, t.said = t.meant := by
  induction types with
  | nil => exact iff_of_true rfl (List.forall_mem_nil _)
  | cons t rest ih =>
      obtain ⟨ht, hrest⟩ := List.forall_mem_cons.mp htypes
      have hfirst := ht.length_meant_le
      have hothers := length_meantOf_le fun t ht => (hrest t ht).length_meant_le
      rw [List.forall_mem_cons, saidOf, meantOf]
      constructor
      · intro h
        have hlength := congrArg List.length h
        rw [List.length_append, List.length_append] at hlength
        obtain ⟨hsame, hsames⟩ := List.append_inj h (by omega)
        exact ⟨hsame, (ih hrest).mp hsames⟩
      · rintro ⟨hsame, hsames⟩
        rw [hsame, (ih hrest).mpr hsames]

/-- A union of several members is no union of one. -/
theorem unwrapped_of_isWide {t : TypeExpr} (h : t.isWide = true) : t.unwrapped = t := by
  match t with
  | union (_ :: _ :: _) => rfl

/-- The text of an array says what is meant if that of the element does, and the element has
parentheses if it is to have them. -/
theorem IsPlain.said_array_eq_meant_iff {t : TypeExpr} (ht : t.IsPlain) :
    (TypeExpr.array [t]).said = (TypeExpr.array [t]).meant ↔
      t.isWide = t.unwrapped.isWide ∧ t.said = t.meant := by
  rw [said, meant]
  cases hwide : t.isWide with
  | true => simp [unwrapped_of_isWide hwide, hwide]
  | false =>
      rw [if_neg Bool.false_ne_true, bracketLast_eq_singleton, eq_comm (a := false),
        ← ht.length_meant_eq_one_iff]
      constructor
      · rintro ⟨hlength, hsame⟩
        exact ⟨hsame ▸ hlength, hsame⟩
      · rintro ⟨hlength, hsame⟩
        exact ⟨hsame ▸ hlength, hsame⟩

/-- **The text says what is meant exactly if no array hides a union of several members** behind a
union of one. -/
theorem IsPlain.said_eq_meant_iff {t : TypeExpr} (ht : t.IsPlain) :
    t.said = t.meant ↔ ∀ element, TypeExpr.array [element] ∈ t.parts →
      element.isWide = element.unwrapped.isWide := by
  induction ht with
  | @array t ht ih =>
      rw [ht.said_array_eq_meant_iff, ih]
      simp only [mem_parts_array, List.mem_singleton, exists_eq_left, or_imp, forall_and,
        TypeExpr.array.injEq, List.cons.injEq, and_true, forall_eq]
  | @union types hne htypes ih =>
      rw [said, meant, saidOf_eq_meantOf_iff htypes]
      simp only [mem_parts_union, reduceCtorEq, false_or]
      constructor
      · rintro h element ⟨t, ht, hpart⟩
        exact (ih t ht).mp (h t ht) element hpart
      · intro h t ht
        exact (ih t ht).mpr fun element hpart => h element ⟨t, ht, hpart⟩
  | _ =>
      refine iff_of_true rfl ?_
      simp [parts]

/-! ## Reading the text -/

/-- **Brackets apply to the whole element, unless it hides a union.** The text of a type is read in
one way, as the type that is written. It is read as the type that is meant exactly if every array
whose element comes down to a union of several members has such a union for its element. -/
theorem reads_text {t : TypeExpr} (ht : t.IsPlain) :
    ∃ s, t.text = .ok (.string s) ∧
      (∀ members, Reads .union s.toList members ↔ members = t.said) ∧
      (Reads .union s.toList t.meant ↔
        ∀ element, array [element] ∈ t.parts → element.isWide = element.unwrapped.isWide) := by
  obtain ⟨s, operands, htext, hmade⟩ := ht.exists_operands
  have hreads : ∀ members, Reads .union s.toList members ↔ members = t.said := by
    intro members
    constructor
    · exact fun h => h.unique hmade.reads_union
    · rintro rfl
      exact hmade.reads_union
  refine ⟨s, htext, hreads, ?_⟩
  rw [hreads, eq_comm, ht.said_eq_meant_iff]

/-- Lists of items and of ones, or a text with a bar in it. -/
def listing : TypeExpr :=
  union [array [union [reference (.string "Item"), null]],
    array [union [union [literal (.int 1)]]], literal (.string "a | b")]

/-- A listing is read as it is meant. -/
theorem reads_text_listing : listing.IsPlain ∧
    listing.text = .ok (.string "(Item | null)[] | 1[] | \"a | b\"") ∧
    Reads .union "(Item | null)[] | 1[] | \"a | b\"".toList
      [.array [.word "Item", .null], .array [.literal (.int 1)],
        .literal (.string "a | b")] := by
  have hone : (Value.int 1).isShowable = true := by decide +kernel
  have hitem : IsTypeWord "Item" := isTypeWord_of_isIdentifier (by decide) (by decide)
  have hitems : (union [reference (.string "Item"), null]).IsPlain :=
    .union (List.cons_ne_nil _ _) (by simp [IsPlain.reference hitem, IsPlain.null])
  have hones : (union [union [literal (.int 1)]]).IsPlain :=
    .single (.single (.literal trivial hone))
  have hlisting : listing.IsPlain := by
    refine .union (List.cons_ne_nil _ _) ?_
    simp only [List.forall_mem_cons]
    exact ⟨hitems.array, hones.array, .literal trivial rfl, List.forall_mem_nil _⟩
  have hsource : (Value.int 1).source = "1" := rfl
  have hquote : Text.Quoted.quote "a | b" = "\"a | b\"" := rfl
  have hlist : listing.text = .ok (.string "(Item | null)[] | 1[] | \"a | b\"") := by
    simp [listing, text, texts, Value.written_of_isShowable hone, allStrings, arrayText, isWide,
      Except.map, hsource, hquote]
  obtain ⟨s, htext, -, hmeant⟩ := reads_text hlisting
  rw [hlist] at htext
  cases htext
  refine ⟨hlisting, hlist, hmeant.mpr ?_⟩
  intro element hpart
  simp only [listing, parts, partsOf, List.append_nil, List.nil_append, List.cons_append,
    List.mem_cons, reduceCtorEq, array.injEq, List.cons.injEq, and_true, false_or, or_false,
    List.not_mem_nil] at hpart
  rcases hpart with rfl | rfl <;> rfl

/-- A list of texts or numbers, whose element is a union of one union. -/
def hiddenUnion : TypeExpr :=
  array [union [union [keyword (.string "string"), keyword (.string "number")]]]

/-- The brackets of the list apply to numbers only. -/
theorem not_reads_meant_hiddenUnion : hiddenUnion.IsPlain ∧
    hiddenUnion.text = .ok (.string "string | number[]") ∧
    hiddenUnion.meant = [.array [.word "string", .word "number"]] ∧
    Reads .union "string | number[]".toList [.word "string", .array [.word "number"]] ∧
    ¬ Reads .union "string | number[]".toList hiddenUnion.meant := by
  have hstring : IsTypeWord "string" := isTypeWord_of_isIdentifier (by decide) (by decide)
  have hnumber : IsTypeWord "number" := isTypeWord_of_isIdentifier (by decide) (by decide)
  have hinner : (union [keyword (.string "string"), keyword (.string "number")]).IsPlain :=
    .union (List.cons_ne_nil _ _) (by simp [IsPlain.keyword hstring, IsPlain.keyword hnumber])
  have hplain : hiddenUnion.IsPlain := hinner.single.array
  obtain ⟨s, operands, htext, hmade⟩ := hplain.exists_operands
  cases htext
  refine ⟨hplain, rfl, rfl, hmade.reads_union, fun hmeant => ?_⟩
  have hsame := hmade.reads_union.unique hmeant
  cases hsame

end TypeExpr

end ShapeTypes
