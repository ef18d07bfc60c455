import ShapeTypes.Proofs.LiteralValue
import ShapeTypes.TypeExpr

/-!
# Reading the text of a type

How the text of a type is read: brackets bind tighter than bars, and parentheses group.

* `IsRun`, `IsTypeWord`: the texts that are read as one word, and the names of types among them.
* `Member`: a member of a type that is read. A type is the list of its members, and what stands in
  parentheses adds its members to the type around it.
* `Reads`: **the grammar of types**, with what each text is read as.
* `Reads.append_inj`: a text is told apart from what follows it, by induction over the grammar; so
  `Reads.unique`: **a text is read in one way**.
-/

namespace ShapeTypes

open Text

/-! ## Words -/

/-- The characters that separate the words of a type, or start a quoted text. -/
def delimiters : List Char := [' ', '|', '(', ')', '[', ']', '"']

/-- The character is a delimiter. -/
def isDelimiter (c : Char) : Bool := delimiters.contains c

/-- A delimiter is not of a kind that no delimiter is of. -/
theorem isDelimiter_eq_false {p : Char → Bool} (h : delimiters.all fun d => !p d) {c : Char}
    (hc : p c = true) : isDelimiter c = false := by
  rw [Bool.eq_false_iff]
  intro hdelimiter
  have hkind := List.all_eq_true.mp h c (List.contains_iff_mem.mp hdelimiter)
  rw [hc] at hkind
  cases hkind

/-- The text is read as one word: no delimiter stands in it, and it starts like no number. -/
structure IsRun (s : String) : Prop where
  /-- There is something to read. -/
  nonempty : s ≠ ""
  /-- No delimiter stands in the word. -/
  undelimited : ∀ c ∈ s.toList, isDelimiter c = false
  /-- The word starts like no number. -/
  start : ∀ c ∈ s.toList.head?, isNumeralStart c = false

/-- The name of a type: a word other than the one for null. -/
structure IsTypeWord (s : String) : Prop extends IsRun s where
  /-- The word is not the one for null. -/
  notNull : s ≠ "null"

/-- An identifier is read as one word. -/
theorem isRun_of_isIdentifier {s : String} (h : isIdentifier s = true) : IsRun s := by
  obtain ⟨c, cs, hcs, hstart, hparts⟩ := exists_start_of_isIdentifier h
  refine ⟨?_, fun d hd => isDelimiter_eq_false rfl (hparts d hd), fun d hd => ?_⟩
  · rintro rfl
    cases hcs
  · rw [hcs] at hd
    cases hd
    rw [Bool.eq_false_iff]
    intro hnumeral
    rw [not_isIdentifierStart_of_isNumeralStart hnumeral] at hstart
    cases hstart

/-- Every identifier other than null is the name of a type. -/
theorem isTypeWord_of_isIdentifier {s : String} (h : isIdentifier s = true) (hnull : s ≠ "null") :
    IsTypeWord s :=
  ⟨isRun_of_isIdentifier h, hnull⟩

/-- Null is read as one word. -/
theorem isRun_null : IsRun "null" := isRun_of_isIdentifier (by decide)

/-! ## Members -/

/-- A member of a type, as it is read. -/
inductive Member where
  /-- A type known by its name. -/
  | word (name : String)
  /-- Null. -/
  | null
  /-- A literal. -/
  | literal (value : Value)
  /-- An array of a type with the given members. -/
  | array (element : List Member)

namespace Member

/-- The member is read off a single word or literal. -/
def IsAtom : Member → Prop
  | word name => IsTypeWord name
  | null => True
  | literal value => value.IsLiteral
  | array _ => False

/-- The text of a member that is a single word or literal. -/
def text : Member → String
  | word name => name
  | null => "null"
  | literal value => value.source
  | array _ => ""

/-- A word or literal is a text between quotes, or no delimiter stands in it. -/
theorem IsAtom.quoted_or_undelimited {m : Member} (h : m.IsAtom) :
    (∃ s, m.text = Quoted.quote s) ∨ ∀ c ∈ m.text.toList, isDelimiter c = false := by
  cases m with
  | word name => exact Or.inr h.undelimited
  | null => exact Or.inr isRun_null.undelimited
  | literal value =>
      rcases h.isLiteralText with ⟨s, hs⟩ | ⟨hnumeral, -⟩
      · exact Or.inl ⟨s, String.toList_inj.mp hs⟩
      · right
        exact fun c hc => isDelimiter_eq_false rfl (hnumeral c hc)
  | array element => exact h.elim

/-- A word is not the text of a literal. -/
theorem not_isLiteralText_of_isRun {s : String} (h : IsRun s) : ¬ IsLiteralText s.toList := by
  intro hliteral
  obtain ⟨c, cs, hcs⟩ := List.exists_cons_of_ne_nil (mt String.toList_eq_nil_iff.mp h.nonempty)
  have hhead : c ∈ s.toList.head? := by simp [hcs]
  rcases hliteral with ⟨t, ht⟩ | ⟨-, hnumeral⟩
  · rw [Quoted.toList_quote, hcs] at ht
    have hquote := h.undelimited c (List.mem_of_mem_head? hhead)
    rw [(List.cons.inj ht).1] at hquote
    cases hquote
  · have hchar := hnumeral c hhead
    rw [h.start c hhead] at hchar
    cases hchar

/-- Words and literals are told apart by their texts. -/
theorem IsAtom.text_inj {m m' : Member} (h : m.IsAtom) (h' : m'.IsAtom)
    (heq : m.text = m'.text) : m = m' := by
  have hwordNull {name : String} (hname : IsTypeWord name) (heq : name = "null") : False :=
    hname.notNull heq
  have hrunLiteral {s : String} {v : Value} (hs : IsRun s) (hv : v.IsLiteral)
      (heq : s = v.source) : False :=
    not_isLiteralText_of_isRun hs (heq ▸ hv.isLiteralText)
  cases m with
  | word name =>
      cases m' with
      | word name' => exact congrArg word heq
      | null => exact (hwordNull h heq).elim
      | literal v => exact (hrunLiteral h.toIsRun h' heq).elim
      | array element => exact h'.elim
  | null =>
      cases m' with
      | word name' => exact (hwordNull h' heq.symm).elim
      | null => rfl
      | literal v => exact (hrunLiteral isRun_null h' heq).elim
      | array element => exact h'.elim
  | literal v =>
      cases m' with
      | word name' => exact (hrunLiteral h'.toIsRun h heq.symm).elim
      | null => exact (hrunLiteral isRun_null h heq.symm).elim
      | literal v' => exact congrArg literal (Value.source_inj h h' heq)
      | array element => exact h'.elim
  | array element => exact h.elim

end Member

/-! ## The grammar -/

/-- How tightly a text holds together. -/
inductive Binding where
  /-- A single word or literal, or something in parentheses. -/
  | primary
  /-- Such a text with any number of brackets behind it. -/
  | operand
  /-- Operands between bars. -/
  | union

/-- Pairs of brackets. -/
def bracketRun : Nat → List Char
  | 0 => []
  | n + 1 => '[' :: ']' :: bracketRun n

/-- A pair of brackets at the end is one more pair. -/
theorem bracketRun_concat (n : Nat) : bracketRun n ++ ['[', ']'] = bracketRun (n + 1) := by
  induction n with
  | zero => rfl
  | succ n ih =>
      rw [bracketRun, List.cons_append, List.cons_append, ih]
      rfl

/-- Arrays in arrays, around a type with the given members. -/
def nestedArrays : Nat → List Member → List Member
  | 0, members => members
  | n + 1, members => [.array (nestedArrays n members)]

/-- The grammar of the texts of types. Brackets apply to the word, literal or parenthesis in front
of them and bind tighter than bars. -/
inductive Reads : Binding → List Char → List Member → Prop where
  /-- A word or a literal. -/
  | atom {m : Member} (h : m.IsAtom) : Reads .primary m.text.toList [m]
  /-- A type in parentheses. -/
  | group {cs : List Char} {members : List Member} (h : Reads .union cs members) :
      Reads .primary ('(' :: (cs ++ [')'])) members
  /-- Brackets behind a word, a literal or a type in parentheses, or none. -/
  | operand {cs : List Char} {members : List Member} (h : Reads .primary cs members) (n : Nat) :
      Reads .operand (cs ++ bracketRun n) (nestedArrays n members)
  /-- A single operand. -/
  | last {cs : List Char} {members : List Member} (h : Reads .operand cs members) :
      Reads .union cs members
  /-- An operand with a bar behind it. -/
  | bar {cs rest : List Char} {members more : List Member} (h : Reads .operand cs members)
      (hrest : Reads .union rest more) : Reads .union (cs ++ (bar ++ rest)) (members ++ more)

/-! ## A text is read in one way -/

/-- The characters that end a text. -/
def Binding.ends : Binding → List Char
  | primary => [' ', ')', '[']
  | operand => [' ', ')']
  | union => [')']

/-- What follows a text does not go on with it. -/
def Follows (binding : Binding) (rest : List Char) : Prop := ∀ c ∈ rest.head?, c ∈ binding.ends

/-- What starts with an end follows. -/
theorem follows_cons {binding : Binding} {c : Char} (h : c ∈ binding.ends) (rest : List Char) :
    Follows binding (c :: rest) := by
  rintro d ⟨⟩
  exact h

/-- A bar ends an operand. -/
theorem follows_bar (rest : List Char) : Follows .operand (bar ++ rest) :=
  follows_cons (c := ' ') (by decide) _

/-- A bar goes on with a union. -/
theorem not_follows_bar (rest : List Char) : ¬ Follows .union (bar ++ rest) := by
  intro h
  have hblank := h ' ' rfl
  contradiction

/-- A word or a literal does not start with a parenthesis. -/
theorem Member.IsAtom.append_ne_group {m : Member} {rest : List Char} (h : m.IsAtom)
    (hrest : Follows .primary rest) (inner : List Char) :
    m.text.toList ++ rest ≠ '(' :: inner := by
  intro heq
  cases hm : m.text.toList with
  | nil =>
      rw [hm, List.nil_append] at heq
      have hparen := hrest '(' (by rw [heq]; rfl)
      contradiction
  | cons c cs =>
      rw [hm, List.cons_append] at heq
      rcases h.quoted_or_undelimited with ⟨s, hs⟩ | hundelimited
      · rw [hs, Quoted.toList_quote] at hm
        rw [(List.cons.inj heq).1] at hm
        exact absurd (List.cons.inj hm).1 (by decide)
      · have hparen := hundelimited c (by rw [hm]; exact List.mem_cons_self)
        rw [(List.cons.inj heq).1] at hparen
        contradiction

/-- Words and literals are told apart from what follows them. -/
theorem Member.IsAtom.append_inj {m m' : Member} {rest rest' : List Char} (h : m.IsAtom)
    (h' : m'.IsAtom) (hrest : Follows .primary rest) (hrest' : Follows .primary rest')
    (heq : m.text.toList ++ rest = m'.text.toList ++ rest') : m = m' ∧ rest = rest' := by
  have hends {rest : List Char} (hrest : Follows .primary rest) :
      ∀ c ∈ rest.head?, (!isDelimiter c) = false := by
    intro c hc
    have hall : Binding.primary.ends.all isDelimiter = true := rfl
    rw [List.all_eq_true.mp hall c (hrest c hc)]
    rfl
  -- a quote starts neither a word nor what follows one
  have hmixed {cs rest rest' : List Char} {s : String} (hcs : ∀ c ∈ cs, isDelimiter c = false)
      (hrest : Follows .primary rest) (heq : cs ++ rest = (Quoted.quote s).toList ++ rest') :
      False := by
    rw [Quoted.toList_quote, List.cons_append] at heq
    cases cs with
    | nil =>
        have hquote := hrest '"' (by rw [← List.nil_append rest, heq]; rfl)
        simp [Binding.ends] at hquote
    | cons c cs =>
        obtain ⟨rfl, -⟩ := List.cons.inj heq
        have hquote := hcs '"' List.mem_cons_self
        cases hquote
  rcases h.quoted_or_undelimited with ⟨s, hs⟩ | hundelimited
  · rcases h'.quoted_or_undelimited with ⟨s', hs'⟩ | hundelimited'
    · rw [hs, hs'] at heq
      obtain ⟨rfl, hrests⟩ := Quoted.quote_append_inj heq
      exact ⟨h.text_inj h' (hs.trans hs'.symm), hrests⟩
    · rw [hs] at heq
      exact (hmixed hundelimited' hrest' heq.symm).elim
  · rcases h'.quoted_or_undelimited with ⟨s', hs'⟩ | hundelimited'
    · rw [hs'] at heq
      exact (hmixed hundelimited hrest heq).elim
    · obtain ⟨htexts, hrests⟩ := @append_inj_of_kind (fun c => !isDelimiter c) _ _ _ _
        (by simpa using hundelimited) (by simpa using hundelimited') (hends hrest) (hends hrest')
        heq
      exact ⟨h.text_inj h' (String.toList_inj.mp htexts), hrests⟩

/-- Pairs of brackets are told apart from what follows them. -/
theorem bracketRun_append_inj {n n' : Nat} {rest rest' : List Char}
    (hrest : Follows .operand rest) (hrest' : Follows .operand rest')
    (heq : bracketRun n ++ rest = bracketRun n' ++ rest') : n = n' ∧ rest = rest' := by
  have hmixed {n : Nat} {rest rest' : List Char} (hrest : Follows .operand rest)
      (heq : rest = bracketRun (n + 1) ++ rest') : False := by
    have hbracket := hrest '[' (by rw [heq]; rfl)
    contradiction
  induction n generalizing n' with
  | zero =>
      cases n' with
      | zero => exact ⟨rfl, heq⟩
      | succ n' => exact (hmixed hrest heq).elim
  | succ n ih =>
      cases n' with
      | zero => exact (hmixed hrest' heq.symm).elim
      | succ n' =>
          obtain ⟨rfl, hrests⟩ := ih (List.cons.inj (List.cons.inj heq).2).2
          exact ⟨rfl, hrests⟩

/-- Brackets, and what follows them, do not go on with what is in front of them. -/
theorem follows_bracketRun_append (n : Nat) {rest : List Char} (hrest : Follows .operand rest) :
    Follows .primary (bracketRun n ++ rest) := by
  intro c hc
  cases n with
  | zero =>
      have hends := hrest c hc
      simp only [Binding.ends, List.mem_cons, List.not_mem_nil, or_false] at hends ⊢
      rcases hends with rfl | rfl <;> simp
  | succ n =>
      cases hc
      decide

/-- What follows a union does not go on with its last operand. -/
theorem Follows.operand {rest : List Char} (h : Follows .union rest) : Follows .operand rest := by
  intro c hc
  exact List.mem_cons_of_mem ' ' (h c hc)

/-- **A text is told apart from what follows it, and is read in one way.** -/
theorem Reads.append_inj {binding : Binding} {cs cs' rest rest' : List Char}
    {members members' : List Member} (h : Reads binding cs members)
    (h' : Reads binding cs' members') (hrest : Follows binding rest)
    (hrest' : Follows binding rest') (heq : cs ++ rest = cs' ++ rest') :
    members = members' ∧ rest = rest' := by
  induction h generalizing cs' members' rest rest' with
  | @atom m hm =>
      cases h' with
      | @atom m' hm' =>
          obtain ⟨rfl, hrests⟩ := hm.append_inj hm' hrest hrest' heq
          exact ⟨rfl, hrests⟩
      | group h' => exact (hm.append_ne_group hrest _ heq).elim
  | group h ih =>
      cases h' with
      | atom hm' => exact (hm'.append_ne_group hrest' _ heq.symm).elim
      | group h' =>
          rw [List.cons_append, List.cons_append, List.append_assoc, List.append_assoc] at heq
          obtain ⟨hmembers, hrests⟩ := ih h' (follows_cons (by decide) rest)
            (follows_cons (by decide) rest') (List.cons.inj heq).2
          exact ⟨hmembers, (List.cons.inj hrests).2⟩
  | operand h n ih =>
      cases h' with
      | operand h' n' =>
          rw [List.append_assoc, List.append_assoc] at heq
          obtain ⟨rfl, hbrackets⟩ := ih h' (follows_bracketRun_append n hrest)
            (follows_bracketRun_append n' hrest') heq
          obtain ⟨rfl, hrests⟩ := bracketRun_append_inj hrest hrest' hbrackets
          exact ⟨rfl, hrests⟩
  | last h ih =>
      cases h' with
      | last h' => exact ih h' hrest.operand hrest'.operand heq
      | bar h' hmore' =>
          simp only [List.append_assoc] at heq
          obtain ⟨-, rfl⟩ := ih h' hrest.operand (follows_bar _) heq
          exact (not_follows_bar _ hrest).elim
  | bar h hmore ih ihmore =>
      cases h' with
      | last h' =>
          simp only [List.append_assoc] at heq
          obtain ⟨-, rfl⟩ := ih h' (follows_bar _) hrest'.operand heq
          exact (not_follows_bar _ hrest').elim
      | bar h' hmore' =>
          simp only [List.append_assoc] at heq
          obtain ⟨rfl, hbars⟩ := ih h' (follows_bar _) (follows_bar _) heq
          obtain ⟨rfl, hrests⟩ := ihmore hmore' hrest hrest' (List.append_cancel_left hbars)
          exact ⟨rfl, hrests⟩

/-- **A text is read in one way.** -/
theorem Reads.unique {cs : List Char} {members members' : List Member}
    (h : Reads .union cs members) (h' : Reads .union cs members') : members = members' :=
  (h.append_inj h' nofun nofun rfl : members = members' ∧ ([] : List Char) = []).1

end ShapeTypes
