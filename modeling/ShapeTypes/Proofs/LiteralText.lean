import ShapeTypes.Decl.Source
import ShapeTypes.Proofs.Number.Numeral
import ShapeTypes.Proofs.Text.Quoted
import ShapeTypes.Proofs.Text.UpperCase
import ShapeTypes.Proofs.WellFormed

/-!
# The texts of names and of literals

The words of which the texts of types are made, and how they are told apart.

* `IsTypeName`: the identifiers that are not the name of a built-in type.
* `IsLiteralText`: the texts of literals; `isLiteralText_source`: every literal has such a text.
* `literal_append_inj`: the end of a literal is found in what goes on with a blank.
* `literals_inj`: **literals between bars can be told apart**, whatever bars, quotes or brackets
  stand in them.
-/

namespace ShapeTypes

open Text

/-! ## Names -/

/-- The words that stand for built-in types. -/
def builtInWords : List String := "null" :: primitiveKeywords

/-- The name is an identifier and not the word for a built-in type. -/
def IsTypeName (s : String) : Prop := isIdentifier s = true ∧ s ∉ builtInWords

instance (s : String) : Decidable (IsTypeName s) :=
  inferInstanceAs (Decidable (isIdentifier s = true ∧ s ∉ builtInWords))

/-- An identifier starts with a letter or a mark of that kind. -/
theorem exists_start_of_isIdentifier {s : String} (h : isIdentifier s = true) :
    ∃ c cs, s.toList = c :: cs ∧ isIdentifierStart c = true ∧
      ∀ d ∈ s.toList, isIdentifierPart d = true := by
  unfold isIdentifier at h
  cases hs : s.toList with
  | nil =>
      rw [hs] at h
      cases h
  | cons c cs =>
      rw [hs] at h
      obtain ⟨hstart, hrest⟩ := Bool.and_eq_true_iff.mp h
      refine ⟨c, cs, rfl, hstart, List.forall_mem_cons.mpr ⟨?_, List.all_eq_true.mp hrest⟩⟩
      rw [isIdentifierPart, hstart, Bool.true_or]

/-- What is no part of identifiers does not stand in one. -/
theorem not_mem_of_isIdentifier {s : String} (h : isIdentifier s = true) {c : Char}
    (hc : isIdentifierPart c = false) : c ∉ s.toList := by
  intro hmem
  obtain ⟨-, -, -, -, hparts⟩ := exists_start_of_isIdentifier h
  rw [hparts c hmem] at hc
  cases hc

/-- The keywords of the primitive types are identifiers. -/
theorem isIdentifier_of_mem_primitiveKeywords :
    ∀ word ∈ primitiveKeywords, isIdentifier word = true := by
  decide

/-- A digit starts no identifier. -/
theorem not_isIdentifierStart_of_isDigit {c : Char} (h : c.isDigit = true) :
    isIdentifierStart c = false := by
  have hcode : c.toNat < 0x80 := by
    simp only [Char.isDigit, Bool.and_eq_true, decide_eq_true_eq, UInt32.le_iff_toNat_le] at h
    exact Nat.lt_of_le_of_lt h.2 (by decide)
  exact Text.forall_ascii (p := fun c => c.isDigit = true → isIdentifierStart c = false)
    (by decide +kernel) hcode h

/-- A digit or a sign starts no identifier. -/
theorem not_isIdentifierStart_of_isNumeralStart {c : Char} (h : isNumeralStart c = true) :
    isIdentifierStart c = false := by
  rcases Bool.or_eq_true_iff.mp h with hdigit | hminus
  · exact not_isIdentifierStart_of_isDigit hdigit
  · rw [beq_iff_eq.mp hminus]
    rfl

/-! ## Literals -/

/-- The text of a literal: a quoted text, or a numeral. -/
def IsLiteralText (cs : List Char) : Prop :=
  (∃ s, cs = (Quoted.quote s).toList) ∨
    (∀ c ∈ cs, isNumeralChar c = true) ∧ ∀ c ∈ cs.head?, isNumeralStart c = true

/-- Literals are written as such texts. -/
theorem isLiteralText_source {v : Value} {kind : LiteralKind} (h : v.literalKind? = some kind) :
    IsLiteralText v.source.toList := by
  rcases Value.literal_cases h with ⟨s, rfl⟩ | ⟨n, rfl⟩ | ⟨x, rfl, hx⟩
  · exact Or.inl ⟨s, by rw [Value.source_string]⟩
  · rw [Value.source]
    exact Or.inr ⟨fun c hc => isNumeralChar_of_mem_integerText hc,
      fun c hc => isNumeralStart_of_head_integerText hc⟩
  · rw [Value.source]
    exact Or.inr ⟨fun c hc => Double.isNumeralChar_of_mem_numeral hx hc,
      fun c hc => Double.isNumeralStart_of_head_numeral hx hc⟩

/-- What follows a literal does not go on with it: it is empty or starts with a blank. -/
def EndsLiteral (rest : List Char) : Prop := ∀ c ∈ rest.head?, c = ' '

/-- Characters of a kind are told apart from what follows them by the first one of another kind. -/
theorem append_inj_of_kind {kind : Char → Bool} {cs cs' rest rest' : List Char}
    (hcs : ∀ c ∈ cs, kind c = true) (hcs' : ∀ c ∈ cs', kind c = true)
    (hrest : ∀ c ∈ rest.head?, kind c = false) (hrest' : ∀ c ∈ rest'.head?, kind c = false)
    (h : cs ++ rest = cs' ++ rest') : cs = cs' ∧ rest = rest' := by
  induction cs generalizing cs' with
  | nil =>
      cases cs' with
      | nil => exact ⟨rfl, h⟩
      | cons c' cs' =>
          have hkind := hrest c' (by rw [← List.nil_append rest, h]; rfl)
          rw [hcs' c' List.mem_cons_self] at hkind
          cases hkind
  | cons c cs ih =>
      cases cs' with
      | nil =>
          have hkind := hrest' c (by rw [← List.nil_append rest', ← h]; rfl)
          rw [hcs c List.mem_cons_self] at hkind
          cases hkind
      | cons c' cs' =>
          obtain ⟨rfl, htail⟩ := List.cons.inj h
          obtain ⟨rfl, hr⟩ := ih (fun d hd => hcs d (List.mem_cons_of_mem c hd))
            (fun d hd => hcs' d (List.mem_cons_of_mem c hd)) htail
          exact ⟨rfl, hr⟩

/-- The texts of two literals are told apart from what follows them. -/
theorem literal_append_inj {cs cs' rest rest' : List Char} (hcs : IsLiteralText cs)
    (hcs' : IsLiteralText cs') (hrest : EndsLiteral rest) (hrest' : EndsLiteral rest')
    (h : cs ++ rest = cs' ++ rest') : cs = cs' ∧ rest = rest' := by
  -- a quote starts neither a numeral nor what follows one
  have hmixed {s : String} {cs rest rest' : List Char} (hcs : ∀ c ∈ cs, isNumeralChar c = true)
      (hrest : EndsLiteral rest) (h : cs ++ rest = (Quoted.quote s).toList ++ rest') : False := by
    rw [Quoted.toList_quote, List.cons_append] at h
    cases cs with
    | nil =>
        rw [List.nil_append] at h
        have hblank := hrest '"' (by rw [h]; rfl)
        cases hblank
    | cons c cs =>
        obtain ⟨rfl, -⟩ := List.cons.inj h
        have hquote := hcs '"' List.mem_cons_self
        cases hquote
  have hblank {rest : List Char} (hrest : EndsLiteral rest) :
      ∀ c ∈ rest.head?, isNumeralChar c = false := by
    intro c hc
    rw [hrest c hc]
    rfl
  rcases hcs with ⟨s, rfl⟩ | ⟨hnumeral, -⟩
  · rcases hcs' with ⟨s', rfl⟩ | ⟨hnumeral', -⟩
    · obtain ⟨rfl, hr⟩ := Quoted.quote_append_inj h
      exact ⟨rfl, hr⟩
    · exact (hmixed hnumeral' hrest' h.symm).elim
  · rcases hcs' with ⟨s', rfl⟩ | ⟨hnumeral', -⟩
    · exact (hmixed hnumeral hrest h).elim
    · exact append_inj_of_kind hnumeral hnumeral' (hblank hrest) (hblank hrest') h

/-- What stands between the members of a union. -/
def bar : List Char := [' ', '|', ' ']

/-- Texts between bars, from the bar before the first one on. -/
def barred (texts : List (List Char)) : List Char := texts.flatMap (bar ++ ·)

@[simp] theorem barred_cons (cs : List Char) (rest : List (List Char)) :
    barred (cs :: rest) = bar ++ (cs ++ barred rest) := by
  rw [barred, List.flatMap_cons, List.append_assoc]
  rfl

/-- The texts of two lists with their bars. -/
theorem barred_append (texts texts' : List (List Char)) :
    barred (texts ++ texts') = barred texts ++ barred texts' :=
  List.flatMap_append

/-- Joined texts are the first one and the others with their bars. -/
theorem intercalate_bar (cs : List Char) (rest : List (List Char)) :
    bar.intercalate (cs :: rest) = cs ++ barred rest := by
  induction rest generalizing cs with
  | nil => rw [List.intercalate_singleton, barred, List.flatMap_nil, List.append_nil]
  | cons d rest ih =>
      rw [List.intercalate_cons_cons, ih, barred_cons, List.append_assoc]

/-- Texts with their bars start with a blank, if there are any. -/
theorem endsLiteral_barred (texts : List (List Char)) : EndsLiteral (barred texts) := by
  intro c hc
  cases texts with
  | nil => cases hc
  | cons d rest =>
      cases hc
      rfl

/-- Literals with their bars can be told apart. -/
theorem barred_inj {texts texts' : List (List Char)} (htexts : ∀ cs ∈ texts, IsLiteralText cs)
    (htexts' : ∀ cs ∈ texts', IsLiteralText cs) (h : barred texts = barred texts') :
    texts = texts' := by
  induction texts generalizing texts' with
  | nil =>
      cases texts' with
      | nil => rfl
      | cons d rest => cases h
  | cons cs rest ih =>
      cases texts' with
      | nil => cases h
      | cons cs' rest' =>
          obtain ⟨hcs, hrest⟩ := List.forall_mem_cons.mp htexts
          obtain ⟨hcs', hrest'⟩ := List.forall_mem_cons.mp htexts'
          rw [barred_cons, barred_cons] at h
          have htail := List.append_cancel_left h
          obtain ⟨rfl, htails⟩ := literal_append_inj hcs hcs' (endsLiteral_barred rest)
            (endsLiteral_barred rest') htail
          rw [ih hrest hrest' htails]

/-- Literals between bars can be told apart. -/
theorem literals_inj {texts texts' : List (List Char)} (htexts : ∀ cs ∈ texts, IsLiteralText cs)
    (htexts' : ∀ cs ∈ texts', IsLiteralText cs) (hne : texts ≠ []) (hne' : texts' ≠ [])
    (h : bar.intercalate texts = bar.intercalate texts') : texts = texts' := by
  obtain ⟨cs, rest, rfl⟩ := List.exists_cons_of_ne_nil hne
  obtain ⟨cs', rest', rfl⟩ := List.exists_cons_of_ne_nil hne'
  refine barred_inj htexts htexts' ?_
  rw [intercalate_bar, intercalate_bar] at h
  rw [barred_cons, barred_cons, h]

/-- The characters that a literal may end with, and the blank. -/
def isLiteralEnd (c : Char) : Bool := c == ' ' || c == '"' || isNumeralChar c

/-- What a literal ends with. -/
theorem IsLiteralText.isLiteralEnd {cs : List Char} (h : IsLiteralText cs) :
    ∀ c ∈ cs.getLast?, isLiteralEnd c = true := by
  intro c hc
  rcases h with ⟨s, rfl⟩ | ⟨hnumeral, -⟩
  · rw [Quoted.toList_quote, ← List.cons_append, List.getLast?_concat] at hc
    cases hc
    rfl
  · rw [ShapeTypes.isLiteralEnd, hnumeral c (List.mem_of_mem_getLast? hc), Bool.or_true]

/-- What joined literals end with. -/
theorem isLiteralEnd_of_literals {texts : List (List Char)}
    (htexts : ∀ cs ∈ texts, IsLiteralText cs) :
    ∀ c ∈ (bar.intercalate texts).getLast?, isLiteralEnd c = true := by
  have hbarred (rest : List (List Char)) (hrest : ∀ cs ∈ rest, IsLiteralText cs)
      (cs : List Char) (hcs : ∀ c ∈ cs.getLast?, isLiteralEnd c = true) :
      ∀ c ∈ (cs ++ barred rest).getLast?, isLiteralEnd c = true := by
    induction rest generalizing cs with
    | nil => simpa [barred] using hcs
    | cons d rest ih =>
        obtain ⟨hd, hrest⟩ := List.forall_mem_cons.mp hrest
        rw [barred_cons, ← List.append_assoc, ← List.append_assoc]
        refine ih hrest _ fun c hc => ?_
        rw [List.getLast?_append] at hc
        cases hlast : d.getLast? with
        | some last =>
            rw [hlast] at hc
            exact hd.isLiteralEnd c (hlast ▸ hc)
        | none =>
            rw [hlast, List.getLast?_append] at hc
            cases hc
            rfl
  cases texts with
  | nil => simp
  | cons cs rest =>
      obtain ⟨hcs, hrest⟩ := List.forall_mem_cons.mp htexts
      rw [intercalate_bar]
      exact hbarred rest hrest cs hcs.isLiteralEnd

/-- Joined literals do not start like a word. -/
theorem not_isIdentifierStart_of_literals {texts : List (List Char)}
    (htexts : ∀ cs ∈ texts, IsLiteralText cs) :
    ∀ c ∈ (bar.intercalate texts).head?, isIdentifierStart c = false := by
  intro c hc
  cases texts with
  | nil => simp at hc
  | cons cs rest =>
      rw [intercalate_bar, List.head?_append] at hc
      cases hhead : cs.head? with
      | some first =>
          rw [hhead] at hc
          cases hc
          rcases htexts cs List.mem_cons_self with ⟨s, rfl⟩ | ⟨-, hstart⟩
          · rw [Quoted.toList_quote] at hhead
            cases hhead
            rfl
          · exact not_isIdentifierStart_of_isNumeralStart (hstart _ hhead)
      | none =>
          rw [hhead, Option.none_or] at hc
          rw [endsLiteral_barred rest c hc]
          rfl

/-- No line feed stands in joined literals. -/
theorem feed_not_mem_literals {texts : List (List Char)}
    (htexts : ∀ cs ∈ texts, IsLiteralText cs) : '\n' ∉ bar.intercalate texts := by
  have hliteral : ∀ cs ∈ texts, '\n' ∉ cs := by
    intro cs hcs hfeed
    rcases htexts cs hcs with ⟨s, rfl⟩ | ⟨hnumeral, -⟩
    · exact Quoted.feed_not_mem_quote s hfeed
    · cases hnumeral _ hfeed
  cases texts with
  | nil => simp
  | cons cs rest =>
      obtain ⟨hcs, hrest⟩ := List.forall_mem_cons.mp hliteral
      rw [intercalate_bar, List.mem_append, not_or]
      refine ⟨hcs, fun hfeed => ?_⟩
      obtain ⟨d, hd, hmem⟩ := List.mem_flatMap.mp hfeed
      rcases List.mem_append.mp hmem with hbar | htext
      · revert hbar
        decide
      · exact hrest d hd htext

end ShapeTypes
