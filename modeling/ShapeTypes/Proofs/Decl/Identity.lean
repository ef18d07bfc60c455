import ShapeTypes.Proofs.Decl.LastBearer

/-!
# Declarations that count as the same

Declarations count as the same if their names and type parameters make the same text when they are
joined by bars. A name or a type parameter may itself hold a bar, so declarations that are declared
differently can make one text.

* `Decl.pieces`, `Decl.bars`: the parts of a declaration's name and type parameters between bars,
  and where these bars stand. `Decl.identity?_eq_iff`: the pieces make the identity.
* `Decl.Alike`, `Decl.Confused`: declarations with the same name and type parameters, and
  declarations whose pieces are the same although their bars stand elsewhere.
* `Decl.unique_drops`: **a declaration is dropped for a later one that is declared alike, or that it
  is confused with**, which needs a bar in a name or type parameter and a type parameter.
* `Decl.unique_boxes`: declarations that are confused.
-/

namespace ShapeTypes

namespace Decl

/-! ## Identities -/

/-- The texts that make the identity of a declaration: its name and its type parameters. -/
def labels (decl : Decl) : List String := decl.name.text :: decl.parameters

/-- The parts of the name and the type parameters of a declaration between bars. -/
def pieces (decl : Decl) : List (List Char) :=
  (decl.labels.map String.toList).flatMap (List.splitOn '|')

/-- The numbers of bars in the name and in each of the type parameters of a declaration. -/
def bars (decl : Decl) : List Nat := (decl.labels.map String.toList).map (List.count '|')

/-- The declarations have the same name and the same type parameters. -/
def Alike (decl other : Decl) : Prop := decl.name = other.name ∧ decl.parameters = other.parameters

/-- The declarations consist of the same pieces, but bars within their names and type parameters
stand at different places. -/
def Confused (decl other : Decl) : Prop := decl.pieces = other.pieces ∧ decl.bars ≠ other.bars

variable {decl other : Decl} {decls : List Decl}

/-- The identity of a declaration that is named by a text. -/
theorem identity?_of_text (h : ∃ s, decl.name = .string s) :
    decl.identity? = .ok ("|".intercalate decl.labels) := by
  obtain ⟨s, hs⟩ := h
  rw [identity?, labels, hs, Value.text_string]

/-- Declarations that are named by texts are alike if their labels are the same. -/
theorem alike_iff_labels (h : ∃ s, decl.name = .string s) (h' : ∃ s, other.name = .string s) :
    Alike decl other ↔ decl.labels = other.labels := by
  obtain ⟨s, hs⟩ := h
  obtain ⟨s', hs'⟩ := h'
  simp [Alike, labels, hs, hs']

/-- **Declarations that are named by texts share their identity if they consist of the same
pieces.** -/
theorem identity?_eq_iff (h : ∃ s, decl.name = .string s) (h' : ∃ s, other.name = .string s) :
    decl.identity? = other.identity? ↔ decl.pieces = other.pieces := by
  rw [identity?_of_text h, identity?_of_text h', Except.ok.injEq, ← String.toList_inj,
    String.toList_intercalate, String.toList_intercalate]
  exact List.intercalate_eq_iff (by simp [labels]) (by simp [labels])

/-- Declarations that consist of the same pieces are alike or confused. -/
theorem alike_or_confused_iff (h : ∃ s, decl.name = .string s)
    (h' : ∃ s, other.name = .string s) :
    Alike decl other ∨ Confused decl other ↔ decl.pieces = other.pieces := by
  rw [alike_iff_labels h h']
  constructor
  · rintro (hlabels | hconfused)
    · rw [pieces, hlabels, pieces]
    · exact hconfused.1
  · intro hpieces
    refine or_iff_not_imp_right.mpr fun hconfused => ?_
    have hbars : decl.bars = other.bars := by_contra fun hbars => hconfused ⟨hpieces, hbars⟩
    have hlabels := List.eq_of_flatMap_splitOn hpieces hbars
    exact (List.map_inj_right fun _ _ => String.toList_inj.mp).mp hlabels

/-- Where declarations are confused, a bar stands in one of their names or type parameters. -/
theorem Confused.exists_bar (h : Confused decl other) :
    ∃ label ∈ decl.labels ++ other.labels, '|' ∈ label.toList := by
  by_contra hnone
  have hbarless : ∀ label ∈ decl.labels ++ other.labels, '|' ∉ label.toList :=
    fun label hlabel hbar => hnone ⟨label, hlabel, hbar⟩
  rw [List.forall_mem_append] at hbarless
  -- without bars the labels are the pieces
  have hpieces := h.1
  rw [pieces, pieces, List.flatMap_splitOn_of_not_mem (List.forall_mem_map.mpr hbarless.1),
    List.flatMap_splitOn_of_not_mem (List.forall_mem_map.mpr hbarless.2)] at hpieces
  exact h.2 (by rw [bars, bars, hpieces])

/-- Where declarations are confused, one of them has type parameters. -/
theorem Confused.exists_parameter (h : Confused decl other) :
    decl.parameters ≠ [] ∨ other.parameters ≠ [] := by
  by_contra hnone
  obtain ⟨hdecl, hother⟩ := not_or.mp hnone
  rw [not_not] at hdecl hother
  -- without type parameters the pieces are those of the names
  have hpieces := h.1
  simp only [pieces, labels, hdecl, hother, List.map_cons, List.map_nil, List.flatMap_cons,
    List.flatMap_nil, List.append_nil] at hpieces
  have hnames : decl.name.text.toList = other.name.text.toList := List.eq_of_splitOn_eq hpieces
  exact h.2 (by simp [bars, labels, hdecl, hother, hnames])

/-! ## What is dropped -/

/-- **Of declarations that are named by texts one is dropped exactly if a later one has the same
name and the same type parameters, or is confused with it.** Declarations without bars in their
names and type parameters are not confused, and neither are declarations without type parameters. -/
theorem unique_drops (h : ∀ decl ∈ decls, ∃ s, decl.name = .string s) :
    ∃ kept dropped, unique decls = .ok (kept, dropped) ∧
      ∃ positions : List (Fin decls.length), positions.Pairwise (· < ·) ∧
        kept = positions.map decls.get ∧
        (∀ i, i ∉ positions ↔ ∃ j, i < j ∧ (Alike (decls.get j) (decls.get i) ∨
          Confused (decls.get j) (decls.get i))) ∧
        ∀ i j, Confused (decls.get j) (decls.get i) →
          (∃ label ∈ (decls.get j).labels ++ (decls.get i).labels, '|' ∈ label.toList) ∧
          ((decls.get j).parameters ≠ [] ∨ (decls.get i).parameters ≠ []) := by
  obtain ⟨kept, dropped, hunique⟩ := exists_unique_of_text h
  obtain ⟨positions, hordered, hmem, hkept⟩ := (lastOnly_of_unique hunique).positions
  have hnamed (i : Fin decls.length) : ∃ s, (decls.get i).name = .string s :=
    h _ (List.get_mem decls i)
  refine ⟨kept, dropped, hunique, positions, hordered, hkept, fun i => ?_, fun i j hconfused =>
    ⟨hconfused.exists_bar, hconfused.exists_parameter⟩⟩
  rw [hmem, IsLast]
  push Not
  refine exists_congr fun j => and_congr_right fun _ => ?_
  rw [alike_or_confused_iff (hnamed j) (hnamed i), identity?_eq_iff (hnamed j) (hnamed i)]

/-- Declarations of crates and boxes; a name has a bar where a type parameter would follow. -/
def boxes : List Decl :=
  [record (.string "Crate") [], record (.string "Box|T") [], ⟨.string "Crate", [], .bare⟩,
    ⟨.string "Box", ["T"], .record []⟩]

/-- The first crate is dropped for the second one, and a box for another one that is confused with
it. -/
theorem unique_boxes : (∀ decl ∈ boxes, ∃ s, decl.name = .string s) ∧
    ∃ positions : List (Fin boxes.length), positions.Pairwise (· < ·) ∧
      boxes.drop 2 = positions.map boxes.get ∧
      ∀ i, i ∉ positions ↔ ∃ j, i < j ∧ (Alike (boxes.get j) (boxes.get i) ∨
        Confused (boxes.get j) (boxes.get i)) := by
  have hnames : ∀ decl ∈ boxes, ∃ s, decl.name = .string s := by
    simp [boxes, record]
  have hboxes : unique boxes = .ok (boxes.drop 2, ["Crate", "Box|T"]) := by rfl
  obtain ⟨kept, dropped, hunique, positions, hordered, hkept, hdropped, -⟩ := unique_drops hnames
  rw [hboxes] at hunique
  cases hunique
  exact ⟨hnames, positions, hordered, hkept, hdropped⟩

/-- A box is dropped although no later declaration has its name. -/
theorem not_alike_boxes : unique (boxes.drop 1) = .ok (boxes.drop 2, ["Box|T"]) ∧
    ∀ other ∈ boxes.drop 2, ¬ Alike other (record (.string "Box|T") []) := by
  refine ⟨rfl, ?_⟩
  simp [boxes, Alike, record]

end Decl

end ShapeTypes
