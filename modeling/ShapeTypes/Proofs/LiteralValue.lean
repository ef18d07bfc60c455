import ShapeTypes.Proofs.LiteralText
import ShapeTypes.Proofs.Number.RoundTrip

/-!
# Literals are told apart by their texts

* `Value.IsLiteral`: the values that stand as literals, doubles in their normal form.
* `Value.isLiteral_of_readNumeral`: every finite number that is read is one of them.
* `Value.source_inj`: **literals that are written alike are the same literal**: quoted texts and
  numbers are read back from what is written.
-/

namespace ShapeTypes

open Text

namespace Value

/-- The value stands as a literal. -/
def IsLiteral : Value → Prop
  | string _ => True
  | int _ => True
  | double x => x.IsProper
  | _ => False

variable {v w : Value}

/-- A literal is a text, an integer or a finite double. -/
theorem IsLiteral.cases (h : v.IsLiteral) :
    (∃ s, v = string s) ∨ (∃ n, v = int n) ∨ ∃ x, v = double x ∧ x.IsProper := by
  cases v with
  | string s => exact Or.inl ⟨s, rfl⟩
  | int n => exact Or.inr (Or.inl ⟨n, rfl⟩)
  | double x => exact Or.inr (Or.inr ⟨x, rfl, h⟩)
  | null => exact h.elim
  | bool b => exact h.elim
  | list items => exact h.elim
  | object entries => exact h.elim

/-- A literal is written as a text between quotes or as a numeral. -/
theorem IsLiteral.isLiteralText (h : v.IsLiteral) : IsLiteralText v.source.toList := by
  rcases h.cases with ⟨s, rfl⟩ | ⟨n, rfl⟩ | ⟨x, rfl, hx⟩
  · exact isLiteralText_source (rfl : (string s).literalKind? = some .text)
  · exact isLiteralText_source (rfl : (int n).literalKind? = some .number)
  · exact isLiteralText_source (if_pos hx.isFinite)

/-- Every finite number that is read stands as a literal. -/
theorem isLiteral_of_readNumeral {cs rest : List Char} {kind : LiteralKind}
    (h : Json.readNumeral cs = .ok (v, rest)) (hkind : v.literalKind? = some kind) :
    v.IsLiteral := by
  rcases literal_cases hkind with ⟨s, rfl⟩ | ⟨n, rfl⟩ | ⟨x, rfl, hx⟩
  · trivial
  · trivial
  · unfold Json.readNumeral at h
    dsimp only at h
    split at h
    · cases h
    · split at h
      · cases h
        exact Double.isProper_ofDecimal hx
      · split at h
        · cases h
        · cases h

/-- A quote starts no number. -/
theorem quote_ne_of_head {cs : List Char} (h : ∀ c ∈ cs.head?, isNumeralStart c = true)
    (s : String) : (Quoted.quote s).toList ≠ cs := by
  rintro rfl
  have hquote := h '"' (by rw [Quoted.toList_quote]; rfl)
  cases hquote

/-- **Literals that are written alike are the same literal.** -/
theorem source_inj (hv : v.IsLiteral) (hw : w.IsLiteral) (h : v.source = w.source) : v = w := by
  have hquoteInteger (s : String) (n : Int) (heq : Quoted.quote s = integerText n) : False :=
    quote_ne_of_head (fun _ => isNumeralStart_of_head_integerText) s (congrArg String.toList heq)
  have hquoteDouble (s : String) {x : Double} (hx : x.IsProper)
      (heq : Quoted.quote s = x.numeral .source) : False :=
    quote_ne_of_head (fun _ => Double.isNumeralStart_of_head_numeral hx.isFinite) s
      (congrArg String.toList heq)
  rcases hv.cases with ⟨s, rfl⟩ | ⟨n, rfl⟩ | ⟨x, rfl, hx⟩
  · rcases hw.cases with ⟨s', rfl⟩ | ⟨n', rfl⟩ | ⟨y, rfl, hy⟩
    · rw [source_string, source_string] at h
      have htext : (Quoted.quote s).toList ++ [] = (Quoted.quote s').toList ++ [] := by rw [h]
      rw [(Quoted.quote_append_inj htext).1]
    · rw [source_string, source] at h
      exact (hquoteInteger s n' h).elim
    · rw [source_string, source] at h
      exact (hquoteDouble s hy h).elim
  · rcases hw.cases with ⟨s', rfl⟩ | ⟨n', rfl⟩ | ⟨y, rfl, hy⟩
    · rw [source_string, source] at h
      exact (hquoteInteger s' n h.symm).elim
    · rw [source, source] at h
      rw [integerText_inj h]
    · rw [source, source] at h
      exact (integerText_ne_numeral hy n .source h).elim
  · rcases hw.cases with ⟨s', rfl⟩ | ⟨n', rfl⟩ | ⟨y, rfl, hy⟩
    · rw [source_string, source] at h
      exact (hquoteDouble s' hx h.symm).elim
    · rw [source, source] at h
      exact (integerText_ne_numeral hx n' .source h.symm).elim
    · rw [source, source] at h
      rw [Double.numeral_inj hx hy h]

end Value

end ShapeTypes
