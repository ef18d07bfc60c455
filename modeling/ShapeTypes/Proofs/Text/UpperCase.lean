import ShapeTypes.Text.UpperCase

/-!
# The upper case of a character

* `Text.upperCase_cases`: the upper case of a character is a row of the table of expansions, or one
  character.
* `Text.upperCase_ne_nil`, `Text.upperCase_eq_self`: no character is lost, and none is kept with
  something behind it.
* `Text.forall_ascii`, `Text.upperCase_ascii`: characters of ASCII, whose upper case is one
  character.
-/

namespace ShapeTypes.Text

/-- The upper case of a character is what it expands to, or one character. -/
theorem upperCase_cases (c : Char) :
    (∃ entry ∈ upperExpansions, entry.1 = c.toNat ∧ upperCase c = entry.2.map Char.ofNat) ∨
      ∃ d, upperCase c = [d] := by
  unfold upperCase
  split
  · rename_i codes hlookup
    obtain ⟨before, after, hentries, -⟩ := List.lookup_eq_some_iff.mp hlookup
    exact Or.inl ⟨(c.toNat, codes), by simp [hentries], rfl, rfl⟩
  · split
    · exact Or.inr ⟨_, rfl⟩
    · exact Or.inr ⟨c, rfl⟩

/-- Every character has an upper case. -/
theorem upperCase_ne_nil (c : Char) : upperCase c ≠ [] := by
  have hexpansions : ∀ entry ∈ upperExpansions, entry.2 ≠ [] := by decide +kernel
  rcases upperCase_cases c with ⟨entry, hentry, -, hcase⟩ | ⟨d, hcase⟩
  · rw [hcase]
    exact mt List.map_eq_nil_iff.mp (hexpansions entry hentry)
  · rw [hcase]
    exact List.cons_ne_nil d []

/-- No character expands to itself and more. -/
theorem upperExpansions_head_ne : ∀ entry ∈ upperExpansions, ∀ code ∈ entry.2.head?,
    Char.ofNat code ≠ Char.ofNat entry.1 := by
  decide +kernel

/-- A character whose upper case starts with it is its own upper case. -/
theorem upperCase_eq_self {c : Char} (h : (upperCase c).head? = some c) : upperCase c = [c] := by
  rcases upperCase_cases c with ⟨entry, hentry, hcode, hcase⟩ | ⟨d, hcase⟩
  · rw [hcase, List.head?_map, Option.map_eq_some_iff] at h
    obtain ⟨code, hfirst, hchar⟩ := h
    refine absurd ?_ (upperExpansions_head_ne entry hentry code hfirst)
    rw [hchar, hcode, Char.ofNat_toNat]
  · rw [hcase, List.head?_cons] at h
    rw [hcase, Option.some.inj h]

/-! ## ASCII -/

/-- What holds of every code of ASCII holds of the characters with these codes. -/
theorem forall_ascii {p : Char → Prop} (h : ∀ code < 0x80, p (Char.ofNat code)) {c : Char}
    (hc : c.toNat < 0x80) : p c := by
  have hp := h c.toNat hc
  rwa [Char.ofNat_toNat] at hp

/-- The tables list characters beyond ASCII, apart from the small letters. -/
theorem upperCase_tables_beyond_ascii : (∀ entry ∈ upperExpansions, 0x80 ≤ entry.1) ∧
    ∀ run ∈ upperRuns.tail, 0x80 ≤ run.first := by
  decide +kernel

/-- In ASCII the upper case of a character is one character. -/
theorem upperCase_ascii {c : Char} (h : c.toNat < 0x80) : upperCase c = [c.toUpper] := by
  obtain ⟨hexpansions, hruns⟩ := upperCase_tables_beyond_ascii
  have hexpansion : upperExpansions.lookup c.toNat = none := by
    refine List.lookup_eq_none_iff.mpr fun entry hentry => ?_
    have hbeyond := hexpansions entry hentry
    exact bne_iff_ne.mpr (by omega)
  have hrun : upperRuns.tail.findSome? (UpperRun.image? · c.toNat) = none := by
    refine List.findSome?_eq_none_iff.mpr fun run hrun => ?_
    have hbeyond := hruns run hrun
    exact if_neg (by omega)
  have htable : upperRuns = ⟨0x61, 0x7a, 1, 0x41⟩ :: upperRuns.tail := rfl
  have hletters : Char.ofNat ((UpperRun.image? ⟨0x61, 0x7a, 1, 0x41⟩ c.toNat).getD c.toNat) =
      c.toUpper :=
    forall_ascii (p := fun c => Char.ofNat ((UpperRun.image? ⟨0x61, 0x7a, 1, 0x41⟩
      c.toNat).getD c.toNat) = c.toUpper) (by decide +kernel) h
  rw [← hletters, upperCase, hexpansion, htable, List.findSome?_cons, hrun]
  cases UpperRun.image? ⟨0x61, 0x7a, 1, 0x41⟩ c.toNat with
  | none => rw [Option.getD_none, Char.ofNat_toNat]
  | some image => rfl

end ShapeTypes.Text
