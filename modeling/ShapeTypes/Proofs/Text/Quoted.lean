import Mathlib.Tactic.SplitIfs
import ShapeTypes.Text.Quoted
import ShapeTypes.Value.Json

/-!
# Quoted texts can be read back

* `Json.readQuoted_body`: **the reader of JSON gives back every quoted text**, whatever follows it.
* `Text.Quoted.body_append_inj`: so the characters up to the closing quote determine the text, and
  with it what follows.
* `Text.Quoted.feed_not_mem_quote`: a quoted text stands on one line.
-/

namespace ShapeTypes

open Text

namespace Json

variable (standIns : StandIns)

/-! ## Escapes by code -/

/-- The four digits of a control character mean its code. -/
theorem fourHex?_hex : ∀ code < 0x20, fourHex? (hex 4 code) = some (code, []) := by
  decide

/-- What follows four digits is left. -/
theorem fourHex?_append {cs : List Char} {code : Nat} (h : fourHex? cs = some (code, []))
    (rest : List Char) : fourHex? (cs ++ rest) = some (code, rest) := by
  match cs, h with
  | [a, b, c, d], h =>
      simp only [fourHex?, List.cons_append, List.nil_append] at h ⊢
      cases ha : hexDigit? a <;> cases hb : hexDigit? b <;> cases hc : hexDigit? c <;>
        cases hd : hexDigit? d <;> simp_all
  | a :: b :: c :: d :: e :: more, h =>
      simp only [fourHex?] at h
      cases ha : hexDigit? a <;> cases hb : hexDigit? b <;> cases hc : hexDigit? c <;>
        cases hd : hexDigit? d <;> simp_all

/-- An escape by code is read back, if the text goes on. -/
theorem readCode_hex {c : Char} (h : c.toNat < 0x20) {rest : List Char} (hrest : rest ≠ []) :
    readCode standIns ('u' :: (hex 4 c.toNat ++ rest)) = .ok (c, rest) := by
  have hcode := fourHex?_append (fourHex?_hex c.toNat h) rest
  have hhigh : isHighSurrogate c.toNat = false := by
    simp [isHighSurrogate]
    omega
  have hchar : charOfCode standIns c.toNat = c := by
    rw [charOfCode, dif_neg (by omega), Char.ofNat_toNat]
  have hempty : rest.isEmpty = false := by simpa using hrest
  simp [readCode, hcode, hempty, hhigh, hchar]

/-! ## Quoted texts -/

/-- An escaped character is read back, if the text goes on. -/
theorem readQuoted_escape (start : List Char) (fuel : Nat) (c : Char) {rest : List Char}
    (hrest : rest ≠ []) : readQuoted standIns start (fuel + 1) (Quoted.escape c ++ rest) =
      (readQuoted standIns start fuel rest).map fun p => (c :: p.1, p.2) := by
  unfold Quoted.escape
  split_ifs with hquote hbackslash hfeed hreturn htab hback hform hcontrol
  · subst hquote
    rfl
  · subst hbackslash
    rfl
  · subst hfeed
    rfl
  · subst hreturn
    rfl
  · subst htab
    rfl
  · subst hback
    rfl
  · subst hform
    rfl
  · have hcode := readCode_hex standIns hcontrol hrest
    rw [List.cons_append, List.cons_append, readQuoted]
    simp [hcode, bind, Except.bind, Except.map, pure, Except.pure]
  · have hcontrol' : ¬ c.toNat ≤ 0x1f := by omega
    rw [List.singleton_append, readQuoted.eq_6]
    · rw [if_neg hcontrol']
      cases readQuoted standIns start fuel rest <;> rfl
    · exact hquote
    · exact fun h _ => hbackslash h
    · exact fun _ _ h _ => hbackslash h

/-- **The reader of JSON gives back every quoted text**, whatever follows it. -/
theorem readQuoted_body (start cs rest : List Char) {fuel : Nat} (h : cs.length < fuel) :
    readQuoted standIns start fuel (Quoted.body cs ++ '"' :: rest) = .ok (cs, rest) := by
  induction cs generalizing fuel with
  | nil =>
      cases fuel with
      | zero => exact absurd h (Nat.not_lt_zero 0)
      | succ fuel => rfl
  | cons c cs ih =>
      cases fuel with
      | zero => exact absurd h (Nat.not_lt_zero _)
      | succ fuel =>
          rw [Quoted.body_cons, List.append_assoc,
            readQuoted_escape standIns start fuel c (by simp), ih (Nat.lt_of_succ_lt_succ h)]
          rfl

end Json

namespace Text.Quoted

/-- The characters up to the closing quote determine the text, and what follows. -/
theorem body_append_inj {cs cs' rest rest' : List Char}
    (h : body cs ++ '"' :: rest = body cs' ++ '"' :: rest') : cs = cs' ∧ rest = rest' := by
  have hread := Json.readQuoted_body (.ofBlock 0) [] cs rest
    (Nat.lt_succ_of_le (Nat.le_max_left _ cs'.length))
  rw [h, Json.readQuoted_body (.ofBlock 0) [] cs' rest'
    (Nat.lt_succ_of_le (Nat.le_max_right cs.length _))] at hread
  simpa [eq_comm] using hread

/-- A quoted text and what follows it determine each other. -/
theorem quote_append_inj {s s' : String} {rest rest' : List Char}
    (h : (quote s).toList ++ rest = (quote s').toList ++ rest') : s = s' ∧ rest = rest' := by
  simp only [toList_quote, List.cons_append, List.append_assoc, List.nil_append,
    List.cons.injEq, true_and] at h
  obtain ⟨hchars, hrest⟩ := body_append_inj h
  exact ⟨String.toList_inj.mp hchars, hrest⟩

/-- The digits of a control character are no line feeds. -/
theorem feed_not_mem_hex : ∀ code < 0x20, '\n' ∉ hex 4 code := by
  decide

/-- No line feed stands in the written form of a character. -/
theorem feed_not_mem_escape (c : Char) : '\n' ∉ escape c := by
  unfold escape
  split_ifs with hquote hbackslash hfeed hreturn htab hback hform hcontrol
  · decide
  · decide
  · decide
  · decide
  · decide
  · decide
  · decide
  · have hhex := feed_not_mem_hex c.toNat hcontrol
    simp [hhex]
  · simpa using Ne.symm hfeed

/-- **A quoted text stands on one line.** -/
theorem feed_not_mem_quote (s : String) : '\n' ∉ (quote s).toList := by
  have hbody : '\n' ∉ body s.toList := by
    intro h
    obtain ⟨c, -, hc⟩ := List.mem_flatMap.mp h
    exact feed_not_mem_escape c hc
  simp [hbody]

end Text.Quoted

end ShapeTypes
