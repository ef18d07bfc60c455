import ShapeTypes.Name.Pascal
import ShapeTypes.Proofs.Name.Identifier

/-!
# Names in Pascal case, character by character

The words of a text are its longest runs of letters and digits, found from left to right. What
becomes of a character can all the same be told from the character before it.

* `Name.pascalChar?`: what becomes of a character, given the one before it.
* `Name.pascalChars`: what becomes of a text, each of its characters on its own.
* `Name.pascalChars_run`: a run of characters that are kept, up to where it ends.
* `Name.flatMap_words`: **the capitalised words are the characters that are kept one by one**. It is
  an induction along the words, with a run of small letters or of digits for each of them.
* `Name.pascalChars_again`, `Name.pascalCase_characters`: what is kept stays as it is when the text
  is put in Pascal case again.
* `Name.leading?`, `Name.isIdentifier_pascalCase_iff`: the first letter or digit of a text decides
  if its name in Pascal case is an identifier.
-/

namespace ShapeTypes.Name

/-! ## Characters -/

/-- A letter of the Latin alphabet. -/
def isLetter (c : Char) : Bool := isSmall c || isCapital c

/-- A letter of the Latin alphabet or a decimal digit. -/
def isAlphanumeric (c : Char) : Bool := isLetter c || isNumeric c

/-- What becomes of a character: letters and digits are kept, a small letter after no letter in
upper case. -/
def pascalChar? (before : Option Char) (c : Char) : Option Char :=
  if isAlphanumeric c then some (if isSmall c && !before.any isLetter then c.toUpper else c)
  else none

/-- The characters of a text, each with the one before it; `before` stands before the first one. -/
def withPredecessors (before : Option Char) (cs : List Char) : List (Option Char × Char) :=
  (before :: cs.map some).zip cs

/-- What becomes of the characters of a text, each on its own. -/
def pascalChars (before : Option Char) (cs : List Char) : List Char :=
  (withPredecessors before cs).filterMap fun p => pascalChar? p.1 p.2

variable {before before' : Option Char} {c d : Char}

@[simp] theorem pascalChars_nil : pascalChars before [] = [] := rfl

/-- What becomes of the first character stands in front. -/
theorem pascalChars_cons (before : Option Char) (c : Char) (rest : List Char) :
    pascalChars before (c :: rest) =
      (pascalChar? before c).toList ++ pascalChars (some c) rest := by
  show (((before, c) :: withPredecessors (some c) rest).filterMap fun p => pascalChar? p.1 p.2) = _
  rw [List.filterMap_cons]
  cases pascalChar? before c <;> rfl

/-! ## Letters and digits -/

/-- Letters and digits stand in ASCII. -/
theorem toNat_lt_of_isAlphanumeric (h : isAlphanumeric c = true) : c.toNat < 0x80 := by
  simp only [isAlphanumeric, isLetter, isSmall, isCapital, isNumeric, Bool.or_eq_true,
    Bool.and_eq_true, decide_eq_true_eq, Char.le_def, UInt32.le_iff_toNat_le] at h
  rcases h with (⟨-, h⟩ | ⟨-, h⟩) | ⟨-, h⟩ <;> exact Nat.lt_of_le_of_lt h (by decide)

/-- A digit is no letter. -/
theorem isLetter_of_isNumeric (h : isNumeric c = true) : isLetter c = false := by
  have hdigit : isAlphanumeric c = true := by simp [isAlphanumeric, h]
  exact Text.forall_ascii (p := fun c => isNumeric c = true → isLetter c = false)
    (by decide +kernel) (toNat_lt_of_isAlphanumeric hdigit) h

/-- A small letter in upper case is a letter, but no small one. -/
theorem toUpper_of_isSmall (h : isSmall c = true) :
    isSmall c.toUpper = false ∧ isLetter c.toUpper = true := by
  have hletter : isAlphanumeric c = true := by simp [isAlphanumeric, isLetter, h]
  exact Text.forall_ascii
    (p := fun c => isSmall c = true → isSmall c.toUpper = false ∧ isLetter c.toUpper = true)
    (by decide +kernel) (toNat_lt_of_isAlphanumeric hletter) h

/-- Nothing but small letters changes in upper case. -/
theorem toUpper_of_not_isSmall (h : isAlphanumeric c = true) (hsmall : isSmall c = false) :
    c.toUpper = c :=
  Text.forall_ascii (p := fun c => isSmall c = false → c.toUpper = c) (by decide +kernel)
    (toNat_lt_of_isAlphanumeric h) hsmall

/-- Letters and digits are characters of identifiers, and the letters among them start one. -/
theorem isIdentifierStart_of_isAlphanumeric (h : isAlphanumeric c = true) :
    isIdentifierStart c = isLetter c ∧ isIdentifierPart c = true :=
  Text.forall_ascii
    (p := fun c => isAlphanumeric c = true →
      isIdentifierStart c = isLetter c ∧ isIdentifierPart c = true)
    (by decide +kernel) (toNat_lt_of_isAlphanumeric h) h

/-- Where no letter stands before it, a letter or a digit becomes its upper case. -/
theorem toList_pascalChar?_none (h : isAlphanumeric c = true) :
    (pascalChar? none c).toList = Text.upperCase c := by
  rw [Text.upperCase_ascii (toNat_lt_of_isAlphanumeric h), pascalChar?, if_pos h]
  cases hsmall : isSmall c with
  | true => rfl
  | false =>
      rw [toUpper_of_not_isSmall h hsmall]
      rfl

/-- What is kept is a letter or a digit, a letter if it was one, and a small letter only after a
letter. -/
theorem of_pascalChar?_eq_some (h : pascalChar? before c = some d) :
    isAlphanumeric c = true ∧ isAlphanumeric d = true ∧ isLetter d = isLetter c ∧
      (isSmall d = true → before.any isLetter = true) := by
  unfold pascalChar? at h
  split at h
  · rename_i hc
    cases h
    split
    · rename_i hsmall
      rw [Bool.and_eq_true] at hsmall
      obtain ⟨hcapital, hletter⟩ := toUpper_of_isSmall hsmall.1
      have hupper : isAlphanumeric c.toUpper = true := by rw [isAlphanumeric, hletter, Bool.true_or]
      have hc' : isLetter c = true := by rw [isLetter, hsmall.1, Bool.true_or]
      refine ⟨hc, hupper, hletter.trans hc'.symm, fun hsmall' => ?_⟩
      rw [hcapital] at hsmall'
      contradiction
    · rename_i hkept
      refine ⟨hc, hc, rfl, fun hsmall => ?_⟩
      simpa [hsmall] using hkept
  · contradiction

/-! ## One character after the other -/

/-- A character that is no letter changes nothing for what follows it. -/
theorem pascalChars_after_other (h : isLetter c = false) (cs : List Char) :
    pascalChars (some c) cs = pascalChars none cs := by
  cases cs with
  | nil => rfl
  | cons d rest =>
      rw [pascalChars_cons, pascalChars_cons, pascalChar?, pascalChar?, Option.any_some, h,
        Option.any_none]

/-- A run of characters that are kept, up to where it ends: what follows it does not depend on
it. -/
theorem pascalChars_run (after : Char → Prop) (goesOn : Char → Bool)
    (hkept : ∀ c d, after c → goesOn d = true → pascalChar? (some c) d = some d ∧ after d)
    (hend : ∀ c d, after c → goesOn d = false → pascalChar? (some c) d = pascalChar? none d)
    (hc : after c) (cs : List Char) :
    pascalChars (some c) cs = cs.takeWhile goesOn ++ pascalChars none (cs.dropWhile goesOn) := by
  induction cs generalizing c with
  | nil => rfl
  | cons d rest ih =>
      cases hd : goesOn d with
      | true =>
          obtain ⟨hsame, hafter⟩ := hkept c d hc hd
          rw [List.takeWhile_cons_of_pos hd, List.dropWhile_cons_of_pos hd, pascalChars_cons, hsame,
            ih hafter]
          rfl
      | false =>
          rw [List.takeWhile_cons_of_neg (by simp [hd]), List.dropWhile_cons_of_neg (by simp [hd]),
            pascalChars_cons, hend c d hc hd, List.nil_append, pascalChars_cons]

/-- After a letter small letters are kept. -/
theorem pascalChars_after_letter (h : isLetter c = true) (cs : List Char) :
    pascalChars (some c) cs = cs.takeWhile isSmall ++ pascalChars none (cs.dropWhile isSmall) := by
  refine pascalChars_run (fun c => isLetter c = true) isSmall ?_ ?_ h cs
  · intro c d hc hd
    have hletter : isLetter d = true := by rw [isLetter, hd, Bool.true_or]
    simp [pascalChar?, isAlphanumeric, hletter, hc]
  · intro c d _ hd
    simp [pascalChar?, hd]

/-- After a digit digits are kept. -/
theorem pascalChars_after_digit (h : isLetter c = false) (cs : List Char) :
    pascalChars (some c) cs =
      cs.takeWhile isNumeric ++ pascalChars none (cs.dropWhile isNumeric) := by
  refine pascalChars_run (fun c => isLetter c = false) isNumeric ?_ ?_ h cs
  · intro c d _ hd
    have hletter := isLetter_of_isNumeric hd
    have hsmall : isSmall d = false := by simp_all [isLetter]
    simp [pascalChar?, isAlphanumeric, hd, hletter, hsmall]
  · intro c d hc _
    rw [pascalChar?, pascalChar?, Option.any_some, hc, Option.any_none]

/-- **The capitalised words of a text are its characters, each one on its own.** -/
theorem flatMap_words (cs : List Char) :
    (words cs).flatMap capitalizedChars = pascalChars none cs := by
  fun_induction words cs with
  | case1 => rfl
  | case2 c rest hletter ih =>
      have hc : isAlphanumeric c = true := by simp_all [isAlphanumeric, isLetter]
      rw [List.flatMap_cons, ih, capitalizedChars, pascalChars_cons, toList_pascalChar?_none hc,
        pascalChars_after_letter hletter, List.append_assoc]
  | case3 c rest hother hdigit ih =>
      have hc : isAlphanumeric c = true := by simp [isAlphanumeric, hdigit]
      have hletter := isLetter_of_isNumeric hdigit
      rw [List.flatMap_cons, ih, capitalizedChars, pascalChars_cons, toList_pascalChar?_none hc,
        pascalChars_after_digit hletter, List.append_assoc]
  | case4 c rest hother hdigit ih =>
      have hletter : isLetter c = false := by simpa [isLetter] using hother
      have hnone : pascalChar? none c = none := by simp [pascalChar?, isAlphanumeric, *]
      rw [ih, pascalChars_cons, hnone, pascalChars_after_other hletter]
      rfl

/-- The characters of a text in Pascal case. -/
theorem toList_pascalCase (text : String) :
    (pascalCase text).toList = pascalChars none text.toList := by
  rw [pascalCase, String.toList_ofList, flatMap_words]

/-! ## Twice -/

/-- What is kept of a text stays as it is, wherever it stands, as long as a letter stands before it
if one stood before the text. -/
theorem pascalChars_pascalChars (h : before.any isLetter = true → before'.any isLetter = true)
    (cs : List Char) : pascalChars before' (pascalChars before cs) = pascalChars before cs := by
  induction cs generalizing before before' with
  | nil => rfl
  | cons c rest ih =>
      rw [pascalChars_cons]
      cases hd : pascalChar? before c with
      | none =>
          refine ih fun hletter => ?_
          have hc : isAlphanumeric c = true := by simp_all [isAlphanumeric]
          simp [pascalChar?, hc] at hd
      | some d =>
          obtain ⟨-, hd, hletter, hsmall⟩ := of_pascalChar?_eq_some hd
          have hsame : pascalChar? before' d = some d := by
            rw [pascalChar?, if_pos hd]
            cases hsmall' : isSmall d <;> simp_all
          have hrest : pascalChars (some d) (pascalChars (some c) rest) =
              pascalChars (some c) rest := ih hletter.trans
          show pascalChars before' (d :: pascalChars (some c) rest) = _
          rw [pascalChars_cons, hsame, hrest]

/-- **A text in Pascal case is the text without whatever is no letter or digit, the small letters
after no letter in upper case**, and does not change when it is put in Pascal case again. -/
theorem pascalCase_characters (text : String) :
    pascalCase text = String.ofList (pascalChars none text.toList) ∧
      pascalCase (pascalCase text) = pascalCase text := by
  have hchars (text : String) : pascalCase text = String.ofList (pascalChars none text.toList) := by
    rw [← toList_pascalCase, String.ofList_toList]
  refine ⟨hchars text, ?_⟩
  rw [hchars (pascalCase text), toList_pascalCase, pascalChars_pascalChars id, hchars text]

/-- Separators, digits and foreign letters end the words of a text, and so do capital letters. -/
example : pascalCase "user_list-v2 éclairHTTP" = "UserListV2ClairHTTP" := by
  decide +kernel

/-! ## Identifiers -/

/-- The first letter or digit of a text. -/
def leading? (cs : List Char) : Option Char := cs.find? isAlphanumeric

/-- The first character that is kept is a letter if the first letter or digit of the text is one. -/
theorem map_head?_pascalChars (before : Option Char) (cs : List Char) :
    (pascalChars before cs).head?.map isLetter = (leading? cs).map isLetter := by
  induction cs generalizing before with
  | nil => rfl
  | cons c rest ih =>
      rw [pascalChars_cons, leading?]
      cases hd : pascalChar? before c with
      | none =>
          have hc : isAlphanumeric c = false := by
            simpa [pascalChar?] using hd
          rw [List.find?_cons_of_neg (by simp [hc])]
          exact ih (some c)
      | some d =>
          obtain ⟨hc, -, hletter, -⟩ := of_pascalChar?_eq_some hd
          rw [List.find?_cons_of_pos hc]
          simp [hletter]

/-- Letters and digits are all that is kept. -/
theorem isAlphanumeric_of_mem_pascalChars {cs : List Char} (h : d ∈ pascalChars before cs) :
    isAlphanumeric d = true := by
  obtain ⟨p, -, hp⟩ := List.mem_filterMap.mp h
  exact (of_pascalChar?_eq_some hp).2.1

/-- Nothing is left of a text without letters and digits. -/
theorem pascalCase_eq_empty_iff {text : String} :
    pascalCase text = "" ↔ leading? text.toList = none := by
  have hhead := map_head?_pascalChars none text.toList
  rw [← String.toList_eq_nil_iff, toList_pascalCase, ← List.head?_eq_none_iff]
  rw [← Option.map_eq_none_iff (f := isLetter), hhead, Option.map_eq_none_iff]

/-- **A text in Pascal case is an identifier if the first letter or digit of the text is a
letter.** -/
theorem isIdentifier_pascalCase_iff {text : String} :
    isIdentifier (pascalCase text) = true ↔
      ∃ c, leading? text.toList = some c ∧ isLetter c = true := by
  have hhead := map_head?_pascalChars none text.toList
  have hall : ∀ d ∈ pascalChars none text.toList, isAlphanumeric d = true := fun d hd =>
    isAlphanumeric_of_mem_pascalChars hd
  rw [isIdentifier, toList_pascalCase]
  cases hchars : pascalChars none text.toList with
  | nil =>
      rw [hchars] at hhead
      have hnone : leading? text.toList = none := Option.map_eq_none_iff.mp hhead.symm
      simp [isIdentifierChars, hnone]
  | cons d rest =>
      rw [hchars, List.forall_mem_cons] at hall
      rw [hchars] at hhead
      obtain ⟨c, hc, hletter⟩ := Option.map_eq_some_iff.mp hhead.symm
      have hrest : rest.all isIdentifierPart = true := List.all_eq_true.mpr fun e he =>
        (isIdentifierStart_of_isAlphanumeric (hall.2 e he)).2
      rw [isIdentifierChars, hrest, (isIdentifierStart_of_isAlphanumeric hall.1).1, hc, ← hletter]
      simp

end ShapeTypes.Name
