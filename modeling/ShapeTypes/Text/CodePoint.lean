/-!
# Code points

The escapes of a JSON document can name one half of a surrogate pair without the other one. Such a
surrogate is a code point of a text and no character, and no bytes of UTF-8 stand for it.

* `Surrogate`, `CodePoint`: the code points that are no characters, and all code points.
* `points`, `encode?`: the code points of a string, and the bytes of a text if it has any.
* `StandIns`: characters that stand for the surrogates in strings. They are set aside for private
  use, and like surrogates have no case, belong to no word and to no syntax and are not printable,
  so what is computed from a string treats both alike; only a message that writes one by its number
  writes that of the character. Whoever reads a document chooses characters that do not occur in it.
-/

namespace ShapeTypes.Text

/-- One half of a pair that together means a character. -/
structure Surrogate where
  /-- The number of the code point. -/
  code : Nat
  /-- The range of the surrogates. -/
  inRange : 0xd800 ≤ code ∧ code < 0xe000
deriving DecidableEq

/-- A code point. -/
inductive CodePoint where
  /-- A character. -/
  | char (c : Char)
  /-- A surrogate without its partner. -/
  | surrogate (s : Surrogate)
deriving DecidableEq

/-- The code points of a string, all of which are characters. -/
def points (s : String) : List CodePoint := s.toList.map .char

/-- The characters of a text, if it has no surrogates. -/
def characters? : List CodePoint → Option (List Char)
  | [] => some []
  | .char c :: rest => (characters? rest).map (c :: ·)
  | .surrogate _ :: _ => none

/-- The bytes of a text in UTF-8, if it has no surrogates. -/
def encode? (text : List CodePoint) : Option ByteArray :=
  (characters? text).map fun cs => (String.ofList cs).toUTF8

/-- The text with the replacement character in the place of every surrogate. -/
def marked (text : List CodePoint) : String :=
  String.ofList (text.map fun
    | .char c => c
    | .surrogate _ => '\uFFFD')

/-- A character with its own characters it has. -/
@[simp] theorem characters?_map_char (cs : List Char) :
    characters? (cs.map .char) = some cs := by
  induction cs with
  | nil => rfl
  | cons c cs ih => simp [characters?, ih]

/-- A text has bytes if and only if all of it are characters. -/
theorem characters?_eq_some {text : List CodePoint} {cs : List Char} :
    characters? text = some cs ↔ text = cs.map .char := by
  constructor
  · intro h
    fun_induction characters? text generalizing cs with
    | case1 => cases h; rfl
    | case2 c rest ih =>
        obtain ⟨tail, htail, rfl⟩ := Option.map_eq_some_iff.mp h
        rw [ih htail, List.map_cons]
    | case3 => cases h
  · rintro rfl
    exact characters?_map_char cs

/-- A string has bytes. -/
@[simp] theorem encode?_points (s : String) : encode? (points s) = some s.toUTF8 := by
  simp [encode?, points]

/-- The bytes of a text are those of the string that it is. -/
theorem encode?_eq_some {text : List CodePoint} {bytes : ByteArray} :
    encode? text = some bytes ↔ ∃ s, text = points s ∧ s.toUTF8 = bytes := by
  constructor
  · intro h
    obtain ⟨cs, hcs, rfl⟩ := Option.map_eq_some_iff.mp h
    exact ⟨String.ofList cs, by rw [points, String.toList_ofList, characters?_eq_some.mp hcs], rfl⟩
  · rintro ⟨s, rfl, rfl⟩
    exact encode?_points s

@[simp] theorem marked_points (s : String) : marked (points s) = s := by
  simp [marked, points, Function.comp_def]

/-! ## Characters in the place of surrogates -/

/-- The character is set aside for private use, in the planes above the assigned characters. -/
def isPrivate (c : Char) : Bool := 0xf0000 ≤ c.toNat && c.toNat < 0xffffe

/-- Characters for private use in the place of the surrogates, which strings do not hold. -/
structure StandIns where
  /-- The character that stands for a surrogate. -/
  char : Surrogate → Char
  /-- The surrogate that a character stands for. -/
  surrogate? : Char → Option Surrogate
  /-- A character that stands for a surrogate does not stand for another one. -/
  surrogate?_char : ∀ s, surrogate? (char s) = some s
  /-- No other character stands for it. -/
  char_of_surrogate? : ∀ c s, surrogate? c = some s → char s = c
  /-- The characters are set aside for private use. -/
  isPrivate_char : ∀ s, isPrivate (char s) = true

namespace StandIns

variable (standIns : StandIns)

/-- The code point that a character of a string stands for. -/
def point (c : Char) : CodePoint :=
  match standIns.surrogate? c with
  | some s => .surrogate s
  | none => .char c

/-- The text that a string stands for. -/
def points (s : String) : List CodePoint := s.toList.map standIns.point

/-- A character of the string stands for a surrogate. -/
def OccursIn (s : String) : Prop := ∃ c ∈ s.toList, (standIns.surrogate? c).isSome = true

instance (s : String) : Decidable (standIns.OccursIn s) :=
  inferInstanceAs (Decidable (∃ c ∈ s.toList, _))

variable {standIns}

/-- A string in which no character stands for a surrogate is the text that it stands for. -/
theorem points_of_not_occursIn {s : String} (h : ¬ standIns.OccursIn s) :
    standIns.points s = Text.points s := by
  refine List.map_congr_left fun c hc => ?_
  have hplain : standIns.surrogate? c = none := by
    rw [← Option.not_isSome_iff_eq_none]
    exact fun hsome => h ⟨c, hc, hsome⟩
  rw [point, hplain]

/-- Only characters for private use stand for surrogates. -/
theorem not_occursIn {s : String} (h : s.toList.any isPrivate = false) :
    ¬ standIns.OccursIn s := by
  rintro ⟨c, hc, hsome⟩
  obtain ⟨surrogate, hsurrogate⟩ := Option.isSome_iff_exists.mp hsome
  have hprivate := standIns.isPrivate_char surrogate
  rw [standIns.char_of_surrogate? c surrogate hsurrogate] at hprivate
  exact List.any_eq_false.mp h c hc hprivate

/-- A string has bytes as long as no character stands for a surrogate. -/
theorem encode?_points_eq_none_iff {s : String} :
    encode? (standIns.points s) = none ↔ standIns.OccursIn s := by
  constructor
  · intro h
    refine Decidable.byContradiction fun hplain => ?_
    rw [points_of_not_occursIn hplain, encode?_points] at h
    cases h
  · rintro ⟨c, hc, hsome⟩
    obtain ⟨surrogate, hsurrogate⟩ := Option.isSome_iff_exists.mp hsome
    rw [Option.eq_none_iff_forall_ne_some]
    intro bytes hbytes
    obtain ⟨t, ht, -⟩ := encode?_eq_some.mp hbytes
    have hpoint : standIns.point c ∈ Text.points t := ht ▸ List.mem_map_of_mem hc
    obtain ⟨d, -, hd⟩ := List.mem_map.mp hpoint
    rw [point, hsurrogate] at hd
    cases hd

/-- The bytes of a string are its own, as long as no character stands for a surrogate. -/
theorem encode?_points_eq_some {s : String} {bytes : ByteArray} :
    encode? (standIns.points s) = some bytes ↔ ¬ standIns.OccursIn s ∧ s.toUTF8 = bytes := by
  by_cases h : standIns.OccursIn s
  · simp [encode?_points_eq_none_iff.mpr h, h]
  · simp [points_of_not_occursIn h, h]

/-- The number of the first character of a block. -/
def firstCode (block : Fin 31) : Nat := 0xf0000 + 0x800 * block

/-- The character of a number in the range for private use has that number. -/
theorem toNat_ofNat {code : Nat} (hfirst : 0xf0000 ≤ code) (hend : code < 0xffffe) :
    (Char.ofNat code).toNat = code := by
  have hvalid : code.isValidChar := Or.inr ⟨by omega, by omega⟩
  rw [Char.ofNat, dif_pos hvalid]
  rfl

/-- The characters of a block, which are as many as the surrogates, stand for them in order. -/
def ofBlock (block : Fin 31) : StandIns where
  char s := Char.ofNat (firstCode block + (s.code - 0xd800))
  surrogate? c :=
    if h : firstCode block ≤ c.toNat ∧ c.toNat < firstCode block + 0x800 then
      some ⟨c.toNat - firstCode block + 0xd800, by omega⟩
    else none
  surrogate?_char s := by
    have hrange := s.inRange
    have hcode : (Char.ofNat (firstCode block + (s.code - 0xd800))).toNat =
        firstCode block + (s.code - 0xd800) :=
      toNat_ofNat (by unfold firstCode; omega) (by unfold firstCode; omega)
    have hback : firstCode block + (s.code - 0xd800) - firstCode block + 0xd800 = s.code := by omega
    simp only [hcode, hback]
    rw [dif_pos (by omega)]
  char_of_surrogate? c s h := by
    split at h
    · rename_i hrange
      cases h
      rw [Nat.add_sub_cancel, Nat.add_sub_cancel' hrange.1, Char.ofNat_toNat]
    · cases h
  isPrivate_char s := by
    have hrange := s.inRange
    have hlast := block.isLt
    have hcode : (Char.ofNat (firstCode block + (s.code - 0xd800))).toNat =
        firstCode block + (s.code - 0xd800) :=
      toNat_ofNat (by unfold firstCode; omega) (by unfold firstCode; omega)
    unfold firstCode at hcode
    rw [isPrivate, Bool.and_eq_true_iff, decide_eq_true_iff, decide_eq_true_iff, firstCode, hcode]
    omega

end StandIns

end ShapeTypes.Text
