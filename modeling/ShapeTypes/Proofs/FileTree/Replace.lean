import Mathlib.Data.List.Nodup
import Mathlib.Data.List.Perm.Subperm
import ShapeTypes.Proofs.FileTree.Directories

/-!
# Putting a file in place

* `FileTree.exists_temporaryName?`: a name for the temporary file is always found.
* `FileTree.utf8ByteSize_temporaryName_zero`: it takes fourteen bytes more than the target's.
* `FileTree.ReplacingBy`, `FileTree.exists_replacingBy`: what putting a file in the place of any
  child comes to. `FileTree.Replacing`, `FileTree.replacing_replaceChild`: **in the place of an
  ordinary one the file is put, or nothing is changed**, since the target is a directory, the
  temporary file's name or path is too long, or the content holds a surrogate, which has no bytes.
  No temporary file remains.
-/

namespace ShapeTypes

namespace FileTree

/-! ## Temporary names -/

/-- The digits in a temporary name give back its number. -/
theorem temporaryName_injective (name : String) : Function.Injective (temporaryName name) := by
  intro number number' h
  have hchars := congrArg String.toList h
  simp only [temporaryName, String.toList_append, String.toList_ofList] at hchars
  have hdigits := List.append_cancel_left (List.append_cancel_right hchars)
  have hvalue := congrArg (fun digits => Nat.ofDigitChars 10 digits 0) hdigits
  simpa only [Nat.ofDigitChars_append, Nat.ofDigitChars_replicate_zero, Nat.mul_zero, decimal,
    Nat.ofDigitChars_ten_toDigits] using hvalue

/-- **A temporary name that is not taken is always found**; the first one if none is taken. -/
theorem exists_temporaryName? (taken : List String) (name : String) :
    ∃ number, temporaryName? taken name = some (temporaryName name number) ∧
      temporaryName name number ∉ taken ∧ (taken = [] → number = 0) := by
  have hsome : temporaryName? taken name ≠ none := by
    intro hnone
    have hall := List.find?_eq_none.mp hnone
    have hsub : (List.range (taken.length + 1)).map (temporaryName name) ⊆ taken := by
      intro candidate hcandidate
      simpa using hall candidate hcandidate
    have hnodup : ((List.range (taken.length + 1)).map (temporaryName name)).Nodup :=
      List.nodup_range.map (temporaryName_injective name)
    have hlength := (hnodup.subperm hsub).length_le
    rw [List.length_map, List.length_range] at hlength
    omega
  obtain ⟨found, hfound⟩ := Option.ne_none_iff_exists'.mp hsome
  obtain ⟨number, hnumber, rfl⟩ := List.mem_map.mp (List.mem_of_find?_eq_some hfound)
  refine ⟨number, hfound, by simpa using List.find?_some hfound, ?_⟩
  rintro rfl
  simpa using hnumber

/-- The first temporary name takes fourteen bytes more than the name of its target. -/
theorem utf8ByteSize_temporaryName_zero (name : String) :
    (temporaryName name 0).utf8ByteSize = name.utf8ByteSize + 14 := by
  have hdot : ".".utf8ByteSize = 1 := by decide
  have hdigits : (String.ofList (List.replicate (temporaryDigits - (decimal 0).length) '0' ++
      decimal 0)).utf8ByteSize = 8 := by decide
  have hend : ".tmp".utf8ByteSize = 4 := by decide
  simp only [temporaryName, String.utf8ByteSize_append, hdot, hdigits, hend]
  omega

/-- A temporary name is not the name of its target. -/
theorem ne_temporaryName (name : String) (number : Nat) : name ≠ temporaryName name number := by
  intro h
  have hsize := congrArg String.utf8ByteSize h
  have hdot : ".".utf8ByteSize = 1 := by decide
  simp only [temporaryName, String.utf8ByteSize_append, hdot] at hsize
  omega

/-- A temporary name holds the null character if its target's name does. -/
theorem holdsNull_temporaryName (name : String) (number : Nat) :
    Path.holdsNull (temporaryName name number) = Path.holdsNull name := by
  have hdigits : '\x00' ∉ decimal number := by
    intro hmem
    cases Nat.isDigit_of_mem_toDigits (by decide) (by decide) hmem
  have hfiller (count : Nat) : '\x00' ∉ List.replicate count '0' := by
    intro hmem
    cases List.eq_of_mem_replicate hmem
  simp [Path.holdsNull, temporaryName, hdigits, hfiller]

/-- A child takes too many bytes, by its name or by the whole path to it. -/
def Overlong (place : Place) (name : String) : Prop :=
  Path.sizeLimit < Path.size (place ++ [name]) ∨ Path.nameLimit < name.utf8ByteSize

instance (place : Place) (name : String) : Decidable (Overlong place name) :=
  inferInstanceAs (Decidable (_ ∨ _))

variable {tree moved : FileTree} {children : List (String × FileTree)} {place source : Place}
  {name : String}

/-- What may be wrong with the name of a temporary file beside an ordinary target is its length. -/
theorem nameFlaw?_temporaryName (hordinary : Path.IsOrdinary (place ++ [name])) (number : Nat) :
    nameFlaw? place (temporaryName name number) =
      if Overlong place (temporaryName name number) then some .tooLong else none := by
  have hplain : ∀ step ∈ place ++ [temporaryName name number], Path.holdsNull step = false := by
    have hold := hordinary.plain
    rw [List.forall_mem_append, List.forall_mem_singleton] at hold ⊢
    exact ⟨hold.1, (holdsNull_temporaryName name number).trans hold.2⟩
  have hnull : (place ++ [temporaryName name number]).any Path.holdsNull = false := by
    rw [List.any_eq_false]
    intro step hstep
    rw [hplain step hstep]
    exact Bool.false_ne_true
  rw [nameFlaw?, Path.flaw?, hnull, if_neg Bool.false_ne_true]
  by_cases hsize : Path.sizeLimit < Path.size (place ++ [temporaryName name number])
  · have hoverlong : Overlong place (temporaryName name number) := Or.inl hsize
    rw [if_pos hsize, if_pos hoverlong]
  · rw [if_neg hsize]
    dsimp only
    by_cases hname : Path.nameLimit < (temporaryName name number).utf8ByteSize
    · have hoverlong : Overlong place (temporaryName name number) := Or.inr hname
      rw [if_pos hname, if_pos hoverlong]
    · have hfits : ¬ Overlong place (temporaryName name number) := not_or.mpr ⟨hsize, hname⟩
      rw [if_neg hname, if_neg hfits]

/-! ## The move -/

/-- A file is moved over a target where no directory stands. -/
theorem moveOver_of_not_directory (hname : name ≠ Path.upwards)
    (hsource : tree.get? source = some moved)
    (htarget : tree.entryAt? (place ++ [name]) ≠ some .directory) :
    tree.moveOver source place name = .ok ((tree.remove source).put (place ++ [name]) moved) := by
  rw [moveOver, if_neg hname, hsource]
  cases hfound : tree.get? (place ++ [name]) with
  | none => rfl
  | some found =>
      cases found with
      | file bytes => rfl
      | directory below => exact absurd (entryAt?_eq_directory.mpr ⟨below, hfound⟩) htarget

/-- A file is not moved over a directory. -/
theorem moveOver_of_directory (hname : name ≠ Path.upwards)
    (htarget : tree.entryAt? (place ++ [name]) = some .directory) :
    tree.moveOver source place name = .error .isADirectory := by
  obtain ⟨below, hfound⟩ := entryAt?_eq_directory.mp htarget
  rw [moveOver, if_neg hname, hfound]

/-- What putting a file in the place of a child comes to, by way of a temporary file. -/
inductive ReplacingBy (tree : FileTree) (content : List Text.CodePoint) (place : Place)
    (name temporary : String) : FileTree × Except Failure Unit → Prop
  /-- The file stands there. -/
  | replaced {bytes : ByteArray} (hname : name ≠ Path.upwards)
      (hfits : nameFlaw? place temporary = none) (hbytes : Text.encode? content = some bytes)
      (h : tree.entryAt? (place ++ [name]) ≠ some .directory) :
      ReplacingBy tree content place name temporary
        (tree.put (place ++ [name]) (file bytes), .ok ())
  /-- The last step leads upwards, and nothing is changed. -/
  | upwards (hname : name = Path.upwards) :
      ReplacingBy tree content place name temporary (tree, .error .busy)
  /-- A directory stands there, and nothing is changed. -/
  | occupied (hname : name ≠ Path.upwards)
      (h : tree.entryAt? (place ++ [name]) = some .directory) :
      ReplacingBy tree content place name temporary (tree, .error .isADirectory)
  /-- Something is wrong with the name of the temporary file, and nothing is changed. -/
  | flawed {obstacle : Obstacle} (h : nameFlaw? place temporary = some obstacle) :
      ReplacingBy tree content place name temporary (tree, .error obstacle.failure)
  /-- The content has no bytes, and nothing is changed. -/
  | unencodable (h : Text.encode? content = none) :
      ReplacingBy tree content place name temporary (tree, .error .unencodable)

/-- **A file is put in the place of a child, or nothing is changed.** The first temporary name is
taken in an empty directory. -/
theorem exists_replacingBy (hplace : tree.get? place = some (directory children))
    (content : List Text.CodePoint) (name : String) :
    ∃ number,
      temporaryName? (((tree.get? place).map childNames).getD []) name =
        some (temporaryName name number) ∧
      (tree.get? place = some empty → number = 0) ∧
      ReplacingBy tree content place name (temporaryName name number)
        (tree.replaceChild content place name) := by
  obtain ⟨number, hfound, hfree, hfirst⟩ := exists_temporaryName? (children.map Prod.fst) name
  have htaken : ((tree.get? place).map childNames).getD [] = children.map Prod.fst := by
    rw [hplace]
    rfl
  rw [htaken]
  refine ⟨number, hfound, fun hempty => hfirst ?_, ?_⟩
  · rw [hplace] at hempty
    cases hempty
    rfl
  rw [replaceChild, htaken, hfound]
  dsimp only
  cases hflaw : nameFlaw? place (temporaryName name number) with
  | some obstacle => exact ReplacingBy.flawed hflaw
  | none =>
      dsimp only
      cases hbytes : Text.encode? content with
      | none => exact ReplacingBy.unencodable hbytes
      | some bytes => ?_
      dsimp only
      by_cases hname : name = Path.upwards
      · rw [moveOver, if_pos hname]
        dsimp only
        rw [remove_put hplace hfree]
        exact ReplacingBy.upwards hname
      -- the target is not the temporary file, so that it is as before beside that
      have hother : ¬ place ++ [temporaryName name number] <+: place ++ [name] := by
        intro hstart
        have hsame := List.append_cancel_left (hstart.eq_of_length (by simp))
        exact ne_temporaryName name number (List.cons.inj hsame).1.symm
      have hstaged := get?_put_self hplace (temporaryName name number) (file bytes) []
      rw [get?_nil] at hstaged
      have hsame : (tree.put (place ++ [temporaryName name number])
          (file bytes)).entryAt? (place ++ [name]) = tree.entryAt? (place ++ [name]) :=
        entryAt?_put_of_not_isPrefix hplace hother _
      by_cases htarget : tree.entryAt? (place ++ [name]) = some .directory
      · rw [moveOver_of_directory hname (hsame.trans htarget)]
        dsimp only
        rw [remove_put hplace hfree]
        exact ReplacingBy.occupied hname htarget
      · rw [moveOver_of_not_directory hname hstaged (hsame ▸ htarget)]
        dsimp only
        rw [remove_put hplace hfree]
        exact ReplacingBy.replaced hname hflaw hbytes htarget

/-- What putting a file in the place of an ordinary child comes to. -/
inductive Replacing (tree : FileTree) (content : List Text.CodePoint) (place : Place)
    (name : String) : FileTree × Except Failure Unit → Prop
  /-- The file stands there. -/
  | replaced {bytes : ByteArray} (hbytes : Text.encode? content = some bytes)
      (h : tree.entryAt? (place ++ [name]) ≠ some .directory) :
      Replacing tree content place name (tree.put (place ++ [name]) (file bytes), .ok ())
  /-- A directory stands there, and nothing is changed. -/
  | occupied (h : tree.entryAt? (place ++ [name]) = some .directory) :
      Replacing tree content place name (tree, .error .isADirectory)
  /-- The temporary file takes too many bytes, and nothing is changed. -/
  | overlong {number : Nat} (h : Overlong place (temporaryName name number))
      (hempty : tree.get? place = some empty → number = 0) :
      Replacing tree content place name (tree, .error .nameTooLong)
  /-- The content has no bytes, and nothing is changed. -/
  | unencodable (h : Text.encode? content = none) :
      Replacing tree content place name (tree, .error .unencodable)

/-- **A file is put in the place of an ordinary child, or nothing is changed.** -/
theorem replacing_replaceChild (hordinary : Path.IsOrdinary (place ++ [name]))
    (hplace : tree.get? place = some (directory children)) (content : List Text.CodePoint) :
    Replacing tree content place name (tree.replaceChild content place name) := by
  obtain ⟨number, -, hfirst, hreplacing⟩ := exists_replacingBy hplace content name
  generalize tree.replaceChild content place name = outcome at hreplacing ⊢
  cases hreplacing with
  | replaced hname hfits hbytes h => exact Replacing.replaced hbytes h
  | occupied hname h => exact Replacing.occupied h
  | unencodable h => exact Replacing.unencodable h
  | upwards hname =>
      have hlast : name ∈ place ++ [name] :=
        List.mem_append_right place (List.mem_singleton_self name)
      exact absurd (hname ▸ hlast) hordinary.downwards
  | flawed h =>
      rw [nameFlaw?_temporaryName hordinary] at h
      split at h
      · rename_i hoverlong
        cases h
        exact Replacing.overlong hoverlong hfirst
      · cases h

/-- In an empty directory the first temporary name is taken. -/
theorem temporaryName?_of_empty (hplace : tree.get? place = some empty) (name : String) :
    temporaryName? (((tree.get? place).map childNames).getD []) name =
      some (temporaryName name 0) := by
  obtain ⟨number, hfound, -, hfirst⟩ := exists_temporaryName? [] name
  rw [hplace, ← hfirst rfl]
  exact hfound

/-- In an empty directory the temporary file may take too many bytes. -/
theorem replaceChild_of_overlong (hordinary : Path.IsOrdinary (place ++ [name]))
    (hplace : tree.get? place = some empty) (h : Overlong place (temporaryName name 0))
    (content : List Text.CodePoint) :
    tree.replaceChild content place name = (tree, .error .nameTooLong) := by
  rw [replaceChild, temporaryName?_of_empty hplace]
  dsimp only
  rw [nameFlaw?_temporaryName hordinary, if_pos h]
  rfl

/-- In an empty directory the temporary file may be there, and the content have no bytes. -/
theorem replaceChild_of_unencodable (hordinary : Path.IsOrdinary (place ++ [name]))
    (hplace : tree.get? place = some empty) (h : ¬ Overlong place (temporaryName name 0))
    {content : List Text.CodePoint} (hcontent : Text.encode? content = none) :
    tree.replaceChild content place name = (tree, .error .unencodable) := by
  rw [replaceChild, temporaryName?_of_empty hplace]
  dsimp only
  rw [nameFlaw?_temporaryName hordinary, if_neg h, hcontent]

/-! ## The file put in place -/

/-- A file stands at a place where no directory stood, and directories on the way there, where no
file stood; nothing else is changed. -/
structure FileAdded (before after : FileTree) (place : Place) (bytes : ByteArray) : Prop where
  /-- What stands where. -/
  entries : ∀ other, after.entryAt? other =
    if other = place then some (.file bytes)
    else if other <+: place then some .directory
    else before.entryAt? other
  /-- On the way there stood no file. -/
  free : ¬ before.Blocked place.dropLast
  /-- At the place stood no directory. -/
  vacant : before.entryAt? place ≠ some .directory

/-- A file may be put into a directory that has been added, where no directory stands. -/
theorem DirectoryAdded.put_file {middle : FileTree} (h : DirectoryAdded tree middle place)
    (hname : middle.entryAt? (place ++ [name]) ≠ some .directory) (bytes : ByteArray) :
    FileAdded tree (middle.put (place ++ [name]) (file bytes)) (place ++ [name]) bytes := by
  obtain ⟨children, hchildren⟩ := entryAt?_eq_directory.mp h.here
  rw [h.below] at hname
  refine ⟨fun other => ?_, by rw [List.dropLast_concat]; exact h.free, hname⟩
  by_cases hbelow : place ++ [name] <+: other
  · obtain ⟨rest, rfl⟩ := hbelow
    cases rest with
    | nil =>
        rw [List.append_nil, if_pos rfl, entryAt?_put_self hchildren]
        rfl
    | cons next rest =>
        -- below the target stood nothing, and stands nothing
        have hold : tree.entryAt? (place ++ [name] ++ next :: rest) = none := by
          by_cases hsome : tree.entryAt? (place ++ [name] ++ next :: rest) = none
          · exact hsome
          · exact absurd (entryAt?_of_append (List.cons_ne_nil next rest) hsome) hname
        rw [if_neg (by simp), if_neg (not_append_isPrefix _ next rest), hold, entryAt?_eq_none,
          List.append_assoc, List.singleton_append, get?_put_self hchildren]
        rfl
  · have hne : other ≠ place ++ [name] := by
      rintro rfl
      exact hbelow (List.prefix_refl _)
    rw [entryAt?_put_of_not_isPrefix hchildren hbelow, h.entries, if_neg hne]
    by_cases hother : other <+: place
    · rw [if_pos hother, if_pos (hother.trans (List.prefix_append place [name]))]
    · have hway : ¬ other <+: place ++ [name] := fun hstart =>
        (List.prefix_concat_iff.mp hstart).elim hne hother
      rw [if_neg hother, if_neg hway]

end FileTree

end ShapeTypes
