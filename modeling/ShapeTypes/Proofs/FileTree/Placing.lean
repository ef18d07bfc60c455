import ShapeTypes.Proofs.FileTree.Replace

/-!
# Writing after the check

* `FileTree.isDirectory_iff`, `FileTree.DirectoryAdded.isDirectory`,
  `FileTree.FileAdded.isDirectory`: the root of a tree stays a directory.
* `FileTree.Placing`, `FileTree.placing_writeChecked`: **making the directories and putting the file
  in place comes to a file that is added, or to nothing, or to the directories alone**.
-/

namespace ShapeTypes

namespace FileTree

variable {tree : FileTree} {request : WriteRequest} {place : Place} {name : String}

/-- A directory that was missing is empty after it has been added. -/
theorem DirectoryAdded.get?_eq_empty {after : FileTree} (h : DirectoryAdded tree after place)
    (hmissing : tree.entryAt? place = none) : after.get? place = some empty := by
  obtain ⟨children, hchildren⟩ := entryAt?_eq_directory.mp h.here
  cases children with
  | nil => exact hchildren
  | cons entry rest =>
      obtain ⟨name, child⟩ := entry
      -- a child would stand where nothing stood before
      have hchild := get?_concat hchildren name
      rw [List.lookup_cons_self] at hchild
      have hnone : after.entryAt? (place ++ [name]) = none := by
        rw [h.below]
        exact entryAt?_append_of_none hmissing [name]
      rw [entryAt?_eq_none, hchild] at hnone
      cases hnone

/-- The root of a tree is a directory if one stands at its place. -/
theorem isDirectory_iff : tree.isDirectory = true ↔ tree.entryAt? [] = some .directory := by
  rw [entryAt?, get?_nil]
  cases tree <;> simp [isDirectory, entry]

/-- A tree to which a directory is added is a directory. -/
theorem DirectoryAdded.isDirectory {after : FileTree} (h : DirectoryAdded tree after place) :
    after.isDirectory = true := by
  rw [isDirectory_iff, h.entries, if_pos List.nil_prefix]

/-- A directory to which a file is added stays a directory, for the file is not its root. -/
theorem FileAdded.isDirectory {after : FileTree} {bytes : ByteArray}
    (hroot : tree.isDirectory = true) (h : FileAdded tree after place bytes) :
    after.isDirectory = true := by
  have hplace : [] ≠ place := by
    rintro rfl
    exact h.vacant (isDirectory_iff.mp hroot)
  rw [isDirectory_iff, h.entries, if_neg hplace, if_pos List.nil_prefix]

/-! ## What writing comes to -/

/-- What making the directories and putting the file in place comes to. -/
inductive Placing (tree : FileTree) (content : List Text.CodePoint) (place : Place) :
    FileTree × Except Failure Unit → Prop
  /-- The file stands there. -/
  | placed {after : FileTree} {bytes : ByteArray} (hbytes : Text.encode? content = some bytes)
      (h : FileAdded tree after place bytes) : Placing tree content place (after, .ok ())
  /-- A file stands on the way, and nothing is changed. -/
  | blocked {failure : Failure} (h : tree.Blocked place.dropLast) :
      Placing tree content place (tree, .error failure)
  /-- A directory stands there, and nothing is changed. -/
  | occupied {failure : Failure} (h : tree.entryAt? place = some .directory) :
      Placing tree content place (tree, .error failure)
  /-- The temporary file takes too many bytes, and nothing is changed. -/
  | overlong {failure : Failure} {name : String} {number : Nat} (hname : place.getLast? = some name)
      (h : Overlong place.dropLast (temporaryName name number)) :
      Placing tree content place (tree, .error failure)
  /-- The content has no bytes, and nothing is changed. -/
  | unencodable {failure : Failure} (h : Text.encode? content = none) :
      Placing tree content place (tree, .error failure)
  /-- The temporary file takes too many bytes, or the content has none, after the directories on the
  way have been made. -/
  | stranded {after : FileTree} {failure : Failure} {name : String}
      (hname : place.getLast? = some name)
      (h : Overlong place.dropLast (temporaryName name 0) ∨ Text.encode? content = none)
      (hmissing : tree.entryAt? place.dropLast = none)
      (hadded : DirectoryAdded tree after place.dropLast) :
      Placing tree content place (after, .error failure)

/-- Putting a file into a directory that has been added, or not, if the target is a directory, the
temporary file takes too many bytes or the content has none. -/
theorem placing_replace {middle : FileTree} (hordinary : Path.IsOrdinary (place ++ [name]))
    (hadded : DirectoryAdded tree middle place)
    (hsame : tree.entryAt? place = some .directory → middle = tree)
    (content : List Text.CodePoint) :
    Placing tree content (place ++ [name]) (middle.replace content (name :: place.reverse)) := by
  obtain ⟨children, hchildren⟩ := entryAt?_eq_directory.mp hadded.here
  rw [replace, List.reverse_reverse, walk_of_some hordinary.left hadded.here]
  dsimp only
  have hreplacing := replacing_replaceChild hordinary hchildren content
  generalize middle.replaceChild content place name = outcome at hreplacing ⊢
  cases hreplacing with
  | replaced hbytes h => exact Placing.placed hbytes (hadded.put_file h _)
  | occupied h =>
      rw [hadded.below] at h
      have hplace := entryAt?_of_isPrefix (List.prefix_append place [name]) h
      rw [hsame hplace]
      exact Placing.occupied h
  | @overlong number h hempty =>
      have hlast : (place ++ [name]).getLast? = some name := List.getLast?_concat
      have hdrop : (place ++ [name]).dropLast = place := List.dropLast_concat
      rcases hadded.before with hmissing | hplace
      · have hnumber := hempty (hadded.get?_eq_empty hmissing)
        subst hnumber
        rw [← hdrop] at h hmissing hadded
        exact Placing.stranded hlast (Or.inl h) hmissing hadded
      · rw [← hdrop] at h
        rw [hsame hplace]
        exact Placing.overlong hlast h
  | unencodable h =>
      have hdrop : (place ++ [name]).dropLast = place := List.dropLast_concat
      rcases hadded.before with hmissing | hplace
      · rw [← hdrop] at hmissing hadded
        exact Placing.stranded List.getLast?_concat (Or.inr h) hmissing hadded
      · rw [hsame hplace]
        exact Placing.unencodable h

/-- **What writing comes to after the check.** -/
theorem placing_writeChecked (hroot : tree.isDirectory = true)
    (hordinary : Path.IsOrdinary request.path.steps) :
    Placing tree request.content request.path.steps (tree.writeChecked request) := by
  rw [writeChecked]
  generalize request.path.steps = steps at hordinary ⊢
  rcases List.eq_nil_or_concat steps with rfl | ⟨place, name, rfl⟩
  · exact Placing.occupied (isDirectory_iff.mp hroot)
  · rw [List.concat_eq_append] at hordinary ⊢
    rw [List.reverse_append, List.reverse_singleton, List.singleton_append, List.tail_cons]
    have hmaking := making_makeDirectories hroot hordinary.left
    generalize tree.makeDirectories place.reverse = outcome at hmaking ⊢
    cases hmaking with
    | added hadded hsame => exact placing_replace hordinary hadded hsame request.content
    | blocked h =>
        refine Placing.blocked ?_
        rwa [List.dropLast_concat]

end FileTree

end ShapeTypes
