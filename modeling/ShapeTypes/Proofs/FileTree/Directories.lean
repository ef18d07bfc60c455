import Mathlib.Data.List.Induction
import ShapeTypes.Proofs.FileTree.Walk

/-!
# Making directories

* `FileTree.DirectoryAdded`: a tree with a directory at a place and on the whole way there, and with
  nothing else changed.
* `FileTree.Making`: what making directories comes to. `FileTree.making_makeDirectories`: **making a
  directory with those that lead to it adds just these, or it fails and changes nothing**, since a
  file stands on the way.
-/

namespace ShapeTypes

namespace FileTree

variable {tree middle after : FileTree} {children : List (String × FileTree)} {place : Place}
  {name : String}

/-- Directories stand at a place and on the whole way there, where nothing stood or directories, and
nothing else is changed. -/
structure DirectoryAdded (before after : FileTree) (place : Place) : Prop where
  /-- What stands where. -/
  entries : ∀ other, after.entryAt? other =
    if other <+: place then some .directory else before.entryAt? other
  /-- No file stood on the way. -/
  free : ¬ before.Blocked place

/-- Where a directory stands none has to be added. -/
theorem directoryAdded_self (h : tree.entryAt? place = some .directory) :
    DirectoryAdded tree tree place := by
  refine ⟨fun other => ?_, ?_⟩
  · by_cases hother : other <+: place
    · rw [if_pos hother, entryAt?_of_isPrefix hother h]
    · rw [if_neg hother]
  · rintro ⟨way, bytes, hway, hfile⟩
    rw [entryAt?_of_isPrefix hway h] at hfile
    cases hfile

/-- A place below a place is not on the way to it. -/
theorem not_append_isPrefix (place : Place) (name : String) (rest : Place) :
    ¬ place ++ name :: rest <+: place := by
  intro hstart
  have hlength := hstart.length_le
  rw [List.length_append, List.length_cons] at hlength
  omega

/-- A directory that was added stands there. -/
theorem DirectoryAdded.here (h : DirectoryAdded tree after place) :
    after.entryAt? place = some .directory := by
  rw [h.entries, if_pos (List.prefix_refl place)]

/-- Below a directory that was added everything is as before. -/
theorem DirectoryAdded.below (h : DirectoryAdded tree after place) (name : String) (rest : Place) :
    after.entryAt? (place ++ name :: rest) = tree.entryAt? (place ++ name :: rest) := by
  rw [h.entries, if_neg (not_append_isPrefix place name rest)]

/-- Where a directory was added stood nothing or a directory. -/
theorem DirectoryAdded.before (h : DirectoryAdded tree after place) :
    tree.entryAt? place = none ∨ tree.entryAt? place = some .directory := by
  cases hentry : tree.entryAt? place with
  | none => exact Or.inl rfl
  | some entry =>
      cases entry with
      | directory => exact Or.inr rfl
      | file bytes => exact absurd ⟨place, bytes, List.prefix_refl place, hentry⟩ h.free

/-- A new child that is an empty directory is a directory added. -/
theorem directoryAdded_put (hplace : tree.get? place = some (directory children))
    (hname : children.lookup name = none) :
    DirectoryAdded tree (tree.put (place ++ [name]) empty) (place ++ [name]) := by
  have hdirectory := entryAt?_eq_directory.mpr ⟨children, hplace⟩
  have hnone : tree.entryAt? (place ++ [name]) = none := by
    rw [entryAt?_eq_none, get?_concat hplace, hname]
  refine ⟨fun other => ?_, ?_⟩
  · by_cases hbelow : place ++ [name] <+: other
    · obtain ⟨rest, rfl⟩ := hbelow
      cases rest with
      | nil =>
          rw [List.append_nil, if_pos (List.prefix_refl _), entryAt?_put_self hplace]
          rfl
      | cons next rest =>
          rw [if_neg (not_append_isPrefix _ next rest), entryAt?_append_of_none hnone,
            entryAt?_eq_none, List.append_assoc, List.singleton_append, get?_put_self hplace]
          rfl
    · rw [entryAt?_put_of_not_isPrefix hplace hbelow]
      by_cases hother : other <+: place ++ [name]
      · rcases List.prefix_concat_iff.mp hother with rfl | hway
        · exact absurd (List.prefix_refl _) hbelow
        · rw [if_pos hother, entryAt?_of_isPrefix hway hdirectory]
      · rw [if_neg hother]
  · rintro ⟨way, bytes, hway, hfile⟩
    rcases List.prefix_concat_iff.mp hway with rfl | hway
    · rw [hnone] at hfile
      cases hfile
    · rw [entryAt?_of_isPrefix hway hdirectory] at hfile
      cases hfile

/-- A directory may be added after those that lead to it. -/
theorem DirectoryAdded.concat (h : DirectoryAdded tree middle place)
    (hnext : DirectoryAdded middle after (place ++ [name])) :
    DirectoryAdded tree after (place ++ [name]) := by
  refine ⟨fun other => ?_, ?_⟩
  · rw [hnext.entries other]
    by_cases hother : other <+: place ++ [name]
    · rw [if_pos hother, if_pos hother]
    · have hplace : ¬ other <+: place := fun hstart =>
        hother (hstart.trans (List.prefix_append place [name]))
      rw [if_neg hother, if_neg hother, h.entries other, if_neg hplace]
  · rintro ⟨way, bytes, hway, hfile⟩
    rcases List.prefix_concat_iff.mp hway with rfl | hbefore
    · refine hnext.free ⟨_, bytes, hway, ?_⟩
      rw [h.below, hfile]
    · exact h.free ⟨way, bytes, hbefore, hfile⟩

/-! ## One directory -/

/-- Making a directory in another one adds it, unless something stands there. -/
theorem makeDirectory_of_directory (hordinary : Path.IsOrdinary (place ++ [name]))
    (hplace : tree.get? place = some (directory children)) :
    tree.makeDirectory (name :: place.reverse) =
      if (children.lookup name).isSome then .error .occupied
      else .ok (tree.put (place ++ [name]) empty) := by
  have hentry := entryAt?_eq_directory.mpr ⟨children, hplace⟩
  have hdownwards : name ≠ Path.upwards := fun h =>
    hordinary.downwards (List.mem_append_right place (List.mem_singleton.mpr h.symm))
  have hshort : ¬ Path.nameLimit < name.utf8ByteSize :=
    Nat.not_lt.mpr (hordinary.short name (List.mem_append_right place (List.mem_singleton_self _)))
  rw [makeDirectory, List.reverse_cons, List.reverse_reverse, hordinary.flaw?_eq_none,
    walk_of_some hordinary.left hentry]
  dsimp only
  rw [makeChild, hplace]
  dsimp only
  rw [if_neg hdownwards, if_neg hshort]

/-- Where no directory stands none can be made below, for the reason that the path there leads
nowhere, or to a file. -/
theorem makeDirectory_of_not_directory (hordinary : Path.IsOrdinary (place ++ [name]))
    (hplace : tree.entryAt? place ≠ some .directory) :
    (tree.entryAt? place = none ∧
      tree.makeDirectory (name :: place.reverse) = .error .missing) ∨
    (tree.makeDirectory (name :: place.reverse) = .error .throughFile ∧ tree.Blocked place) := by
  rw [makeDirectory, List.reverse_cons, List.reverse_reverse, hordinary.flaw?_eq_none]
  dsimp only
  cases hfound : tree.get? place with
  | none =>
      have hnone := entryAt?_eq_none.mpr hfound
      rcases walk_of_none hordinary.left hnone with hwalk | ⟨hwalk, hblocked⟩
      · exact Or.inl ⟨hnone, by rw [hwalk]⟩
      · exact Or.inr ⟨by rw [hwalk], hblocked⟩
  | some found =>
      cases found with
      | directory children => exact absurd (entryAt?_eq_directory.mpr ⟨children, hfound⟩) hplace
      | file bytes =>
          have hfile : tree.entryAt? place = some (.file bytes) := by
            rw [entryAt?, hfound]
            rfl
          refine Or.inr ⟨?_, place, bytes, List.prefix_refl place, hfile⟩
          rw [walk_of_some hordinary.left hfile]
          dsimp only
          rw [makeChild, hfound]

/-- A file on the way to a place is one on the way to all places below. -/
theorem Blocked.append {more : Place} (h : tree.Blocked place) : tree.Blocked (place ++ more) := by
  obtain ⟨way, bytes, hway, hfile⟩ := h
  exact ⟨way, bytes, hway.trans (List.prefix_append place more), hfile⟩

/-! ## All directories on the way -/

/-- An obstacle is passed over if a directory stands at the place anyway. -/
theorem acceptDirectory_of_directory (hordinary : Path.IsOrdinary (place ++ [name]))
    (h : tree.entryAt? (place ++ [name]) = some .directory) (obstacle : Obstacle) :
    tree.acceptDirectory (name :: place.reverse) obstacle = (tree, .ok ()) := by
  rw [acceptDirectory, List.reverse_cons, List.reverse_reverse,
    if_pos ((leadsToDirectory_iff hordinary).mpr h)]

/-- An obstacle counts if no directory stands at the place. -/
theorem acceptDirectory_of_not_directory (hordinary : Path.IsOrdinary (place ++ [name]))
    (h : tree.entryAt? (place ++ [name]) ≠ some .directory) (obstacle : Obstacle) :
    tree.acceptDirectory (name :: place.reverse) obstacle = (tree, .error obstacle.failure) := by
  rw [acceptDirectory, List.reverse_cons, List.reverse_reverse,
    if_neg (fun hleads => h ((leadsToDirectory_iff hordinary).mp hleads))]

/-- What making a directory with those that lead to it comes to. -/
inductive Making (tree : FileTree) (place : Place) : FileTree × Except Failure Unit → Prop
  /-- The directories are there; if they were there before, nothing is changed. -/
  | added {after : FileTree} (h : DirectoryAdded tree after place)
      (hsame : tree.entryAt? place = some .directory → after = tree) :
      Making tree place (after, .ok ())
  /-- A file stands on the way, and nothing is changed. -/
  | blocked {failure : Failure} (h : tree.Blocked place) : Making tree place (tree, .error failure)

/-- In a directory one more is made, unless a file has its place. -/
theorem making_of_directory (hordinary : Path.IsOrdinary (place ++ [name]))
    (hplace : tree.get? place = some (directory children)) :
    Making tree (place ++ [name]) (tree.makeDirectories (name :: place.reverse)) := by
  have hchild := get?_concat hplace name
  rw [makeDirectories, makeDirectory_of_directory hordinary hplace]
  cases hlookup : children.lookup name with
  | none =>
      rw [hlookup] at hchild
      refine Making.added (directoryAdded_put hplace hlookup) fun h => ?_
      rw [entryAt?_eq_none.mpr hchild] at h
      cases h
  | some child =>
      rw [hlookup] at hchild
      rw [Option.isSome_some, if_pos rfl]
      dsimp only
      cases child with
      | directory below =>
          have hthere := entryAt?_eq_directory.mpr ⟨below, hchild⟩
          rw [acceptDirectory_of_directory hordinary hthere]
          exact Making.added (directoryAdded_self hthere) fun _ => rfl
      | file bytes =>
          have hthere : tree.entryAt? (place ++ [name]) = some (.file bytes) := by
            rw [entryAt?, hchild]
            rfl
          rw [acceptDirectory_of_not_directory hordinary (by simp [hthere])]
          exact Making.blocked ⟨_, bytes, List.prefix_refl _, hthere⟩

/-- What is missing is made after the directory before it has been added. -/
theorem making_of_added (hordinary : Path.IsOrdinary (place ++ [name]))
    (hnone : tree.entryAt? place = none) (hadded : DirectoryAdded tree middle place) :
    ∃ made, middle.makeDirectory (name :: place.reverse) = .ok made ∧
      DirectoryAdded tree made (place ++ [name]) := by
  obtain ⟨children, hchildren⟩ := entryAt?_eq_directory.mp hadded.here
  have hlookup : children.lookup name = none := by
    rw [← get?_concat hchildren, ← entryAt?_eq_none, hadded.below]
    exact entryAt?_append_of_none hnone [name]
  refine ⟨_, ?_, hadded.concat (directoryAdded_put hchildren hlookup)⟩
  rw [makeDirectory_of_directory hordinary hchildren, hlookup]
  rfl

/-- **Making a directory with those that lead to it adds just these, or it fails and changes
nothing.** -/
theorem making_makeDirectories (hroot : tree.isDirectory = true)
    (hordinary : Path.IsOrdinary place) :
    Making tree place (tree.makeDirectories place.reverse) := by
  induction place using List.reverseRecOn with
  | nil =>
      cases tree with
      | file bytes => cases hroot
      | directory children => exact Making.added (directoryAdded_self rfl) fun _ => rfl
  | append_singleton place name ih =>
      rw [List.reverse_append, List.reverse_singleton, List.singleton_append]
      by_cases hplace : tree.entryAt? place = some .directory
      · obtain ⟨children, hchildren⟩ := entryAt?_eq_directory.mp hplace
        exact making_of_directory hordinary hchildren
      · have hthere : tree.entryAt? (place ++ [name]) ≠ some .directory := fun h =>
          hplace (entryAt?_of_isPrefix (List.prefix_append place [name]) h)
        rw [makeDirectories]
        rcases makeDirectory_of_not_directory hordinary hplace with
          ⟨hnone, hmissing⟩ | ⟨hthrough, hblocked⟩
        · rw [hmissing]
          dsimp only
          generalize tree.makeDirectories place.reverse = outcome at ih ⊢
          cases ih hordinary.left with
          | added hadded =>
              obtain ⟨made, hmade, hmadeAdded⟩ := making_of_added hordinary hnone hadded
              dsimp only
              rw [hmade]
              exact Making.added hmadeAdded fun h => absurd h hthere
          | blocked hblocked => exact Making.blocked hblocked.append
        · rw [hthrough]
          dsimp only
          rw [acceptDirectory_of_not_directory hordinary hthere]
          exact Making.blocked hblocked.append

end FileTree

end ShapeTypes
