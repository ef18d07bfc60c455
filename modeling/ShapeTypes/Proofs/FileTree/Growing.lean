import ShapeTypes.Proofs.FileTree.Directories
import ShapeTypes.Proofs.FileTree.Upwards

/-!
# Making directories along any path

A path with upward steps may pass through directories that are yet to be made. It leads to nothing
before, whatever stands at the place that its steps come to.

* `FileTree.Grown`: a tree in which directories stand where nothing stood before. Paths that lead
  somewhere still lead there (`FileTree.Grown.walkFrom`), and files are on the same ways.
* `FileTree.grown_makeDirectories`: **making directories along a path adds directories and changes
  nothing else**, also if it fails.
* `FileTree.leadsToDirectory_of_makeDirectories`: **after it has succeeded the path leads to a
  directory**.
* `FileTree.makeDirectories_eq_ok_iff`: **it succeeds exactly if nothing is wrong with the path in
  itself, no file stands on the way, and no name is too long**.
-/

namespace ShapeTypes

namespace FileTree

variable {tree middle after made : FileTree} {here place : Place} {steps before : List String}
  {name : String}

/-- Directories stand where nothing stood before, and nothing else is changed. -/
def Grown (before after : FileTree) : Prop :=
  ∀ place, after.entryAt? place = before.entryAt? place ∨
    (before.entryAt? place = none ∧ after.entryAt? place = some .directory)

namespace Grown

theorem refl (tree : FileTree) : Grown tree tree := fun _ => Or.inl rfl

theorem trans (h : Grown tree middle) (h' : Grown middle after) : Grown tree after := by
  intro place
  rcases h' place with hsame | ⟨hnone, hdirectory⟩
  · rw [hsame]
    exact h place
  · rcases h place with hsame' | ⟨-, hmiddle⟩
    · exact Or.inr ⟨hsame' ▸ hnone, hdirectory⟩
    · rw [hmiddle] at hnone
      cases hnone

/-- Directories stay directories. -/
theorem directory (h : Grown tree after) (hplace : tree.entryAt? place = some .directory) :
    after.entryAt? place = some .directory := by
  rcases h place with hsame | ⟨-, hdirectory⟩
  · rw [hsame, hplace]
  · exact hdirectory

/-- The files are the same. -/
theorem file_iff (h : Grown tree after) {bytes : ByteArray} :
    after.entryAt? place = some (.file bytes) ↔ tree.entryAt? place = some (.file bytes) := by
  rcases h place with hsame | ⟨hnone, hdirectory⟩
  · rw [hsame]
  · rw [hnone, hdirectory]
    constructor <;> intro hfile <;> cases hfile

/-- The files are on the same ways. -/
theorem blockedAlong_iff (h : Grown tree after) :
    after.BlockedAlong steps ↔ tree.BlockedAlong steps := by
  constructor
  · rintro ⟨front, bytes, hfront, hfile⟩
    exact ⟨front, bytes, hfront, h.file_iff.mp hfile⟩
  · rintro ⟨front, bytes, hfront, hfile⟩
    exact ⟨front, bytes, hfront, h.file_iff.mpr hfile⟩

/-- Where something stood something is still there. -/
theorem ne_none (h : Grown tree after) (hplace : tree.entryAt? place ≠ none) :
    after.entryAt? place ≠ none := by
  rcases h place with hsame | ⟨hnone, -⟩
  · rwa [hsame]
  · exact absurd hnone hplace

/-- **A path that led somewhere leads there still.** -/
theorem walkFrom (h : Grown tree after) (hwalk : tree.walkFrom here steps = .ok place) :
    after.walkFrom here steps = .ok place := by
  induction steps generalizing here with
  | nil => exact hwalk
  | cons step rest ih =>
      obtain ⟨hdirectory, hnext⟩ := walkFrom_cons_eq_ok.mp hwalk
      refine walkFrom_cons_eq_ok.mpr ⟨h.directory hdirectory, ?_⟩
      rcases hnext with ⟨hstep, hrest⟩ | ⟨hstep, hshort, hthere, hrest⟩
      · exact Or.inl ⟨hstep, ih hrest⟩
      · exact Or.inr ⟨hstep, hshort, h.ne_none hthere, ih hrest⟩

end Grown

/-- A directory that is added makes the tree grow. -/
theorem DirectoryAdded.grown (h : DirectoryAdded tree after place) : Grown tree after := by
  intro other
  rw [h.entries]
  by_cases hother : other <+: place
  · rw [if_pos hother]
    cases hentry : tree.entryAt? other with
    | none => exact Or.inr ⟨rfl, rfl⟩
    | some entry =>
        cases entry with
        | directory => exact Or.inl rfl
        | file bytes => exact absurd ⟨other, bytes, hother, hentry⟩ h.free
  · rw [if_neg hother]
    exact Or.inl rfl

/-! ## Paths that lead to directories -/

/-- A path leads to a directory if it leads to a place where one stands. -/
theorem leadsToDirectory_iff_walk : tree.leadsToDirectory steps = true ↔
    ∃ place, tree.walk steps = .ok place ∧ tree.entryAt? place = some .directory := by
  rw [leadsToDirectory, find?]
  cases tree.walk steps with
  | error obstacle => simp
  | ok place =>
      dsimp only
      cases hfound : tree.get? place with
      | none => simp [entryAt?, hfound]
      | some found => cases found <;> simp [entryAt?, entry, isDirectory, hfound]

/-! ## One directory -/

/-- With nothing wrong in the path itself, a directory is made where its first steps lead. -/
theorem makeDirectory_of_flaw?_eq_none (tree : FileTree)
    (h : Path.flaw? (before.reverse ++ [name]) = none) :
    tree.makeDirectory (name :: before) =
      tree.walkFrom [] before.reverse >>= fun place => tree.makeChild place name := by
  rw [makeDirectory, List.reverse_cons, h, walk_of_flaw?_eq_none tree (Path.flaw?_left h)]
  cases tree.walkFrom [] before.reverse <;> rfl

/-- A child that is made is a directory added. -/
theorem directoryAdded_of_makeChild (h : tree.makeChild place name = .ok made) :
    name ≠ Path.upwards ∧ name.utf8ByteSize ≤ Path.nameLimit ∧
      DirectoryAdded tree made (place ++ [name]) := by
  rw [makeChild] at h
  split at h
  · rename_i children hplace
    split at h
    · cases h
    · rename_i hname
      split at h
      · cases h
      · rename_i hshort
        split at h
        · cases h
        · rename_i hfree
          cases h
          exact ⟨hname, Nat.not_lt.mp hshort,
            directoryAdded_put hplace (Option.not_isSome_iff_eq_none.mp hfree)⟩
  · cases h

/-- **A directory that is made makes the tree grow, and its path leads there.** -/
theorem grown_makeDirectory (h : tree.makeDirectory (name :: before) = .ok made) :
    Grown tree made ∧ made.leadsToDirectory (name :: before).reverse = true := by
  have hflaw : Path.flaw? (before.reverse ++ [name]) = none := by
    rw [makeDirectory, List.reverse_cons] at h
    split at h
    · cases h
    · assumption
  rw [makeDirectory_of_flaw?_eq_none tree hflaw] at h
  cases hwalk : tree.walkFrom [] before.reverse with
  | error obstacle =>
      rw [hwalk] at h
      cases h
  | ok place =>
      rw [hwalk] at h
      obtain ⟨hname, hshort, hadded⟩ := directoryAdded_of_makeChild h
      refine ⟨hadded.grown, leadsToDirectory_iff_walk.mpr ⟨place ++ [name], ?_, hadded.here⟩⟩
      have hplace := entryAt?_of_isPrefix (List.prefix_append place [name]) hadded.here
      rw [List.reverse_cons, walk_of_flaw?_eq_none made hflaw, walkFrom_append,
        hadded.grown.walkFrom hwalk]
      refine walkFrom_cons_eq_ok.mpr ⟨hplace, Or.inr ⟨hname, hshort, ?_, rfl⟩⟩
      rw [hadded.here]
      exact Option.some_ne_none _

/-- In a directory a child is made if one step there leads to nothing; what is in its way is what
such a step meets. -/
theorem makeChild_eq (hplace : tree.entryAt? place = some .directory) (name : String) :
    tree.makeChild place name =
      match tree.walkFrom place [name] with
      | .ok _ => .error .occupied
      | .error .missing => .ok (tree.put (place ++ [name]) empty)
      | .error obstacle => .error obstacle := by
  obtain ⟨children, hchildren⟩ := entryAt?_eq_directory.mp hplace
  have hchild : tree.entryAt? (place ++ [name]) = (children.lookup name).map entry := by
    rw [entryAt?, get?_concat hchildren]
  rw [makeChild, walkFrom_cons, hplace, hchildren, hchild, Option.isSome_map]
  dsimp only
  by_cases hname : name = Path.upwards
  · rw [if_pos hname, if_pos hname]
    rfl
  · rw [if_neg hname, if_neg hname]
    by_cases hlong : Path.nameLimit < name.utf8ByteSize
    · rw [if_pos hlong, if_pos hlong]
    · rw [if_neg hlong, if_neg hlong]
      cases children.lookup name <;> rfl

/-- Where the first steps lead to a directory, and no file stands behind the last one, a directory
is made, unless one is there. -/
theorem makeDirectory_of_walkFrom (hflaw : Path.flaw? (before.reverse ++ [name]) = none)
    (hfree : ¬ tree.BlockedAlong (before.reverse ++ [name]))
    (hshort : name.utf8ByteSize ≤ Path.nameLimit)
    (hwalk : tree.walkFrom [] before.reverse = .ok place) :
    (∃ made, tree.makeDirectory (name :: before) = .ok made) ∨
    tree.leadsToDirectory (name :: before).reverse = true := by
  have hplace : tree.entryAt? place = some .directory :=
    entryAt?_of_free hwalk fun h => hfree (h.mono (List.prefix_append _ [name]))
  have hmake : tree.makeDirectory (name :: before) = tree.makeChild place name := by
    rw [makeDirectory_of_flaw?_eq_none tree hflaw, hwalk]
    rfl
  have hend : tree.walkFrom [] (before.reverse ++ [name]) = tree.walkFrom place [name] := by
    rw [walkFrom_append, hwalk]
    rfl
  rcases walkFrom_singleton hplace name with ⟨way, hway⟩ | hmissing | hlong
  · have hdirectory := entryAt?_of_free (hend.trans hway) hfree
    refine Or.inr (leadsToDirectory_iff_walk.mpr ⟨way, ?_, hdirectory⟩)
    rw [List.reverse_cons, walk_of_flaw?_eq_none tree hflaw, hend, hway]
  · rw [hmake, makeChild_eq hplace, hmissing]
    exact Or.inl ⟨_, rfl⟩
  · exact absurd hlong (walkFrom_ne_tooLong (List.forall_mem_singleton.mpr hshort))

/-- Accepting a directory leaves the tree as it is. -/
@[simp] theorem acceptDirectory_fst (tree : FileTree) (backwards : List String)
    (obstacle : Obstacle) : (tree.acceptDirectory backwards obstacle).1 = tree := by
  rw [acceptDirectory]
  split <;> rfl

/-- A directory is accepted if the path leads to it. -/
theorem acceptDirectory_eq_ok {backwards : List String} {obstacle : Obstacle} :
    (tree.acceptDirectory backwards obstacle).2 = .ok () ↔
      tree.leadsToDirectory backwards.reverse = true := by
  rw [acceptDirectory]
  split <;> simp [*]

/-- What is in the way of making a directory where no file stands is a directory. -/
theorem acceptDirectory_of_free {obstacle : Obstacle}
    (hflaw : Path.flaw? (before.reverse ++ [name]) = none)
    (hfree : ¬ tree.BlockedAlong (before.reverse ++ [name]))
    (hshort : name.utf8ByteSize ≤ Path.nameLimit)
    (hwalk : tree.walkFrom [] before.reverse = .ok place)
    (h : tree.makeDirectory (name :: before) = .error obstacle) :
    (tree.acceptDirectory (name :: before) obstacle).2 = .ok () := by
  rcases makeDirectory_of_walkFrom hflaw hfree hshort hwalk with ⟨made, hmade⟩ | hleads
  · rw [hmade] at h
    cases h
  · exact acceptDirectory_eq_ok.mpr hleads

/-! ## All directories on the way -/

/-- **Making directories along a path adds directories and changes nothing else**, also if it
fails. -/
theorem grown_makeDirectories (tree : FileTree) (backwards : List String) :
    Grown tree (tree.makeDirectories backwards).1 := by
  fun_induction makeDirectories tree backwards with
  | case1 => exact Grown.refl _
  | case2 name before made hmade => exact (grown_makeDirectory hmade).1
  | case3 name before hmissing middle failure hmaking ih =>
      rwa [hmaking] at ih
  | case4 name before hmissing middle hmaking made hmade ih =>
      rw [hmaking] at ih
      exact ih.trans (grown_makeDirectory hmade).1
  | case5 name before hmissing middle hmaking obstacle hmade ih =>
      rw [hmaking] at ih
      rwa [acceptDirectory_fst]
  | case6 name before obstacle hobstacle hmade =>
      rw [acceptDirectory_fst]
      exact Grown.refl tree

/-- **Where directories have been made the path leads to one.** -/
theorem leadsToDirectory_of_makeDirectories (backwards : List String)
    (hroot : tree.entryAt? [] = some .directory)
    (h : (tree.makeDirectories backwards).2 = .ok ()) :
    (tree.makeDirectories backwards).1.leadsToDirectory backwards.reverse = true := by
  fun_induction makeDirectories tree backwards with
  | case1 => exact leadsToDirectory_iff_walk.mpr ⟨[], rfl, hroot⟩
  | case2 name before made hmade => exact (grown_makeDirectory hmade).2
  | case3 name before hmissing middle failure hmaking ih => cases h
  | case4 name before hmissing middle hmaking made hmade ih => exact (grown_makeDirectory hmade).2
  | case5 name before hmissing middle hmaking obstacle hmade ih =>
      rw [acceptDirectory_fst]
      exact acceptDirectory_eq_ok.mp h
  | case6 name before obstacle hobstacle hmade =>
      rw [acceptDirectory_fst]
      exact acceptDirectory_eq_ok.mp h

/-- Directories are made along a path on which no file stands, if no name is too long. -/
theorem makeDirectories_of_free {backwards : List String}
    (hflaw : Path.flaw? backwards.reverse = none) (hfree : ¬ tree.BlockedAlong backwards.reverse)
    (hshort : ∀ step ∈ backwards.reverse, step.utf8ByteSize ≤ Path.nameLimit) :
    (tree.makeDirectories backwards).2 = .ok () := by
  have hroot : tree.entryAt? [] = some .directory :=
    entryAt?_of_free rfl fun h => hfree (h.mono List.nil_prefix)
  fun_induction makeDirectories tree backwards with
  | case1 => rfl
  | case2 name before made hmade => rfl
  | case3 name before hmissing middle failure hmaking ih =>
      rw [List.reverse_cons] at hflaw hfree hshort
      rw [hmaking] at ih
      exact ih (Path.flaw?_left hflaw) (fun h => hfree (h.mono (List.prefix_append _ [name])))
        (List.forall_mem_append.mp hshort).1
  | case4 name before hmissing middle hmaking made hmade ih => rfl
  | case5 name before hmissing middle hmaking obstacle hmade ih =>
      rw [List.reverse_cons] at hflaw hfree hshort
      rw [List.forall_mem_append, List.forall_mem_singleton] at hshort
      -- the directories before have been made, and no file stands on the way yet
      have hgrown := grown_makeDirectories tree before
      have hleads := leadsToDirectory_of_makeDirectories before hroot (congrArg Prod.snd hmaking)
      rw [hmaking] at hgrown hleads
      obtain ⟨place, hwalk, -⟩ := leadsToDirectory_iff_walk.mp hleads
      rw [walk_of_flaw?_eq_none middle (Path.flaw?_left hflaw)] at hwalk
      exact acceptDirectory_of_free hflaw (mt hgrown.blockedAlong_iff.mp hfree) hshort.2 hwalk hmade
  | case6 name before obstacle hobstacle hmade =>
      rw [List.reverse_cons] at hflaw hfree hshort
      rw [List.forall_mem_append, List.forall_mem_singleton] at hshort
      have hway := (List.dropLast_prefix before.reverse).trans (List.prefix_append _ [name])
      rcases walkFrom_of_free fun h => hfree (h.mono hway) with ⟨place, hwalk⟩ | hmissing | hlong
      · exact acceptDirectory_of_free hflaw hfree hshort.2 hwalk hmade
      · rw [makeDirectory_of_flaw?_eq_none tree hflaw, hmissing] at hmade
        cases hmade
        exact absurd rfl hobstacle
      · exact absurd hlong (walkFrom_ne_tooLong hshort.1)

/-- **Directories are made along a path exactly if nothing is wrong with it in itself, no file
stands on the way, and no name is too long.** -/
theorem makeDirectories_eq_ok_iff (hroot : tree.entryAt? [] = some .directory) :
    (tree.makeDirectories steps.reverse).2 = .ok () ↔
      Path.flaw? steps = none ∧ ¬ tree.BlockedAlong steps ∧
        ∀ step ∈ steps, step.utf8ByteSize ≤ Path.nameLimit := by
  constructor
  · intro hok
    have hgrown := grown_makeDirectories tree steps.reverse
    have hleads := leadsToDirectory_of_makeDirectories steps.reverse hroot hok
    rw [List.reverse_reverse] at hleads
    obtain ⟨place, hplace, hdirectory⟩ := leadsToDirectory_iff_walk.mp hleads
    obtain ⟨hflaw, hwalk⟩ := walk_eq_ok.mp hplace
    exact ⟨hflaw, mt hgrown.blockedAlong_iff.mpr (not_blockedAlong_of_walkFrom hwalk hdirectory),
      short_of_walkFrom hwalk⟩
  · rintro ⟨hflaw, hfree, hshort⟩
    rw [← List.reverse_reverse steps] at hflaw hfree hshort
    exact makeDirectories_of_free hflaw hfree hshort

end FileTree

end ShapeTypes
