import ShapeTypes.Proofs.FileTree.AllOrNothing
import ShapeTypes.Proofs.FileTree.Growing

/-!
# When a file is overwritten that was to be kept

Whether the target exists is asked before the directories on the way to it are made. A path that
steps upwards from a directory that is yet to be made leads to nothing before, and may lead to a
file after.

* `FileTree.Landing`: what writing to any path comes to after the check.
  `FileTree.landing_writeChecked`: **the file lands in the place of a child of the directory that
  the path leads to once directories have been made, or only these are made**.
* `FileTree.Overwrites`, `FileTree.entryAt?_write_of_file`: **a file is kept unless the path leads
  to nothing although its steps come to the file**, no file stands on the way, the source passes its
  check and has bytes, and no name is too long, also of the temporary file. Then it is overwritten,
  and the path steps upwards from something missing.
-/

namespace ShapeTypes

namespace FileTree

variable {tree : FileTree} {check : Check} {request : WriteRequest}
  {place way : Place} {front : List String} {name : String} {content : List Text.CodePoint}
  {bytes : ByteArray}

/-! ## Writing after the check -/

/-- The temporary file for a place has a name that the file system takes. -/
def HasRoom (tree : FileTree) (place : Place) : Prop :=
  ∃ way name temporary, place = way ++ [name] ∧
    temporaryName? (((tree.get? way).map childNames).getD []) name = some temporary ∧
    nameFlaw? way temporary = none

/-- Whether there is room for a child. -/
theorem hasRoom_concat {temporary : String}
    (h : temporaryName? (((tree.get? way).map childNames).getD []) name = some temporary) :
    tree.HasRoom (way ++ [name]) ↔ nameFlaw? way temporary = none := by
  constructor
  · rintro ⟨way', name', temporary', hplace, hfound, hfits⟩
    obtain ⟨rfl, hname⟩ := List.append_inj' hplace rfl
    cases hname
    rw [h] at hfound
    cases hfound
    exact hfits
  · intro hfits
    exact ⟨way, name, temporary, rfl, h, hfits⟩

/-- A target whose temporary file has a good name holds no null character. -/
theorem holdsNull_of_nameFlaw?_eq_none {number : Nat}
    (h : nameFlaw? way (temporaryName name number) = none) : Path.holdsNull name = false := by
  rw [nameFlaw?] at h
  split at h
  · cases h
  · rename_i hflaw
    have hplain := Path.holdsNull_of_flaw?_eq_none hflaw (temporaryName name number) (by simp)
    rwa [holdsNull_temporaryName] at hplain

/-- What writing a file to the path of some steps comes to. -/
inductive Landing (tree : FileTree) (content : List Text.CodePoint) (front : List String)
    (name : String) : FileTree × Except Failure Unit → Prop
  /-- The file stands where the path leads to once directories have been made. -/
  | landed {way : Place} {bytes : ByteArray} (hbytes : Text.encode? content = some bytes)
      (hway : (tree.withDirectory front).walk front = .ok way)
      (hdirectory : (tree.withDirectory front).entryAt? way = some .directory)
      (hname : name ≠ Path.upwards) (hplain : Path.holdsNull name = false)
      (hroom : (tree.withDirectory front).HasRoom (way ++ [name]))
      (h : (tree.withDirectory front).entryAt? (way ++ [name]) ≠ some .directory) :
      Landing tree content front name
        ((tree.withDirectory front).put (way ++ [name]) (file bytes), .ok ())
  /-- Only directories have been made. If the steps come to a file, and the directories before have
  all been made, then there is no room, or the content has no bytes. -/
  | failed {failure : Failure}
      (h : ∀ bytes, (tree.makeDirectories front.reverse).2 = .ok () →
        tree.entryAt? (Path.simplify [] (front ++ [name])) = some (.file bytes) →
        Text.encode? content = none ∨
          ¬ (tree.withDirectory front).HasRoom (Path.simplify [] (front ++ [name]))) :
      Landing tree content front name (tree.withDirectory front, .error failure)

/-- Making directories along a path makes the tree grow. -/
theorem grown_withDirectory (tree : FileTree) (front : List String) :
    Grown tree (tree.withDirectory front) :=
  grown_makeDirectories tree front.reverse

/-- A file is put in the place of the last step once the others lead to a directory. -/
theorem landing_replace (hleads : (tree.withDirectory front).leadsToDirectory front = true)
    (content : List Text.CodePoint) (name : String) :
    Landing tree content front name
      ((tree.withDirectory front).replace content (name :: front.reverse)) := by
  have hgrown := grown_withDirectory tree front
  obtain ⟨way, hway, hdirectory⟩ := leadsToDirectory_iff_walk.mp hleads
  obtain ⟨children, hchildren⟩ := entryAt?_eq_directory.mp hdirectory
  obtain ⟨number, htemporary, -, hreplacing⟩ := exists_replacingBy hchildren content name
  have hend : Path.simplify [] (front ++ [name]) = Path.simplify way [name] := by
    rw [Path.simplify_append, ← eq_simplify_of_walkFrom (walk_eq_ok.mp hway).2]
  -- a step upwards comes to a directory
  have hdown (bytes : ByteArray) (hname : name = Path.upwards) :
      tree.entryAt? (Path.simplify [] (front ++ [name])) ≠ some (.file bytes) := by
    intro hfile
    rw [hend, Path.simplify_singleton, if_pos hname] at hfile
    have hbefore := entryAt?_of_isPrefix way.dropLast_prefix hdirectory
    rw [hgrown.file_iff.mpr hfile] at hbefore
    cases hbefore
  rw [replace, List.reverse_reverse, hway]
  dsimp only
  generalize (tree.withDirectory front).replaceChild content way name = outcome at hreplacing ⊢
  cases hreplacing with
  | replaced hname hfits hbytes h =>
      exact Landing.landed hbytes hway hdirectory hname (holdsNull_of_nameFlaw?_eq_none hfits)
        ((hasRoom_concat htemporary).mpr hfits) h
  | upwards hname => exact Landing.failed fun bytes _ hfile => absurd hfile (hdown bytes hname)
  | occupied hname h =>
      refine Landing.failed fun bytes _ hfile => ?_
      rw [hend, Path.simplify_singleton, if_neg hname] at hfile
      rw [hgrown.file_iff.mpr hfile] at h
      cases h
  | unencodable h => exact Landing.failed fun _ _ _ => Or.inl h
  | flawed h =>
      refine Landing.failed fun bytes _ hfile => Or.inr ?_
      have hname : name ≠ Path.upwards := fun hname => hdown bytes hname hfile
      rw [hend, Path.simplify_singleton, if_neg hname, hasRoom_concat htemporary, h]
      exact Option.some_ne_none _

/-- **The file lands in the place of a child of the directory that the path leads to once
directories have been made, or only these are made.** -/
theorem landing_writeChecked (hroot : tree.entryAt? [] = some .directory)
    (hsteps : request.path.steps = front ++ [name]) :
    Landing tree request.content front name (tree.writeChecked request) := by
  have hleads := leadsToDirectory_of_makeDirectories front.reverse hroot
  rw [List.reverse_reverse] at hleads
  rw [writeChecked, hsteps, List.reverse_append, List.reverse_singleton, List.singleton_append,
    List.tail_cons]
  cases houtcome : tree.makeDirectories front.reverse with
  | mk middle result =>
      have hmiddle : tree.withDirectory front = middle := congrArg Prod.fst houtcome
      rw [← hmiddle]
      cases result with
      | ok _ => exact landing_replace (hleads (congrArg Prod.snd houtcome)) request.content name
      | error failure =>
          refine Landing.failed fun bytes hok => ?_
          rw [houtcome] at hok
          cases hok

/-! ## The whole request -/

/-- A request that overwrites the file at a place, although files are to be kept. -/
structure Overwrites (check : Check) (tree : FileTree) (request : WriteRequest) (place : Place) :
    Prop where
  /-- A file stands at the place. -/
  file : ∃ bytes, tree.entryAt? place = some (.file bytes)
  /-- The steps of the path come to the place. -/
  leads : request.path.simplified = place
  /-- The path leads to nothing all the same. -/
  missing : tree.walk request.path.steps = .error .missing
  /-- On the way stands no file. -/
  free : ¬ tree.BlockedAlong request.path.steps.dropLast
  /-- No name on the way is too long. -/
  short : ∀ step ∈ request.path.steps.dropLast, step.utf8ByteSize ≤ Path.nameLimit
  /-- The source has passed its check, or needs none. -/
  passed : request.validate = true → check request.content = .ok ()
  /-- The source has bytes. -/
  encoded : (Text.encode? request.content).isSome = true
  /-- Once the directories on the way have been made there is room for the temporary file. -/
  room : (tree.withDirectory request.path.steps.dropLast).HasRoom place

/-- A request fails and changes nothing, unless its target does not stand in the way and its source
has passed its check. -/
theorem write_cases (check : Check) (tree : FileTree) (request : WriteRequest) :
    (∃ checked failure, tree.write check request = ⟨tree, checked, .error failure⟩) ∨
    tree.isRefused request = .ok false ∧
      (request.validate = true → check request.content = .ok ()) := by
  cases hrefused : tree.isRefused request with
  | error failure => exact Or.inl ⟨false, failure, by rw [write, hrefused]⟩
  | ok refused =>
      cases refused with
      | true => exact Or.inl ⟨false, .outputExists request.path.text, by rw [write, hrefused]⟩
      | false =>
          by_cases hvalidate : request.validate = true
          · cases hcheck : check request.content with
            | ok _ => exact Or.inr ⟨rfl, fun _ => rfl⟩
            | error failure =>
                refine Or.inl ⟨request.validate, failure, ?_⟩
                rw [write, hrefused]
                dsimp only
                rw [if_pos hvalidate, hcheck]
          · exact Or.inr ⟨rfl, fun h => absurd h hvalidate⟩

/-- The path to a target that does not stand in the way leads nowhere, and is short enough to be
followed. -/
theorem walk_of_not_refused (hmode : request.mode = .keep)
    (h : tree.isRefused request = .ok false) :
    ∃ obstacle, tree.walk request.path.steps = .error obstacle ∧ obstacle ≠ .tooLong := by
  rw [isRefused, hmode] at h
  dsimp only at h
  rw [exists?] at h
  cases hwalk : tree.walk request.path.steps with
  | ok place =>
      rw [hwalk] at h
      cases h
  | error obstacle =>
      refine ⟨obstacle, rfl, ?_⟩
      rintro rfl
      rw [hwalk] at h
      cases h

/-- A file beside the place where another one is put is as before. -/
theorem entryAt?_put_of_ne (hdirectory : tree.entryAt? way = some .directory)
    (hvacant : tree.entryAt? (way ++ [name]) ≠ some .directory) (hne : way ++ [name] ≠ place)
    (hfile : tree.entryAt? place = some (.file bytes)) (new : FileTree) :
    (tree.put (way ++ [name]) new).entryAt? place = some (.file bytes) := by
  obtain ⟨children, hchildren⟩ := entryAt?_eq_directory.mp hdirectory
  rw [entryAt?_put_of_not_isPrefix hchildren ?_, hfile]
  rintro ⟨rest, rfl⟩
  cases rest with
  | nil => exact hne (List.append_nil _).symm
  | cons next rest =>
      refine hvacant (entryAt?_of_append (List.cons_ne_nil next rest) ?_)
      rw [hfile]
      exact Option.some_ne_none _

/-- A request that succeeds although its steps come to a file overwrites that file. -/
theorem overwrites_of_ok (hroot : tree.entryAt? [] = some .directory) (hmode : request.mode = .keep)
    (hfile : tree.entryAt? place = some (.file bytes)) (hleads : request.path.simplified = place)
    (hok : (tree.write check request).result = .ok ()) :
    Overwrites check tree request place := by
  rcases write_cases check tree request with ⟨checked, failure, hsame⟩ | ⟨hrefused, hpassed⟩
  · rw [hsame] at hok
    cases hok
  · obtain ⟨obstacle, hnowhere, hlong⟩ := walk_of_not_refused hmode hrefused
    obtain ⟨front, name, hsteps⟩ := exists_concat_of_walk hnowhere
    have hfront : request.path.steps.dropLast = front := by rw [hsteps, List.dropLast_concat]
    have hlanding := landing_writeChecked hroot hsteps
    rw [write_of_passed hrefused hpassed] at hok
    dsimp only at hok
    generalize tree.writeChecked request = outcome at hok hlanding
    cases hlanding with
    | failed => cases hok
    | @landed way written hbytes hway hdirectory hname hplain hroom hvacant =>
        obtain ⟨hflaw, hwalk⟩ := walk_eq_ok.mp hway
        have hplace : place = way ++ [name] := by
          rw [← hleads, Path.simplified, hsteps, simplify_of_walk hway hname]
        have hfree : ¬ tree.BlockedAlong front :=
          mt (grown_withDirectory tree front).blockedAlong_iff.mpr
            (not_blockedAlong_of_walkFrom hwalk hdirectory)
        have hnull : ∀ step ∈ request.path.steps, Path.holdsNull step = false := by
          rw [hsteps, List.forall_mem_append, List.forall_mem_singleton]
          exact ⟨Path.holdsNull_of_flaw?_eq_none hflaw, hplain⟩
        rw [← hfront] at hfree hwalk hroom
        exact ⟨⟨bytes, hfile⟩, hleads, walk_eq_missing hnull hfree hnowhere hlong, hfree,
          short_of_walkFrom hwalk, hpassed, Option.isSome_of_eq_some hbytes, hplace ▸ hroom⟩

/-- A request that overwrites a file does so. -/
theorem Overwrites.entryAt?_write (h : Overwrites check tree request place)
    (hroot : tree.entryAt? [] = some .directory) (hmode : request.mode = .keep) :
    ∃ new, Text.encode? request.content = some new ∧
      (tree.write check request).tree.entryAt? place = some (.file new) := by
  obtain ⟨⟨bytes, hfile⟩, hleads, hmissing, hfree, hshort, hpassed, hencoded, hroom⟩ := h
  have hrefused : tree.isRefused request = .ok false := by
    rw [isRefused, hmode]
    dsimp only
    rw [exists?, hmissing]
  have hflaw := flaw?_of_missing hmissing
  obtain ⟨front, name, hsteps⟩ := exists_concat_of_walk hmissing
  rw [Path.simplified, hsteps] at hleads
  rw [hsteps] at hflaw
  rw [hsteps, List.dropLast_concat] at hfree hshort hroom
  have hmade := (makeDirectories_eq_ok_iff hroot).mpr ⟨Path.flaw?_left hflaw, hfree, hshort⟩
  have hlanding := landing_writeChecked hroot hsteps
  rw [write_of_passed hrefused hpassed]
  dsimp only
  generalize tree.writeChecked request = outcome at hlanding ⊢
  cases hlanding with
  | landed hbytes hway hdirectory hname hplain hroom' hvacant =>
      obtain ⟨children, hchildren⟩ := entryAt?_eq_directory.mp hdirectory
      rw [simplify_of_walk hway hname] at hleads
      refine ⟨_, hbytes, ?_⟩
      rw [← hleads, entryAt?_put_self hchildren]
      rfl
  | failed hcause =>
      rw [hleads] at hcause
      rcases hcause bytes hmade hfile with hnone | hroomless
      · rw [hnone] at hencoded
        cases hencoded
      · exact absurd hroom hroomless

/-- A file that a request does not overwrite is kept. -/
theorem entryAt?_write_of_not_overwrites (h : ¬ Overwrites check tree request place)
    (hroot : tree.entryAt? [] = some .directory) (hmode : request.mode = .keep)
    (hfile : tree.entryAt? place = some (.file bytes)) :
    (tree.write check request).tree.entryAt? place = some (.file bytes) := by
  rcases write_cases check tree request with ⟨checked, failure, hsame⟩ | ⟨hrefused, hpassed⟩
  · rw [hsame, hfile]
  · obtain ⟨obstacle, hnowhere, -⟩ := walk_of_not_refused hmode hrefused
    obtain ⟨front, name, hsteps⟩ := exists_concat_of_walk hnowhere
    have hkept := (grown_withDirectory tree front).file_iff.mpr hfile
    have hlanding := landing_writeChecked hroot hsteps
    have hresult (hleads : request.path.simplified = place) :
        (tree.writeChecked request).2 ≠ .ok () := fun hok =>
      h (overwrites_of_ok hroot hmode hfile hleads (by rw [write_of_passed hrefused hpassed, hok]))
    rw [Path.simplified, hsteps] at hresult
    rw [write_of_passed hrefused hpassed]
    dsimp only
    generalize tree.writeChecked request = outcome at hresult hlanding ⊢
    cases hlanding with
    | failed => exact hkept
    | landed hbytes hway hdirectory hname hplain hroom hvacant =>
        rw [simplify_of_walk hway hname] at hresult
        exact entryAt?_put_of_ne hdirectory hvacant (fun hplace => hresult hplace rfl) hkept _

/-- **A file that is to be kept is overwritten if the path leads to nothing although its steps come
to the file, and nothing else prevents the write; otherwise it is kept.** The path then steps
upwards from something missing. -/
theorem entryAt?_write_of_file (check : Check) (hroot : tree.isDirectory = true)
    (hmode : request.mode = .keep) (hfile : tree.entryAt? place = some (.file bytes)) :
    (Overwrites check tree request place →
      (∃ new, Text.encode? request.content = some new ∧
        (tree.write check request).tree.entryAt? place = some (.file new)) ∧
      ∃ front, front ++ [Path.upwards] <+: request.path.steps ∧
        tree.walk front = .error .missing) ∧
    (¬ Overwrites check tree request place →
      (tree.write check request).tree.entryAt? place = some (.file bytes)) := by
  rw [isDirectory_iff] at hroot
  refine ⟨fun h => ⟨h.entryAt?_write hroot hmode, ?_⟩,
    fun h => entryAt?_write_of_not_overwrites h hroot hmode hfile⟩
  refine exists_upwards_of_walk h.missing ?_
  rw [← Path.simplified, h.leads, hfile]
  exact Option.some_ne_none _

/-- A result that is no failure is the one success there is. -/
theorem eq_ok_of_toBool {result : Except Failure Unit} (h : result.toBool = true) :
    result = .ok () := by
  cases result with
  | ok _ => rfl
  | error failure => cases h

/-- A directory with two files in a directory. -/
def sources : FileTree :=
  directory [("src", directory [("role.ts", file "type Role = string;".toUTF8),
    ("user.ts", file "type User = string;".toUTF8)])]

/-- A request for one of the files, by way of two directories that are missing. -/
def detour : WriteRequest :=
  ⟨⟨"/", ["new", "types", Path.upwards, Path.upwards, "src", "user.ts"]⟩,
    Text.points "type User = number;", .keep, true⟩

/-- The request overwrites the file that it asks for, and keeps the other one. -/
theorem write_detour :
    sources.isDirectory = true ∧ detour.mode = .keep ∧
    Overwrites checkText sources detour ["src", "user.ts"] ∧
    ((sources.write checkText detour).tree.entryAt? ["src", "user.ts"] =
        some (.file "type User = number;".toUTF8) ∧
      ∃ front, front ++ [Path.upwards] <+: detour.path.steps ∧
        sources.walk front = .error .missing) ∧
    ¬ Overwrites checkText sources detour ["src", "role.ts"] ∧
    (sources.write checkText detour).tree.entryAt? ["src", "role.ts"] =
      some (.file "type Role = string;".toUTF8) := by
  have hwritten : (sources.write checkText detour).result.toBool = true := by decide +kernel
  have hover : Overwrites checkText sources detour ["src", "user.ts"] :=
    overwrites_of_ok rfl rfl rfl rfl (eq_ok_of_toBool hwritten)
  have hother : ¬ Overwrites checkText sources detour ["src", "role.ts"] := fun h => by
    have hsame := hover.leads.symm.trans h.leads
    exact absurd hsame (by decide)
  obtain ⟨⟨new, hencoded, hnew⟩, hway⟩ := (entryAt?_write_of_file checkText rfl rfl rfl).1 hover
  rw [detour, Text.encode?_points, Option.some.injEq] at hencoded
  rw [← hencoded] at hnew
  exact ⟨rfl, rfl, hover, ⟨hnew, hway⟩, hother,
    (entryAt?_write_of_file checkText rfl rfl rfl).2 hother⟩

/-- A directory with one file. -/
def folder : FileTree := directory [("user.ts", file "type A = string;".toUTF8)]

/-- A request for the file, by way of a directory that is missing. -/
def roundTrip : WriteRequest :=
  ⟨⟨"/", ["new", Path.upwards, "user.ts"]⟩, Text.points "type B = number;", .keep, true⟩

/-- **Not every file that is to be kept is kept.** The path `new/../user.ts` leads to nothing, and
to the file once the directory `new` has been made. -/
theorem not_kept_of_upwards :
    ¬ ∀ (tree : FileTree) (request : WriteRequest) (place : Place) (bytes : ByteArray),
      tree.isDirectory = true → request.mode = .keep →
      tree.entryAt? place = some (.file bytes) →
      (tree.write checkText request).tree.entryAt? place = some (.file bytes) := by
  intro hkept
  have hwritten : (folder.write checkText roundTrip).result.toBool = true := by decide +kernel
  have hfile : folder.entryAt? ["user.ts"] = some (.file "type A = string;".toUTF8) := rfl
  have hover := overwrites_of_ok rfl rfl hfile rfl (eq_ok_of_toBool hwritten)
  obtain ⟨new, hencoded, hnew⟩ := hover.entryAt?_write rfl rfl
  rw [hkept folder roundTrip ["user.ts"] _ rfl rfl hfile] at hnew
  have hbytes : "type A = string;".toUTF8 = new := by
    injection hnew with hentry
    injection hentry
  rw [roundTrip, Text.encode?_points, ← hbytes, Option.some.injEq] at hencoded
  exact absurd hencoded (by decide)

end FileTree

end ShapeTypes
