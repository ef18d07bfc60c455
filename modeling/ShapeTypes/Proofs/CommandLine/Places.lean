import ShapeTypes.CommandLine.Run
import ShapeTypes.Proofs.Failure
import ShapeTypes.Proofs.FileTree.Walk

/-!
# The places that written paths mean

A path on the command line may lead upwards and start anywhere. The place that it means has neither
upward steps nor null characters, so that the limits of the file system are all that can be wrong
with it.

* `Path.FitsLimits`: the steps are within these limits.
* `Path.isOrdinary_simplified`: **the place that a written path means is ordinary if it is within
  the limits**.
* `CommandLine.placeAt`, `CommandLine.placeOf_eq_ok`: the place of a path as it is written.
* `CommandLine.invocation_eq_ok`, `CommandLine.invocation_of_files`: what a command line that can be
  carried out asks for, and when it can be carried out.
-/

namespace ShapeTypes

namespace Path

/-- The steps are within the limits of a file system. -/
structure FitsLimits (steps : List String) : Prop where
  /-- No name is too long. -/
  short : ∀ step ∈ steps, step.utf8ByteSize ≤ nameLimit
  /-- The whole path is not too long. -/
  size : size steps ≤ sizeLimit

/-- What is left of a path when its upward steps are taken comes from before it, or is one of its
other steps. -/
theorem mem_of_mem_simplify {here : Place} {steps : List String} {step : String}
    (h : step ∈ simplify here steps) : step ∈ here ∨ (step ∈ steps ∧ step ≠ upwards) := by
  induction steps generalizing here with
  | nil => exact Or.inl h
  | cons next rest ih =>
      rw [simplify] at h
      split at h
      · rcases ih h with hhere | ⟨hrest, hdown⟩
        · exact Or.inl (here.dropLast_subset hhere)
        · exact Or.inr ⟨List.mem_cons_of_mem next hrest, hdown⟩
      · rename_i hdown
        rcases ih h with hhere | ⟨hrest, hdown'⟩
        · rcases List.mem_append.mp hhere with hbefore | hnext
          · exact Or.inl hbefore
          · rw [List.mem_singleton] at hnext
            subst hnext
            exact Or.inr ⟨List.mem_cons_self, hdown⟩
        · exact Or.inr ⟨List.mem_cons_of_mem next hrest, hdown'⟩

/-- The parts between slashes consist of characters of the text. -/
theorem mem_of_mem_splitSlashes {cs part : List Char} (h : part ∈ splitSlashes cs) :
    ∀ c ∈ part, c ∈ cs := by
  induction cs generalizing part with
  | nil =>
      rw [splitSlashes, List.mem_singleton] at h
      simp [h]
  | cons d rest ih =>
      intro c hc
      rw [splitSlashes] at h
      split at h
      · cases h
      · rename_i first parts hsplit
        rw [hsplit] at ih
        split at h
        · rcases List.mem_cons.mp h with rfl | hpart
          · cases hc
          · exact List.mem_cons_of_mem d (ih hpart c hc)
        · rcases List.mem_cons.mp h with rfl | hpart
          · rcases List.mem_cons.mp hc with rfl | hc
            · exact List.mem_cons_self
            · exact List.mem_cons_of_mem d (ih List.mem_cons_self c hc)
          · exact List.mem_cons_of_mem d (ih (List.mem_cons_of_mem first hpart) c hc)

/-- A text without slashes is one part. -/
theorem splitSlashes_of_not_mem {cs : List Char} (h : '/' ∉ cs) : splitSlashes cs = [cs] := by
  induction cs with
  | nil => rfl
  | cons c cs ih =>
      simp only [List.mem_cons, not_or] at h
      rw [splitSlashes, ih h.2]
      simp [Ne.symm h.1]

/-- The steps of a text without null characters hold none. -/
theorem holdsNull_of_mem_stepsOf {written step : String} (hplain : holdsNull written = false)
    (h : step ∈ stepsOf written) : holdsNull step = false := by
  obtain ⟨part, hpart, rfl⟩ := List.mem_map.mp (List.mem_filter.mp h).1
  unfold holdsNull at hplain ⊢
  rw [String.toList_ofList]
  simp only [List.contains_eq_mem, decide_eq_false_iff_not] at hplain ⊢
  intro hnull
  exact hplain (mem_of_mem_splitSlashes hpart _ hnull)

/-- A written path goes on from a place by the steps that are written. -/
theorem mem_steps_ofString {here : Place} {written step : String}
    (h : step ∈ (ofString here written).steps) : step ∈ here ∨ step ∈ stepsOf written := by
  unfold ofString at h
  split at h
  · exact Or.inr h
  · exact Or.inr h
  · exact Or.inr h
  · exact List.mem_append.mp h

/-- **The place that a written path means is ordinary if it is within the limits.** -/
theorem isOrdinary_simplified {here : Place} {written : String}
    (hhere : ∀ step ∈ here, holdsNull step = false) (hplain : holdsNull written = false)
    (hlimits : FitsLimits (ofString here written).simplified) :
    IsOrdinary (ofString here written).simplified := by
  have hsteps {step : String} (h : step ∈ (ofString here written).simplified) :
      step ∈ (ofString here written).steps ∧ step ≠ upwards :=
    (mem_of_mem_simplify h).resolve_left List.not_mem_nil
  refine ⟨fun hup => (hsteps hup).2 rfl, ?_, hlimits.short, hlimits.size⟩
  intro step hstep
  rcases mem_steps_ofString (hsteps hstep).1 with hbefore | hwritten
  · exact hhere step hbefore
  · exact holdsNull_of_mem_stepsOf hplain hwritten

end Path

namespace CommandLine

variable {here : Place} {tree : FileTree}

/-- The place of a path as it is written. -/
def placeAt (here : Place) (written : String) : Place := (Path.ofString here written).simplified

/-- A path that can be looked at has no null character, and means its place. -/
theorem placeOf_eq_ok {written : String} {place : Place} :
    placeOf here written = .ok place ↔
      Path.holdsNull written = false ∧ place = placeAt here written := by
  unfold placeOf
  split
  · rename_i hnull
    simp [hnull]
  · rename_i hplain
    rw [Bool.not_eq_true] at hplain
    simp [hplain, placeAt, eq_comm]

/-- The place of the configuration is that of the path that is given. -/
theorem configPlace_eq_ok {written : String} {place : Place}
    (h : configPlace here tree written = .ok place) : placeOf here written = .ok place := by
  obtain ⟨found, hplace, h⟩ := Except.bind_eq_ok.mp h
  split at h
  · cases h
    exact hplace
  · contradiction

/-- The place of a file argument is that of the path that is given. -/
theorem filePlace_eq_ok {parameter : String} {mustExist : Bool} {given : Option String}
    {place : Place} (h : filePlace here tree parameter mustExist given = .ok place) :
    ∃ written, given = some written ∧ placeOf here written = .ok place := by
  unfold filePlace at h
  split at h
  · contradiction
  · rename_i written
    obtain ⟨found, hplace, h⟩ := Except.bind_eq_ok.mp h
    refine ⟨written, rfl, ?_⟩
    split at h
    · contradiction
    · cases h
      exact hplace
    · split at h
      · contradiction
      · cases h
        exact hplace

/-- A path to a file names it. -/
theorem filePlace_of_file {parameter written : String} {mustExist : Bool} {place : Place}
    {bytes : ByteArray} (hplace : placeOf here written = .ok place)
    (hfile : tree.get? place = some (.file bytes)) :
    filePlace here tree parameter mustExist (some written) = .ok place := by
  unfold filePlace
  refine Except.bind_eq_ok.mpr ⟨place, hplace, ?_⟩
  rw [hfile]
  rfl

/-- A path that does not lead to a directory names what may be missing. -/
theorem filePlace_of_vacant {parameter written : String} {place : Place}
    (hplace : placeOf here written = .ok place)
    (hvacant : tree.entryAt? place ≠ some .directory) :
    filePlace here tree parameter false (some written) = .ok place := by
  unfold filePlace
  refine Except.bind_eq_ok.mpr ⟨place, hplace, ?_⟩
  split
  · rename_i children hchildren
    exact absurd (FileTree.entryAt?_eq_directory.mpr ⟨children, hchildren⟩) hvacant
  · rfl
  · rfl

/-- A path to something names the configuration. -/
theorem configPlace_of_some {written : String} {place : Place}
    (hplace : placeOf here written = .ok place) (hsome : (tree.get? place).isSome = true) :
    configPlace here tree written = .ok place := by
  refine Except.bind_eq_ok.mpr ⟨place, hplace, ?_⟩
  rw [if_pos hsome]
  rfl

/-- A list with a first and a second item and nothing behind them is a pair. -/
theorem eq_pair_of_drop {words : List String} {first second : String}
    (hfirst : words[0]? = some first) (hsecond : words[1]? = some second)
    (hrest : words.drop 2 = []) : words = [first, second] := by
  match words with
  | [] => simp at hfirst
  | [_] => simp at hsecond
  | [_, _] => simp_all
  | _ :: _ :: _ :: _ => simp at hrest

/-- The files of a command line are given by two arguments. -/
theorem files_eq_ok {scanned : Scanned} {choices : Choices} {config : Option Place}
    {asked : Invocation}
    (h : (do
      let source ← filePlace here tree "PATH" true scanned.arguments[0]?
      let target ← filePlace here tree "OUTPUT" false scanned.arguments[1]?
      match scanned.arguments.drop 2 with
      | [] => return ⟨choices, source, target, config⟩
      | extra => throw (.usage (.extraArguments extra))) = Except.ok asked) :
    ∃ path output, scanned.arguments = [path, output] ∧ Path.holdsNull output = false ∧
      asked = ⟨choices, placeAt here path, placeAt here output, config⟩ := by
  obtain ⟨source, hsource, h⟩ := Except.bind_eq_ok.mp h
  obtain ⟨target, htarget, h⟩ := Except.bind_eq_ok.mp h
  obtain ⟨path, hpath, hsource⟩ := filePlace_eq_ok hsource
  obtain ⟨output, houtput, htarget⟩ := filePlace_eq_ok htarget
  obtain ⟨-, rfl⟩ := placeOf_eq_ok.mp hsource
  obtain ⟨hplain, rfl⟩ := placeOf_eq_ok.mp htarget
  split at h
  · rename_i hdrop
    cases h
    exact ⟨path, output, eq_pair_of_drop hpath houtput hdrop, hplain, rfl⟩
  · contradiction

/-- **What a command line asks for**: two arguments, which name the schema and the output, and the
choices made by options. -/
theorem invocation_eq_ok {scanned : Scanned} {asked : Invocation}
    (h : invocation here tree scanned = .ok asked) :
    ∃ path output, scanned.arguments = [path, output] ∧ Path.holdsNull output = false ∧
      asked = ⟨Choices.ofSettings scanned.settings, placeAt here path, placeAt here output,
        (Choices.ofSettings scanned.settings).config.map (placeAt here)⟩ := by
  unfold invocation at h
  dsimp only at h
  split at h
  · rename_i written hwritten
    obtain ⟨config, hconfig, h⟩ := Except.bind_eq_ok.mp h
    cases hplace : configPlace here tree written with
    | error rejection =>
        rw [hplace] at hconfig
        contradiction
    | ok place =>
        rw [hplace] at hconfig
        cases hconfig
        obtain ⟨-, rfl⟩ := placeOf_eq_ok.mp (configPlace_eq_ok hplace)
        rw [hwritten]
        exact files_eq_ok h
  · rename_i hnone
    obtain ⟨config, hconfig, h⟩ := Except.bind_eq_ok.mp h
    cases hconfig
    rw [hnone]
    exact files_eq_ok h

/-- **A command line can be carried out** if its arguments name a file and what is no directory, and
the configuration, if one is named, exists. -/
theorem invocation_of_files {scanned : Scanned} {path output : String} {bytes : ByteArray}
    (harguments : scanned.arguments = [path, output]) (hpath : Path.holdsNull path = false)
    (hfile : tree.get? (placeAt here path) = some (.file bytes))
    (houtput : Path.holdsNull output = false)
    (hvacant : tree.entryAt? (placeAt here output) ≠ some .directory)
    (hconfig : ∀ written ∈ (Choices.ofSettings scanned.settings).config,
      Path.holdsNull written = false ∧ (tree.get? (placeAt here written)).isSome = true) :
    invocation here tree scanned =
      .ok ⟨Choices.ofSettings scanned.settings, placeAt here path, placeAt here output,
        (Choices.ofSettings scanned.settings).config.map (placeAt here)⟩ := by
  have hsource : filePlace here tree "PATH" true (some path) = .ok (placeAt here path) :=
    filePlace_of_file (placeOf_eq_ok.mpr ⟨hpath, rfl⟩) hfile
  have htarget : filePlace here tree "OUTPUT" false (some output) = .ok (placeAt here output) :=
    filePlace_of_vacant (placeOf_eq_ok.mpr ⟨houtput, rfl⟩) hvacant
  unfold invocation
  rw [harguments]
  dsimp only
  split
  · rename_i written hwritten
    obtain ⟨hplain, hsome⟩ := hconfig written hwritten
    have hplace := configPlace_of_some (placeOf_eq_ok.mpr ⟨hplain, rfl⟩) hsome
    refine Except.bind_eq_ok.mpr ⟨some (placeAt here written), ?_, ?_⟩
    · rw [hplace]
      rfl
    · rw [hwritten]
      exact Except.bind_eq_ok.mpr ⟨_, hsource, Except.bind_eq_ok.mpr ⟨_, htarget, rfl⟩⟩
  · rename_i hnone
    rw [hnone]
    refine Except.bind_eq_ok.mpr ⟨none, rfl, ?_⟩
    exact Except.bind_eq_ok.mpr ⟨_, hsource, Except.bind_eq_ok.mpr ⟨_, htarget, rfl⟩⟩

end CommandLine

end ShapeTypes
