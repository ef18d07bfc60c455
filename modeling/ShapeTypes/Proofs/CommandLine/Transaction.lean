import ShapeTypes.Proofs.CommandLine.Places
import ShapeTypes.Proofs.FileTree.AllOrNothing
import ShapeTypes.Proofs.Shape.Success
import ShapeTypes.Proofs.SourceCheck

/-!
# The command line as a transaction

* `CommandLine.Work`: what a run has read and generated by the time it writes.
* `CommandLine.prepare_eq_ok`, `CommandLine.exists_work`: a run that comes to writing has done so;
  `CommandLine.Work.invocation_eq`: and what can be read and generated can be asked for.
* `CommandLine.Transaction`: a run that fails changes nothing, up to directories that a name that is
  too long or a surrogate leaves; a run that succeeds changes its output, to the document that was
  asked for.
* `CommandLine.run_transaction`: **every run is a transaction**, and fails only for its output if
  the document can be generated.
* `CommandLine.Work.directoryAdded`: such directories do stay.
* `CommandLine.LeavesNoRoom`, `CommandLine.run_of_leavesNoRoom`: the names of outputs for which they
  do.

All of this holds whatever characters stand for surrogates. A run means what its files say if these
characters do not occur in them.
-/

namespace ShapeTypes

namespace CommandLine

open Text (StandIns)

variable {standIns : StandIns} {here : Place} {tree : FileTree} {arguments : List String}
  {asked : Invocation}

/-! ## What a run has done before it writes -/

/-- What a run has read and generated by the time it writes. -/
structure Work (standIns : StandIns) (here : Place) (tree : FileTree) (arguments : List String)
    where
  /-- The settings and the arguments of the command line. -/
  scanned : Scanned
  /-- The path of the schema, as it is written. -/
  path : String
  /-- The path of the output, as it is written. -/
  output : String
  /-- The schema. -/
  schema : Value
  /-- The configuration in its file, or the default one. -/
  given : Config
  /-- The configuration in which the options take precedence. -/
  config : Config
  /-- The choices about the output. -/
  writing : Output
  /-- The document. -/
  document : Document
  /-- The settings and the arguments are those of the command line. -/
  scan_eq : scan arguments = .ok scanned
  /-- There are two arguments. -/
  arguments_eq : scanned.arguments = [path, output]
  /-- The first one names the file of the schema. -/
  schema_eq : readDocument standIns tree (placeAt here path) = .ok schema
  /-- The configuration is read from the file that an option names, if there is one. -/
  given_eq : readConfig standIns tree
    ((Choices.ofSettings scanned.settings).config.map (placeAt here)) = .ok given
  /-- The options take precedence. -/
  config_eq : overrideConfig (Choices.ofSettings scanned.settings) given = .ok config
  /-- There are choices about the output. -/
  output_eq : config.output = some writing
  /-- The document is generated for the schema under the configuration. -/
  document_eq : (Generator.document
    { schema := .value schema
      config := config
      name := rootName (Choices.ofSettings scanned.settings) (placeAt here path) schema }).result =
    .ok document

namespace Work

/-- The choices made by options. -/
def choices (work : Work standIns here tree arguments) : Choices :=
  Choices.ofSettings work.scanned.settings

/-- The place of the output. -/
def target (work : Work standIns here tree arguments) : Place := placeAt here work.output

/-- The text that the output is to hold. -/
def text (work : Work standIns here tree arguments) : String := work.document.text ++ "\n"

/-- What the command line asks for. -/
def invoked (work : Work standIns here tree arguments) : Invocation :=
  ⟨work.choices, placeAt here work.path, work.target, work.choices.config.map (placeAt here)⟩

/-- The request to write the output. -/
def request (work : Work standIns here tree arguments) : WriteRequest :=
  ⟨{ steps := work.target }, standIns.points work.text, work.writing.mode,
    work.writing.validate.truthy⟩

end Work

/-- A file with the text of a value holds the value. -/
theorem readDocument_of_text {place : Place} {text : String} {value : Value}
    (hfile : tree.get? place = some (.file text.toUTF8))
    (hread : Json.readChars standIns (unifyLineEnds text.toList) = .ok value) :
    readDocument standIns tree place = .ok value := by
  have hvalid : text.toUTF8.IsValidUTF8 := text.isValidUTF8
  have hdecoded : String.fromUTF8? text.toUTF8 = some text := by
    rw [String.fromUTF8?, dif_pos hvalid]
    rfl
  simp only [readDocument, hfile, hdecoded, Json.read, String.toList_ofList, hread]

/-- What is read is read from a file. -/
theorem exists_file_of_readDocument {place : Place} {value : Value}
    (h : readDocument standIns tree place = .ok value) :
    ∃ bytes, tree.get? place = some (.file bytes) := by
  unfold readDocument at h
  split at h
  · rename_i bytes hfile
    exact ⟨bytes, hfile⟩
  · contradiction
  · contradiction

/-- A configuration that is read is read from a file. -/
theorem exists_file_of_readConfig {place : Place} {config : Config}
    (h : readConfig standIns tree (some place) = .ok config) :
    ∃ bytes, tree.get? place = some (.file bytes) := by
  unfold readConfig at h
  dsimp only at h
  cases hread : readDocument standIns tree place with
  | error failure =>
      rw [hread] at h
      contradiction
  | ok value => exact exists_file_of_readDocument hread

/-- The document of an invocation is generated for its schema, under its configuration. -/
theorem prepare_eq_ok {writing : Output} {document : Document} :
    (prepare standIns tree asked).result = .ok (writing, document) ↔
      ∃ schema given config, readDocument standIns tree asked.source = .ok schema ∧
        readConfig standIns tree asked.config = .ok given ∧
        overrideConfig asked.choices given = .ok config ∧ config.output = some writing ∧
        (Generator.document ⟨.value schema, config,
          rootName asked.choices asked.source schema⟩).result = .ok document := by
  constructor
  · intro h
    have hrun := Traced.eq_of_result h
    unfold prepare at hrun
    obtain ⟨schema, hschema, hrun⟩ := Traced.ofExcept_bind_eq_ok.mp hrun
    obtain ⟨given, hgiven, hrun⟩ := Traced.ofExcept_bind_eq_ok.mp hrun
    obtain ⟨config, hconfig, hrun⟩ := Traced.ofExcept_bind_eq_ok.mp hrun
    obtain ⟨before, document', after, hdocument, hrun, -⟩ := Traced.bind_eq_ok.mp hrun
    split at hrun
    · rename_i found hfound
      cases hrun
      exact ⟨schema, given, config, hschema, hgiven, hconfig, hfound,
        congrArg Traced.result hdocument⟩
    · cases hrun
  · rintro ⟨schema, given, config, hschema, hgiven, hconfig, hwriting, hdocument⟩
    have hrun := Traced.eq_of_result hdocument
    unfold prepare
    rw [hschema, hgiven]
    simp only [Traced.ofExcept, Traced.bind_ok, hconfig]
    rw [hrun]
    simp only [Traced.bind_ok, hwriting]
    rfl

/-- **A run that comes to writing has read what the command line names**, and asks for its document
to be written. -/
theorem exists_work {scanned : Scanned} {writing : Output} {document : Document}
    (hscan : scan arguments = .ok scanned) (hasked : invocation here tree scanned = .ok asked)
    (hprepared : (prepare standIns tree asked).result = .ok (writing, document)) :
    ∃ work : Work standIns here tree arguments, Path.holdsNull work.output = false ∧
      writeRequest standIns asked writing document = work.request := by
  obtain ⟨path, output, harguments, hplain, rfl⟩ := invocation_eq_ok hasked
  obtain ⟨schema, given, config, hschema, hgiven, hconfig, hwriting, hdocument⟩ :=
    prepare_eq_ok.mp hprepared
  exact ⟨⟨scanned, path, output, schema, given, config, writing, document, hscan, harguments,
    hschema, hgiven, hconfig, hwriting, hdocument⟩, hplain, rfl⟩

/-- The paths on the command line hold no null character. -/
structure Work.IsPlain (work : Work standIns here tree arguments) : Prop where
  /-- The path of the schema. -/
  path : Path.holdsNull work.path = false
  /-- The path of the output. -/
  output : Path.holdsNull work.output = false
  /-- The path of the configuration. -/
  config : ∀ written ∈ work.choices.config, Path.holdsNull written = false

/-- The document of a run that comes to writing is the one that its invocation prepares. -/
theorem Work.prepare_invoked (work : Work standIns here tree arguments) :
    (prepare standIns tree work.invoked).result = .ok (work.writing, work.document) :=
  prepare_eq_ok.mpr ⟨work.schema, work.given, work.config, work.schema_eq, work.given_eq,
    work.config_eq, work.output_eq, work.document_eq⟩

/-- **What can be read and generated can be asked for**, unless a directory stands in the place of
the output. -/
theorem Work.invocation_eq {work : Work standIns here tree arguments} (hplain : work.IsPlain)
    (hvacant : tree.entryAt? work.target ≠ some .directory) :
    invocation here tree work.scanned = .ok work.invoked := by
  obtain ⟨bytes, hfile⟩ := exists_file_of_readDocument work.schema_eq
  refine invocation_of_files work.arguments_eq hplain.path hfile hplain.output hvacant ?_
  intro written hwritten
  have hgiven := work.given_eq
  rw [Option.mem_def.mp hwritten] at hgiven
  obtain ⟨bytes', hfile'⟩ := exists_file_of_readConfig hgiven
  refine ⟨hplain.config written hwritten, ?_⟩
  rw [hfile']
  rfl

/-! ## Carrying out an invocation -/

/-- Without a document nothing is written. -/
theorem execute_of_error {failure : Failure}
    (h : (prepare standIns tree asked).result = .error failure) :
    (execute standIns tree asked).1 = tree ∧
      (execute standIns tree asked).2.result = .error failure := by
  simp [execute, h]

/-- A document is written as it is asked for. -/
theorem execute_of_ok {writing : Output} {document : Document}
    (h : (prepare standIns tree asked).result = .ok (writing, document)) :
    (execute standIns tree asked).1 =
        (tree.write checkText (writeRequest standIns asked writing document)).tree ∧
      (execute standIns tree asked).2.result =
        (tree.write checkText (writeRequest standIns asked writing document)).result := by
  simp only [execute, h]
  cases hresult : (tree.write checkText (writeRequest standIns asked writing document)).result with
  | error failure => simp
  | ok _ => simp

/-- A run shows the tree that carrying out its invocation leaves. -/
theorem tree_invocationOutcome :
    (invocationOutcome standIns tree asked).tree = (execute standIns tree asked).1 := by
  unfold invocationOutcome
  dsimp only
  split
  · rfl
  · split <;> rfl

/-- A run exits with zero if carrying out its invocation succeeds. -/
theorem exit_invocationOutcome :
    (invocationOutcome standIns tree asked).exit = 0 ↔
      (execute standIns tree asked).2.result = .ok () := by
  unfold invocationOutcome
  dsimp only
  split
  · rename_i hresult
    simp [hresult]
  · rename_i failure hresult
    split <;> simp [hresult]

/-! ## A note -/

/-- A schema as it is written. -/
def noteText : String := "\x7b\"type\": \"object\", \"name\": \"Note\"\x7d"

/-- The schema. -/
def noteSchema : Value := .object [("type", .string "object"), ("name", .string "Note")]

/-- A directory with the schema in a file. -/
def noteFiles : FileTree := .directory [("note.json", .file noteText.toUTF8)]

/-- The source of the note. -/
def noteSource : String := "export interface Note \x7b\n\x7d"

/-- The document of the note. -/
def noteDocument : Document := ⟨noteSource, [(.record (.string "Note") [], noteSource)]⟩

/-- The file of the note holds its schema. -/
theorem readDocument_note : readDocument standIns noteFiles ["note.json"] = .ok noteSchema := by
  apply readDocument_of_text rfl
  have htext : unifyLineEnds noteText.toList =
      ['\x7b', '"', 't', 'y', 'p', 'e', '"', ':', ' ', '"', 'o', 'b', 'j', 'e', 'c', 't', '"', ',',
        ' ', '"', 'n', 'a', 'm', 'e', '"', ':', ' ', '"', 'N', 'o', 't', 'e', '"', '\x7d'] := by
    decide +kernel
  rw [htext]
  rfl

/-- The document of the note passes the check. -/
theorem checkText_note (standIns : StandIns) :
    checkText (standIns.points (noteDocument.text ++ "\n")) = .ok () := by
  have hplain : ¬ standIns.OccursIn (noteDocument.text ++ "\n") :=
    StandIns.not_occursIn (by decide +kernel)
  have hneutral : Neutral (noteDocument.text ++ "\n") :=
    ⟨_, blanks_self (by decide +kernel), by decide +kernel⟩
  have hword : "interface ".toList <:+: (noteDocument.text ++ "\n").toList :=
    Text.occursIn_iff.mp (by decide +kernel)
  rw [StandIns.points_of_not_occursIn hplain, checkText_points]
  exact checkSource_of_neutral hneutral List.mem_cons_self hword

/-- Whatever the output is, the note is read and its document generated. -/
def noteWork (standIns : StandIns) {output : String}
    (hscan : scan ["note.json", output] = .ok ⟨[], ["note.json", output]⟩) :
    Work standIns [] noteFiles ["note.json", output] where
  scanned := ⟨[], ["note.json", output]⟩
  path := "note.json"
  output := output
  schema := noteSchema
  given := {}
  config := {}
  writing := {}
  document := noteDocument
  scan_eq := hscan
  arguments_eq := rfl
  schema_eq := by
    have hsource : placeAt [] "note.json" = ["note.json"] := by decide +kernel
    rw [hsource]
    exact readDocument_note
  given_eq := rfl
  config_eq := rfl
  output_eq := rfl
  document_eq := rfl

/-- The paths are plain if that of the output is. -/
theorem isPlain_noteWork (standIns : StandIns) {output : String}
    (hscan : scan ["note.json", output] = .ok ⟨[], ["note.json", output]⟩)
    (hplain : Path.holdsNull output = false) : (noteWork standIns hscan).IsPlain where
  path := by
    have hpath : Path.holdsNull "note.json" = false := by decide +kernel
    exact hpath
  output := hplain
  config := nofun

/-- The request to write the note to a place. -/
def noteRequest (standIns : StandIns) (place : Place) : WriteRequest :=
  ⟨{ steps := place }, standIns.points (noteDocument.text ++ "\n"), .keep, true⟩

/-! ## Transactions -/

/-- The command line asks for the help text. -/
def AsksForHelp (arguments : List String) : Prop :=
  ∃ scanned, scan arguments = .ok scanned ∧ (Choices.ofSettings scanned.settings).help = true

/-- The place of the output, if one is given, is within the limits of the file system. -/
def OutputFits (here : Place) (arguments : List String) : Prop :=
  ∀ scanned, scan arguments = .ok scanned → ∀ output ∈ scanned.arguments[1]?,
    Path.FitsLimits (placeAt here output)

/-- The output of a run that comes to writing is ordinary. -/
theorem Work.isOrdinary {work : Work standIns here tree arguments}
    (hhere : ∀ step ∈ here, Path.holdsNull step = false) (hfits : OutputFits here arguments)
    (hplain : Path.holdsNull work.output = false) :
    Path.IsOrdinary work.request.path.steps := by
  have hlimits : Path.FitsLimits work.target := by
    apply hfits work.scanned work.scan_eq
    simp [work.arguments_eq]
  exact Path.isOrdinary_simplified hhere hplain hlimits

/-- What a run leaves behind. -/
structure Transaction (standIns : StandIns) (here : Place) (tree : FileTree)
    (arguments : List String) (outcome : Outcome) : Prop where
  /-- A run that fails changes nothing, unless directories are left: they lead to the output, whose
  name or path is so long that its temporary file exceeds a limit, or whose document holds a
  surrogate. -/
  failed : outcome.exit ≠ 0 → outcome.tree = tree ∨
    ∃ work : Work standIns here tree arguments,
      FileTree.Stranded checkText tree work.request outcome.tree
  /-- A run that succeeds shows the help text and changes nothing, or the output holds the document
  that was asked for, in which no character stands for a surrogate, directories lead to it, and
  nothing else is changed. An output that existed may be overwritten by an option or by the
  configuration. -/
  succeeded : outcome.exit = 0 → (AsksForHelp arguments ∧ outcome.tree = tree) ∨
    ∃ work : Work standIns here tree arguments,
      ¬ standIns.OccursIn work.text ∧
      FileTree.FileAdded tree outcome.tree work.target work.text.toUTF8 ∧
      (tree.entryAt? work.target ≠ none → work.choices.force = true ∨
        ∃ output, work.given.output = some output ∧ output.mode = .force)

/-- A run that fails and changes nothing is a transaction. -/
theorem transaction_of_unchanged {outcome : Outcome} (hexit : outcome.exit ≠ 0)
    (htree : outcome.tree = tree) : Transaction standIns here tree arguments outcome where
  failed _ := Or.inl htree
  succeeded h := absurd h hexit

/-- Without an option that says otherwise, the mode is that of the configuration. -/
theorem Work.mode_of_not_force {work : Work standIns here tree arguments}
    (h : work.choices.force = false) :
    ∃ output, work.given.output = some output ∧ work.writing.mode = output.mode := by
  have hconfig := work.config_eq
  have hwriting := work.output_eq
  have hforce : (Choices.ofSettings work.scanned.settings).force = false := h
  rw [overrideConfig, hforce, Bool.false_and, if_neg Bool.false_ne_true] at hconfig
  rw [← Except.ok.inj hconfig] at hwriting
  obtain ⟨output, houtput, hmode⟩ := Option.map_eq_some_iff.mp hwriting
  refine ⟨output, houtput, ?_⟩
  rw [← hmode, overrideOutput, hforce]
  rfl

/-- An output that is overwritten may be so by an option or by the configuration. -/
theorem Work.mode_of_exists {work : Work standIns here tree arguments} {outcome : WriteOutcome}
    (hwrite : FileTree.AllOrNothing checkText tree work.request outcome)
    (hok : outcome.result = .ok ()) (hexists : tree.entryAt? work.target ≠ none) :
    work.choices.force = true ∨
      ∃ output, work.given.output = some output ∧ output.mode = .force := by
  have hmode : work.writing.mode ≠ .keep := by
    intro hkeep
    rw [hwrite.refused hkeep hexists] at hok
    contradiction
  cases hforce : work.choices.force with
  | true => exact Or.inl rfl
  | false =>
      right
      obtain ⟨output, houtput, hsame⟩ := work.mode_of_not_force hforce
      refine ⟨output, houtput, ?_⟩
      rw [hsame] at hmode
      cases hgiven : output.mode with
      | keep => exact absurd hgiven hmode
      | force => rfl

/-- Carrying out an invocation is a transaction. -/
theorem transaction_invocationOutcome {scanned : Scanned} (hroot : tree.isDirectory = true)
    (hhere : ∀ step ∈ here, Path.holdsNull step = false) (hfits : OutputFits here arguments)
    (hscan : scan arguments = .ok scanned) (hasked : invocation here tree scanned = .ok asked) :
    Transaction standIns here tree arguments (invocationOutcome standIns tree asked) := by
  cases hprepared : (prepare standIns tree asked).result with
  | error failure =>
      obtain ⟨htree, hresult⟩ := execute_of_error hprepared
      apply transaction_of_unchanged
      · rw [ne_eq, exit_invocationOutcome, hresult]
        simp
      · rw [tree_invocationOutcome, htree]
  | ok prepared =>
      obtain ⟨writing, document⟩ := prepared
      obtain ⟨work, hplain, hrequest⟩ := exists_work hscan hasked hprepared
      obtain ⟨htree, hresult⟩ := execute_of_ok hprepared
      rw [hrequest] at htree hresult
      have hordinary := work.isOrdinary hhere hfits hplain
      have hwrite := FileTree.allOrNothing_write checkText hroot hordinary
      constructor
      · intro hexit
        rw [ne_eq, exit_invocationOutcome, hresult] at hexit
        rw [tree_invocationOutcome, htree]
        cases hwritten : (tree.write checkText work.request).result with
        | ok _ => exact absurd hwritten hexit
        | error failure =>
            rcases hwrite.restored failure hwritten with hsame | hstranded
            · exact Or.inl hsame
            · exact Or.inr ⟨work, hstranded⟩
      · intro hexit
        rw [exit_invocationOutcome, hresult] at hexit
        rw [tree_invocationOutcome, htree]
        obtain ⟨bytes, hbytes, hadded⟩ := hwrite.placed hexit
        obtain ⟨hencodable, rfl⟩ := StandIns.encode?_points_eq_some.mp hbytes
        exact Or.inr ⟨work, hencodable, hadded, work.mode_of_exists hwrite hexit⟩

/-- Every run of the command line is a transaction. -/
theorem transaction_run (hroot : tree.isDirectory = true)
    (hhere : ∀ step ∈ here, Path.holdsNull step = false) (hfits : OutputFits here arguments) :
    Transaction standIns here tree arguments (run standIns here tree arguments) := by
  unfold run
  split
  · exact transaction_of_unchanged (by simp [usageOutcome]) rfl
  · rename_i scanned hscan
    split
    · rename_i hhelp
      exact ⟨fun hexit => absurd rfl hexit, fun _ => Or.inl ⟨⟨scanned, hscan, hhelp⟩, rfl⟩⟩
    · split
      · exact transaction_of_unchanged (by simp [usageOutcome]) rfl
      · exact transaction_of_unchanged (by simp) rfl
      · rename_i asked hasked
        exact transaction_invocationOutcome hroot hhere hfits hscan hasked

/-- A run whose document can be generated carries out its invocation, unless it is asked for help or
a directory stands in the place of the output. -/
theorem Work.run_eq {work : Work standIns here tree arguments} (hplain : work.IsPlain)
    (hhelp : work.choices.help = false) (hvacant : tree.entryAt? work.target ≠ some .directory) :
    run standIns here tree arguments = invocationOutcome standIns tree work.invoked := by
  have hhelp' : (Choices.ofSettings work.scanned.settings).help = false := hhelp
  unfold run
  rw [work.scan_eq]
  dsimp only
  rw [if_neg (by rw [hhelp']; exact Bool.false_ne_true), Work.invocation_eq hplain hvacant]

/-- Such a run leaves the tree that its request does, and exits with zero if that succeeds. -/
theorem Work.run_request {work : Work standIns here tree arguments} (hplain : work.IsPlain)
    (hhelp : work.choices.help = false) (hvacant : tree.entryAt? work.target ≠ some .directory) :
    (run standIns here tree arguments).tree = (tree.write checkText work.request).tree ∧
      ((run standIns here tree arguments).exit = 0 ↔
        (tree.write checkText work.request).result = .ok ()) := by
  obtain ⟨htree, hresult⟩ := execute_of_ok work.prepare_invoked
  rw [work.run_eq hplain hhelp hvacant, tree_invocationOutcome, exit_invocationOutcome, htree,
    hresult]
  exact ⟨rfl, Iff.rfl⟩

/-- A run that is asked for help exits with zero. -/
theorem Work.exit_of_help {work : Work standIns here tree arguments}
    (hhelp : work.choices.help = true) : (run standIns here tree arguments).exit = 0 := by
  have hhelp' : (Choices.ofSettings work.scanned.settings).help = true := hhelp
  unfold run
  rw [work.scan_eq]
  dsimp only
  rw [if_pos hhelp']

/-- A run whose document can be generated fails for what stands in the way of its output. -/
theorem Work.obstructed {work : Work standIns here tree arguments} (hroot : tree.isDirectory = true)
    (hhere : ∀ step ∈ here, Path.holdsNull step = false) (hfits : OutputFits here arguments)
    (hplain : work.IsPlain) (hexit : (run standIns here tree arguments).exit ≠ 0) :
    ∃ failure, FileTree.Obstructed checkText tree work.request failure := by
  by_cases hvacant : tree.entryAt? work.target = some .directory
  · exact ⟨.isADirectory, .occupied hvacant⟩
  · cases hhelp : work.choices.help with
    | true => exact absurd (work.exit_of_help hhelp) hexit
    | false =>
        rw [ne_eq, (work.run_request hplain hhelp hvacant).2] at hexit
        have hordinary := work.isOrdinary hhere hfits hplain.output
        have hwrite := FileTree.allOrNothing_write checkText hroot hordinary
        cases hwritten : (tree.write checkText work.request).result with
        | ok _ => exact absurd hwritten hexit
        | error failure => exact ⟨failure, hwrite.obstructed failure hwritten⟩

/-- **Every run of the command line is a transaction**: it fails and changes nothing, up to
directories that lead to an output with too long a name or a document with a surrogate, or it
succeeds and changes its output alone, to the document that was asked for. If that document can be
generated, the run fails only for what stands in the way of its output. -/
theorem run_transaction (hroot : tree.isDirectory = true)
    (hhere : ∀ step ∈ here, Path.holdsNull step = false) (hfits : OutputFits here arguments) :
    Transaction standIns here tree arguments (run standIns here tree arguments) ∧
    ∀ work : Work standIns here tree arguments, work.IsPlain →
      (run standIns here tree arguments).exit ≠ 0 →
        ∃ failure, FileTree.Obstructed checkText tree work.request failure :=
  ⟨transaction_run hroot hhere hfits, fun _ => Work.obstructed hroot hhere hfits⟩

/-- The note is written to a place where nothing stands. -/
theorem run_note (standIns : StandIns) {output : String}
    (hscan : scan ["note.json", output] = .ok ⟨[], ["note.json", output]⟩)
    (hplain : Path.holdsNull output = false)
    (hnone : noteFiles.entryAt? (placeAt [] output) = none) :
    (run standIns [] noteFiles ["note.json", output]).tree =
        (noteFiles.write checkText (noteRequest standIns (placeAt [] output))).tree ∧
      ((run standIns [] noteFiles ["note.json", output]).exit = 0 ↔
        (noteFiles.write checkText (noteRequest standIns (placeAt [] output))).result =
          .ok ()) := by
  have hvacant : noteFiles.entryAt? (noteWork standIns hscan).target ≠ some .directory := by
    have htarget : (noteWork standIns hscan).target = placeAt [] output := rfl
    rw [htarget, hnone]
    nofun
  exact (noteWork standIns hscan).run_request (isPlain_noteWork standIns hscan hplain) rfl hvacant

/-- The arguments that write the note to a file in another directory. -/
def noteArguments : List String := ["note.json", "types/note.ts"]

/-- The note is written, and the run is a transaction. -/
theorem run_noteArguments : noteFiles.isDirectory = true ∧ OutputFits [] noteArguments ∧
    (run (.ofBlock 0) [] noteFiles noteArguments).exit = 0 ∧
    Transaction (.ofBlock 0) [] noteFiles noteArguments
      (run (.ofBlock 0) [] noteFiles noteArguments) := by
  have hscan : scan noteArguments = .ok ⟨[], noteArguments⟩ := by rfl
  have htarget : placeAt [] "types/note.ts" = ["types", "note.ts"] := by decide +kernel
  have hfits : OutputFits [] noteArguments := by
    intro scanned hscanned output houtput
    rw [hscan] at hscanned
    cases hscanned
    cases houtput
    rw [htarget]
    exact ⟨by decide, by decide⟩
  have hexit : (run (.ofBlock 0) [] noteFiles noteArguments).exit = 0 := by
    have hrun := run_note (.ofBlock 0) hscan (by decide +kernel) (htarget ▸ rfl)
    rw [htarget, FileTree.write_of_passed rfl fun _ => checkText_note _] at hrun
    exact hrun.2.mpr rfl
  exact ⟨rfl, hfits, hexit, (run_transaction rfl (List.forall_mem_nil _) hfits).1⟩

/-! ## Directories that are left -/

/-- **A run whose document can be generated fails and leaves the directory of its output**, where
that was missing, if the temporary file takes too many bytes or the document holds a surrogate. -/
theorem Work.directoryAdded {work : Work standIns here tree arguments} {place : Place}
    {name : String} (hroot : tree.isDirectory = true) (hplain : work.IsPlain)
    (hhelp : work.choices.help = false) (htarget : work.target = place ++ [name])
    (hordinary : Path.IsOrdinary (place ++ [name]))
    (hpassed : checkText (standIns.points work.text) = .ok ())
    (hmissing : tree.entryAt? place = none) (hfree : ¬ tree.Blocked place)
    (hcause : FileTree.Overlong place (FileTree.temporaryName name 0) ∨
      standIns.OccursIn work.text) :
    (run standIns here tree arguments).exit ≠ 0 ∧
      FileTree.DirectoryAdded tree (run standIns here tree arguments).tree place := by
  have hvacant : tree.entryAt? work.target ≠ some .directory := by
    rw [htarget, FileTree.entryAt?_append_of_none hmissing [name]]
    nofun
  obtain ⟨htree, hexit⟩ := work.run_request hplain hhelp hvacant
  rw [htree, ne_eq, hexit]
  have hchecked : work.request.validate = true → checkText work.request.content = .ok () :=
    fun _ => hpassed
  have hwrite : (∃ failure, (tree.write checkText work.request).result = .error failure) ∧
      FileTree.DirectoryAdded tree (tree.write checkText work.request).tree place := by
    by_cases hlong : FileTree.Overlong place (FileTree.temporaryName name 0)
    · obtain ⟨hresult, hadded⟩ :=
        FileTree.write_of_overlong hroot hordinary htarget hchecked hmissing hfree hlong
      exact ⟨⟨_, hresult⟩, hadded⟩
    · have hcontent : Text.encode? work.request.content = none :=
        StandIns.encode?_points_eq_none_iff.mpr (hcause.resolve_left hlong)
      obtain ⟨hresult, hadded⟩ :=
        FileTree.write_of_unencodable hroot hordinary htarget hchecked hmissing hfree hlong hcontent
      exact ⟨⟨_, hresult⟩, hadded⟩
  obtain ⟨⟨failure, hresult⟩, hadded⟩ := hwrite
  rw [hresult]
  exact ⟨nofun, hadded⟩

/-- A name that is not too long, but leaves no room for that of a temporary file. -/
structure LeavesNoRoom (name : String) : Prop where
  /-- It is one name. -/
  single : '/' ∉ name.toList
  /-- It holds no null character. -/
  plain : Path.holdsNull name = false
  /-- It is not too long. -/
  short : name.utf8ByteSize ≤ Path.nameLimit
  /-- A temporary file needs fourteen more bytes. -/
  long : Path.nameLimit < name.utf8ByteSize + 14

/-- A short text leaves room. -/
theorem LeavesNoRoom.ne_of_size {name other : String} (h : LeavesNoRoom name)
    (hother : other.utf8ByteSize + 14 ≤ Path.nameLimit) : name ≠ other := by
  rintro rfl
  have hlong := h.long
  omega

/-- A path of a directory and a name that leaves no room means what it says. -/
theorem LeavesNoRoom.placeAt_eq {name : String} (h : LeavesNoRoom name) :
    placeAt [] ("new/" ++ name) = ["new", name] := by
  have hempty : name ≠ "" := h.ne_of_size (by decide)
  have hdot : name ≠ "." := h.ne_of_size (by decide)
  have hup : name ≠ Path.upwards := h.ne_of_size (by decide)
  have hsteps : Path.stepsOf ("new/" ++ name) = ["new", name] := by
    rw [Path.stepsOf, String.toList_append]
    simp [Path.splitSlashes, Path.splitSlashes_of_not_mem h.single, hempty, hdot]
  have hpath : Path.ofString [] ("new/" ++ name) = { steps := ["new", name] } := by
    simp [Path.ofString, hsteps]
  rw [placeAt, hpath, Path.simplified, Path.simplify, if_neg (by decide), Path.simplify, if_neg hup]
  rfl

/-- Such a path holds no null character. -/
theorem LeavesNoRoom.holdsNull_eq {name : String} (h : LeavesNoRoom name) :
    Path.holdsNull ("new/" ++ name) = false := by
  have hplain := h.plain
  unfold Path.holdsNull at hplain ⊢
  rw [String.toList_append]
  simpa using hplain

/-- A path in a directory is no option. -/
theorem scan_note (name : String) : scan ["note.json", "new/" ++ name] =
    .ok ⟨[], ["note.json", "new/" ++ name]⟩ := by
  have hdash : "new/" ++ name ≠ "--" := by
    intro h
    have hlist := congrArg String.toList h
    simp at hlist
  simp [scan, isOptionWord, hdash, Except.map]

/-- A path of a directory and a name that leaves no room is ordinary. -/
theorem LeavesNoRoom.isOrdinary {name : String} (h : LeavesNoRoom name) :
    Path.IsOrdinary (["new"] ++ [name]) := by
  have hup : name ≠ Path.upwards := h.ne_of_size (by decide)
  have hsize : Path.size ["new"] = 4 := by decide
  have hname : Path.size [name] = name.utf8ByteSize + 1 := by simp [Path.size]
  have hshort := h.short
  constructor
  · intro hmem
    rcases List.mem_append.mp hmem with hnew | hname
    · exact absurd (List.mem_singleton.mp hnew) (by decide)
    · exact hup (List.mem_singleton.mp hname).symm
  · exact List.forall_mem_cons.mpr ⟨by decide, List.forall_mem_singleton.mpr h.plain⟩
  · exact List.forall_mem_cons.mpr ⟨by decide, List.forall_mem_singleton.mpr h.short⟩
  · rw [Path.size_append, hsize, hname]
    unfold Path.nameLimit at hshort
    unfold Path.sizeLimit
    omega

/-- **A run whose output has a name that leaves no room fails and leaves the directory of the
output**, where that was missing. -/
theorem run_of_leavesNoRoom (standIns : StandIns) {name : String} (h : LeavesNoRoom name) :
    (run standIns [] noteFiles ["note.json", "new/" ++ name]).exit ≠ 0 ∧
      FileTree.DirectoryAdded noteFiles
        (run standIns [] noteFiles ["note.json", "new/" ++ name]).tree ["new"] := by
  have hfree : ¬ noteFiles.Blocked ["new"] := by
    rintro ⟨way, bytes, hway, hfile⟩
    rcases List.prefix_cons_iff.mp hway with rfl | ⟨rest, rfl, hrest⟩
    · cases hfile
    · rw [List.prefix_nil.mp hrest] at hfile
      cases hfile
  have hoverlong : FileTree.Overlong ["new"] (FileTree.temporaryName name 0) := by
    right
    rw [FileTree.utf8ByteSize_temporaryName_zero]
    exact h.long
  exact Work.directoryAdded rfl (isPlain_noteWork standIns (scan_note name) h.holdsNull_eq) rfl
    h.placeAt_eq h.isOrdinary (checkText_note standIns) rfl hfree (Or.inl hoverlong)

/-- The long name leaves no room. -/
theorem leavesNoRoom_longName : LeavesNoRoom FileTree.longName := by
  have hsize : FileTree.longName.utf8ByteSize = 250 := by decide +kernel
  -- stated for any count, so that the list is not unfolded
  have hmem (count : Nat) {c : Char} (hc : c ∈ (String.ofList (List.replicate count 'x')).toList) :
      c = 'x' := by
    rw [String.toList_ofList] at hc
    exact List.eq_of_mem_replicate hc
  constructor
  · intro hslash
    cases hmem 250 hslash
  · rw [Path.holdsNull, Bool.eq_false_iff]
    intro hnull
    cases hmem 250 (List.contains_iff_mem.mp hnull)
  · rw [hsize]
    decide
  · rw [hsize]
    decide

/-- A run that fails leaves a directory, although the name of its output is within the limits. -/
theorem run_longName : FileTree.longName.utf8ByteSize ≤ Path.nameLimit ∧
    noteFiles.entryAt? ["new"] = none ∧
    (run (.ofBlock 0) [] noteFiles ["note.json", "new/" ++ FileTree.longName]).exit ≠ 0 ∧
    (run (.ofBlock 0) [] noteFiles
      ["note.json", "new/" ++ FileTree.longName]).tree.entryAt? ["new"] = some .directory := by
  obtain ⟨hexit, hadded⟩ := run_of_leavesNoRoom (.ofBlock 0) leavesNoRoom_longName
  exact ⟨leavesNoRoom_longName.short, rfl, hexit, hadded.here⟩

end CommandLine

end ShapeTypes
