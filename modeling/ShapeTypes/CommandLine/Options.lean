import ShapeTypes.Text.Likeness
import ShapeTypes.Value.Display

/-!
# Options and arguments

* `Setting`, `optionTable`: what an option sets, and the options with their spellings.
* `CommandLine.scan`: the settings and the arguments of a command line, in order. Options may stand
  anywhere before two dashes; one-letter options can be joined, the last one of them taking the rest
  of the word as its value.
* `UsageFault`: what can be wrong with a command line, and its wording; for an unknown option those
  with a similar spelling are offered.
-/

namespace ShapeTypes.CommandLine

/-- What an option sets. -/
inductive Setting where
  /-- The name of the root. -/
  | name (value : String)
  /-- The configuration file. -/
  | config (path : String)
  /-- The output may be overwritten. -/
  | force
  /-- Declarations are not exported. -/
  | noExport
  /-- The log is shown. -/
  | verbose
  /-- The help text is asked for. -/
  | help

/-- How an option takes effect. -/
inductive Effect where
  /-- By standing there. -/
  | flag (setting : Setting)
  /-- By its value. -/
  | valued (setting : String → Setting)

/-- An option with its spellings. -/
structure OptionSpec where
  /-- The long spelling, with its dashes. -/
  long : String
  /-- The letter of the short spelling. -/
  short : Option Char
  /-- How it takes effect. -/
  effect : Effect

/-- The options. -/
def optionTable : List OptionSpec := [
  ⟨"--name", some 'n', .valued .name⟩,
  ⟨"--config", some 'c', .valued .config⟩,
  ⟨"--force", some 'f', .flag .force⟩,
  ⟨"--no-export", none, .flag .noExport⟩,
  ⟨"--verbose", some 'v', .flag .verbose⟩,
  ⟨"--help", none, .flag .help⟩ ]

/-- The option with a long spelling. -/
def longOption? (written : String) : Option Effect :=
  (optionTable.find? (·.long == written)).map OptionSpec.effect

/-- The greatest number of options that are offered in the place of an unknown one. -/
def hintLimit : Nat := 3

/-- The long spellings that are most like an unknown one. -/
def similarOptions (written : String) : List String :=
  Text.closest hintLimit (optionTable.map OptionSpec.long) written

/-- The option with a letter. -/
def shortOption? (letter : Char) : Option Effect :=
  (optionTable.find? (·.short == some letter)).map OptionSpec.effect

/-- What can be wrong with a command line. -/
inductive UsageFault where
  /-- There is no such option; some have a similar spelling. -/
  | unknownOption (written : String) (similar : List String)
  /-- An option lacks its value. -/
  | valueMissing (written : String)
  /-- An option has a value and takes none. -/
  | valueUnwanted (written : String)
  /-- An argument is missing. -/
  | missingArgument (name : String)
  /-- A path does not exist. -/
  | nonexistent (parameter kind written : String)
  /-- A path leads to a directory and has to lead to a file. -/
  | directory (parameter kind written : String)
  /-- There are more arguments than wanted. -/
  | extraArguments (extra : List String)

namespace UsageFault

/-- The hint at options with a similar spelling. -/
def hint : List String → String
  | [] => ""
  | [option] => " Did you mean " ++ Text.inspect option ++ "?"
  | options => " (Did you mean one of: " ++ ", ".intercalate (options.map Text.inspect) ++ "?)"

/-- The wording of a fault. -/
def message : UsageFault → String
  | unknownOption written similar =>
    "No such option " ++ Text.inspect written ++ "." ++ hint similar
  | valueMissing written => "Option " ++ Text.inspect written ++ " requires an argument."
  | valueUnwanted written => "Option " ++ Text.inspect written ++ " does not take a value."
  | missingArgument name => "Missing argument '" ++ name ++ "'."
  | nonexistent parameter kind written =>
    "Invalid value for " ++ parameter ++ ": " ++ kind ++ " " ++ Text.inspect written ++
      " does not exist."
  | directory parameter kind written =>
    "Invalid value for " ++ parameter ++ ": " ++ kind ++ " " ++ Text.inspect written ++
      " is a directory."
  | extraArguments [extra] => "Got unexpected extra argument (" ++ extra ++ ")"
  | extraArguments extra =>
    "Got unexpected extra arguments (" ++ " ".intercalate extra ++ ")"

/-- The fault is shown with a reminder of the usage; one about the value of an option is not. -/
def showsUsage : UsageFault → Bool
  | valueMissing _ | valueUnwanted _ => false
  | _ => true

end UsageFault

/-! ## Reading the words -/

/-- What a word of options sets, and the option that still waits for its value in the next word. -/
structure WordReading where
  /-- The settings of the word. -/
  settings : List Setting
  /-- The option that waits, with its spelling. -/
  pending : Option (String × (String → Setting))

/-- Reads the letters of joined one-letter options. -/
def readLetters : List Char → Except UsageFault WordReading
  | [] => .ok ⟨[], none⟩
  | letter :: rest =>
    let written := String.ofList ['-', letter]
    match shortOption? letter with
    | none => .error (.unknownOption written [])
    | some (.valued setting) =>
      if rest.isEmpty then .ok ⟨[], some (written, setting)⟩
      else .ok ⟨[setting (String.ofList rest)], none⟩
    | some (.flag setting) =>
      (readLetters rest).map fun reading => { reading with settings := setting :: reading.settings }

/-- Reads a word of options: one long option, perhaps with its value behind an equals sign, or
joined one-letter options. -/
def readWord (word : String) : Except UsageFault WordReading :=
  let cs := word.toList
  let written := String.ofList (cs.takeWhile (· != '='))
  let value :=
    match cs.dropWhile (· != '=') with
    | _ :: value => some (String.ofList value)
    | [] => none
  match longOption? written, value with
  | some (.valued setting), some v => .ok ⟨[setting v], none⟩
  | some (.valued setting), none => .ok ⟨[], some (written, setting)⟩
  | some (.flag _), some _ => .error (.valueUnwanted written)
  | some (.flag setting), none => .ok ⟨[setting], none⟩
  | none, _ =>
    match cs with
    | '-' :: '-' :: _ => .error (.unknownOption written (similarOptions written))
    | _ => readLetters cs.tail

/-- The settings and the arguments of a command line, each in order. -/
structure Scanned where
  /-- The settings. -/
  settings : List Setting
  /-- The arguments. -/
  arguments : List String

/-- The command line with settings before it. -/
def Scanned.after (settings : List Setting) (scanned : Scanned) : Scanned :=
  { scanned with settings := settings ++ scanned.settings }

/-- The word holds options: it starts with a dash and is more than a dash. -/
def isOptionWord (word : String) : Bool :=
  match word.toList with
  | '-' :: _ :: _ => true
  | _ => false

/-- Reads the words of a command line. -/
def scan : List String → Except UsageFault Scanned
  | [] => .ok ⟨[], []⟩
  | word :: rest =>
    if word = "--" then .ok ⟨[], rest⟩
    else if isOptionWord word then
      match readWord word with
      | .error fault => .error fault
      | .ok ⟨settings, none⟩ => (scan rest).map (Scanned.after settings)
      | .ok ⟨settings, some (written, setting)⟩ =>
        match rest with
        | [] => .error (.valueMissing written)
        | value :: rest' => (scan rest').map (Scanned.after (settings ++ [setting value]))
    else
      (scan rest).map fun scanned => { scanned with arguments := word :: scanned.arguments }

/-! ## Settings -/

/-- The choices of a command line; of a repeated option the last one counts. -/
structure Choices where
  /-- The name of the root. -/
  name : Option String := none
  /-- The configuration file. -/
  config : Option String := none
  /-- The output may be overwritten. -/
  force : Bool := false
  /-- Declarations are not exported. -/
  noExport : Bool := false
  /-- The log is shown. -/
  verbose : Bool := false
  /-- The help text is asked for. -/
  help : Bool := false

/-- The choices with one more setting. -/
def Choices.apply (choices : Choices) : Setting → Choices
  | .name value => { choices with name := some value }
  | .config path => { choices with config := some path }
  | .force => { choices with force := true }
  | .noExport => { choices with noExport := true }
  | .verbose => { choices with verbose := true }
  | .help => { choices with help := true }

/-- The choices that some settings make. -/
def Choices.ofSettings (settings : List Setting) : Choices := settings.foldl Choices.apply {}

end ShapeTypes.CommandLine
