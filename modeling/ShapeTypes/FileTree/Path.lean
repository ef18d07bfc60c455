import ShapeTypes.FileTree.Basic

/-!
# Paths

* `Path`: the steps of a written path; a step may lead upwards.
* `Path.ofString`, `Path.text`, `Path.simplified`: reading a path, its full text, and its upward
  steps taken together with the steps before them.
* `Obstacle`: why a path leads nowhere; `Path.flaw?`: what is wrong with a path in itself.
* `FileTree.walk`: the place that a path leads to, step by step; a path through something missing or
  through a file leads nowhere.
-/

namespace ShapeTypes

/-- The steps of a path from the root of a tree. -/
structure Path where
  /-- What stands before the first step: one slash, or two where a path is written with two. -/
  lead : String := "/"
  /-- The names to step to; two dots step upwards. -/
  steps : List String
deriving DecidableEq

/-- Why a path leads nowhere, or why a directory cannot be made there. -/
inductive Obstacle where
  /-- A step leads to nothing. -/
  | missing
  /-- A step leads on from a file. -/
  | throughFile
  /-- Something stands there already. -/
  | occupied
  /-- A name or the whole path takes too many bytes. -/
  | tooLong
  /-- A name holds the null character. -/
  | nullCharacter
deriving DecidableEq

namespace Path

/-- The step upwards. -/
def upwards : String := ".."

/-- The parts of a text between slashes. -/
def splitSlashes : List Char → List (List Char)
  | [] => [[]]
  | c :: cs =>
    match splitSlashes cs with
    | [] => []
    | part :: parts => if c = '/' then [] :: part :: parts else (c :: part) :: parts

/-- The steps of a written path; empty steps and those to the same place are dropped. -/
def stepsOf (written : String) : List String :=
  ((splitSlashes written.toList).map String.ofList).filter fun step => step != "" && step != "."

/-- The path that a text means: it starts at the root if the text starts with a slash, else at
`here`. -/
def ofString (here : Place) (written : String) : Path :=
  match written.toList with
  | '/' :: '/' :: '/' :: _ => { steps := stepsOf written }
  | '/' :: '/' :: _ => { lead := "//", steps := stepsOf written }
  | '/' :: _ => { steps := stepsOf written }
  | _ => { steps := here ++ stepsOf written }

/-- The full text of a path. -/
def text (path : Path) : String := path.lead ++ "/".intercalate path.steps

/-- The place of a path in which every upward step undoes the step before it. -/
def simplify : Place → List String → Place
  | here, [] => here
  | here, step :: rest =>
    if step = upwards then simplify here.dropLast rest else simplify (here ++ [step]) rest

/-- The place of a path in which every upward step undoes the step before it. -/
def simplified (path : Path) : Place := simplify [] path.steps

/-! ## Limits -/

/-- The greatest number of bytes that a name takes. -/
def nameLimit : Nat := 255

/-- The greatest number of bytes that a path takes. -/
def sizeLimit : Nat := 4095

/-- The number of bytes that the full text of some steps takes. -/
def size (steps : List String) : Nat :=
  steps.foldr (fun step rest => step.utf8ByteSize + 1 + rest) 0

/-- The text holds the null character, which no name may hold. -/
def holdsNull (text : String) : Bool := text.toList.contains '\x00'

/-- What is wrong with a path before any of its steps is taken. -/
def flaw? (steps : List String) : Option Obstacle :=
  if steps.any holdsNull then some .nullCharacter
  else if sizeLimit < size steps then some .tooLong
  else none

end Path

/-- The full text of a place. -/
def Place.text (place : Place) : String := Path.text { steps := place }

namespace FileTree

/-- The place that some steps lead to from `here`. -/
def walkFrom (tree : FileTree) : Place → List String → Except Obstacle Place
  | here, [] => .ok here
  | here, step :: rest =>
    match tree.get? here with
    | some (directory children) =>
      if step = Path.upwards then walkFrom tree here.dropLast rest
      else if Path.nameLimit < step.utf8ByteSize then .error .tooLong
      else
        match children.lookup step with
        | some _ => walkFrom tree (here ++ [step]) rest
        | none => .error .missing
    | some (file _) => .error .throughFile
    | none => .error .missing

/-- The place that a path leads to. -/
def walk (tree : FileTree) (steps : List String) : Except Obstacle Place :=
  match Path.flaw? steps with
  | some obstacle => .error obstacle
  | none => tree.walkFrom [] steps

/-- What a path leads to. -/
def find? (tree : FileTree) (steps : List String) : Option FileTree :=
  match tree.walk steps with
  | .ok place => tree.get? place
  | .error _ => none

/-- The path leads to a directory. -/
def leadsToDirectory (tree : FileTree) (steps : List String) : Bool :=
  (tree.find? steps).any isDirectory

end FileTree

end ShapeTypes
