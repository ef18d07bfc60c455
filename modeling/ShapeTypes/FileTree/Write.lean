import ShapeTypes.Config
import ShapeTypes.FileTree.Path
import ShapeTypes.Text.CodePoint

/-!
# Writing a file

Source is written to a temporary file beside its target, which is then put in the place of the
target in one step, so that a file is never half written.

* `FileTree.makeDirectory`, `FileTree.makeDirectories`: one directory, and a directory with those
  that lead to it.
* `FileTree.exists?`: whether something stands where a path leads.
* `FileTree.temporaryName?`, `FileTree.moveOver`, `FileTree.replace`: the temporary file, its move
  in the place of the target, and both together.
* `WriteRequest`, `FileTree.write`: what is to be written where, and the tree after it. A target
  that exists is refused unless it may be overwritten; then the source is checked, then the
  directories are made, then the file is put in place. Source with a surrogate in it has no bytes,
  which is found out when the temporary file is there already.
-/

namespace ShapeTypes

open Text (CodePoint)

namespace Obstacle

/-- The failure that an obstacle causes. -/
def failure : Obstacle → Failure
  | missing => .notFound
  | throughFile => .notADirectory
  | occupied => .fileExists
  | tooLong => .nameTooLong
  | nullCharacter => .nullCharacter

end Obstacle

namespace FileTree

/-- Something stands where the path leads. A path that leads nowhere is no failure, unless it is too
long to be followed. -/
def exists? (tree : FileTree) (steps : List String) : Except Failure Bool :=
  match tree.walk steps with
  | .ok _ => .ok true
  | .error .tooLong => .error .nameTooLong
  | .error _ => .ok false

/-- Makes a directory at a place, which is the child `name` of the directory at `place`. -/
def makeChild (tree : FileTree) (place : Place) (name : String) : Except Obstacle FileTree :=
  match tree.get? place with
  | some (directory children) =>
    if name = Path.upwards then .error .occupied
    else if Path.nameLimit < name.utf8ByteSize then .error .tooLong
    else if (children.lookup name).isSome then .error .occupied
    else .ok (tree.put (place ++ [name]) empty)
  | _ => .error .throughFile

/-- Makes a directory; the path is given by its last step and, backwards, the steps before it. -/
def makeDirectory (tree : FileTree) : List String → Except Obstacle FileTree
  | [] => .error .occupied
  | name :: before =>
    match Path.flaw? (name :: before).reverse with
    | some obstacle => .error obstacle
    | none =>
      match tree.walk before.reverse with
      | .error obstacle => .error obstacle
      | .ok place => tree.makeChild place name

/-- The tree if the path leads to a directory, else the failure of an obstacle. -/
def acceptDirectory (tree : FileTree) (backwards : List String) (obstacle : Obstacle) :
    FileTree × Except Failure Unit :=
  if tree.leadsToDirectory backwards.reverse then (tree, .ok ())
  else (tree, .error obstacle.failure)

/-- Makes a directory and those that lead to it, unless they exist; the steps are given backwards. A
directory whose path leads to nothing is tried again after the one before it is made. -/
def makeDirectories (tree : FileTree) : List String → FileTree × Except Failure Unit
  | [] => (tree, .ok ())
  | name :: before =>
    match tree.makeDirectory (name :: before) with
    | .ok made => (made, .ok ())
    | .error .missing =>
      match makeDirectories tree before with
      | (tree', .error failure) => (tree', .error failure)
      | (tree', .ok ()) =>
        match tree'.makeDirectory (name :: before) with
        | .ok made => (made, .ok ())
        | .error obstacle => tree'.acceptDirectory (name :: before) obstacle
    | .error obstacle => tree.acceptDirectory (name :: before) obstacle

/-- The tree with a directory at a place, and with those that lead to it. -/
def withDirectory (tree : FileTree) (place : Place) : FileTree :=
  (tree.makeDirectories place.reverse).1

/-- The tree with a file at a place, and with the directories that lead to it. -/
def withFile (tree : FileTree) (place : Place) (bytes : ByteArray) : FileTree :=
  (tree.withDirectory place.dropLast).put place (file bytes)

/-- The number of digits that tell temporary files apart. -/
def temporaryDigits : Nat := 8

/-- The name of a temporary file for the file `name`, with a number that tells it apart. -/
def temporaryName (name : String) (number : Nat) : String :=
  let digits := decimal number
  let filler := List.replicate (temporaryDigits - digits.length) '0'
  "." ++ name ++ "." ++ String.ofList (filler ++ digits) ++ ".tmp"

/-- A name for a temporary file that is not taken. -/
def temporaryName? (taken : List String) (name : String) : Option String :=
  ((List.range (taken.length + 1)).map (temporaryName name)).find? fun candidate =>
    !taken.contains candidate

/-- What is wrong with a name in a directory; a path is looked at as a whole before its names. -/
def nameFlaw? (place : Place) (name : String) : Option Obstacle :=
  match Path.flaw? (place ++ [name]) with
  | some obstacle => some obstacle
  | none => if Path.nameLimit < name.utf8ByteSize then some .tooLong else none

/-- Moves a file in the place of the target, which is the child `name` of the directory at `place`;
it must not be a directory. -/
def moveOver (tree : FileTree) (source place : Place) (name : String) : Except Failure FileTree :=
  if name = Path.upwards then .error .busy
  else
    match tree.get? (place ++ [name]), tree.get? source with
    | some (directory _), _ => .error .isADirectory
    | _, some moved => .ok ((tree.remove source).put (place ++ [name]) moved)
    | _, none => .error .notFound

/-- Puts a file in the place of the child `name` of the directory at `place`, by way of a temporary
file beside it, which a failure removes. -/
def replaceChild (tree : FileTree) (content : List CodePoint) (place : Place) (name : String) :
    FileTree × Except Failure Unit :=
  match temporaryName? (((tree.get? place).map childNames).getD []) name with
  | none => (tree, .error .fileExists)
  | some temporary =>
    match nameFlaw? place temporary with
    | some obstacle => (tree, .error obstacle.failure)
    | none =>
      match Text.encode? content with
      | none => (tree, .error .unencodable)
      | some bytes =>
        let staged := tree.put (place ++ [temporary]) (file bytes)
        match staged.moveOver (place ++ [temporary]) place name with
        | .ok moved => (moved, .ok ())
        | .error failure => (staged.remove (place ++ [temporary]), .error failure)

/-- Puts a file in the place of the target, whose steps are given backwards. -/
def replace (tree : FileTree) (content : List CodePoint) :
    List String → FileTree × Except Failure Unit
  | [] => (tree, .error .busy)
  | name :: before =>
    match tree.walk before.reverse with
    | .error obstacle => (tree, .error obstacle.failure)
    | .ok place => tree.replaceChild content place name

end FileTree

/-- What is to be written where. -/
structure WriteRequest where
  /-- The target. -/
  path : Path
  /-- The source. -/
  content : List CodePoint
  /-- What to do when the target exists. -/
  mode : OutputMode
  /-- The source is checked before. -/
  validate : Bool

/-- What has become of a request. -/
structure WriteOutcome where
  /-- The tree afterwards. -/
  tree : FileTree
  /-- The check has been consulted. -/
  checked : Bool
  /-- The result. -/
  result : Except Failure Unit

namespace FileTree

/-- Writes a source that has passed its check, or needs none. -/
def writeChecked (tree : FileTree) (request : WriteRequest) : FileTree × Except Failure Unit :=
  let backwards := request.path.steps.reverse
  match tree.makeDirectories backwards.tail with
  | (tree', .error failure) => (tree', .error failure)
  | (tree', .ok ()) => tree'.replace request.content backwards

/-- Whether the target of a request stands in the way of it. -/
def isRefused (tree : FileTree) (request : WriteRequest) : Except Failure Bool :=
  match request.mode with
  | .keep => tree.exists? request.path.steps
  | .force => .ok false

/-- Writes a source to its target, after a check. -/
def write (tree : FileTree) (check : List CodePoint → Except Failure Unit)
    (request : WriteRequest) : WriteOutcome :=
  match tree.isRefused request with
  | .error failure => ⟨tree, false, .error failure⟩
  | .ok true => ⟨tree, false, .error (.outputExists request.path.text)⟩
  | .ok false =>
    match if request.validate then check request.content else .ok () with
    | .error failure => ⟨tree, request.validate, .error failure⟩
    | .ok () =>
      let (tree', result) := tree.writeChecked request
      ⟨tree', request.validate, result⟩

end FileTree

end ShapeTypes
