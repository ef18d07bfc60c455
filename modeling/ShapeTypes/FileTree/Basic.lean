/-!
# File trees

* `FileTree`: a file with its bytes, or a directory with its named children.
* `FileTree.get?`, `FileTree.put`, `FileTree.remove`: what stands at a place, and the tree with
  something else or nothing there. A place is the list of names that lead to it from the root.
* `FileTree.places`: every place of a tree, with the bytes of the file that stands there.
* `FileTree.changes`: the places in which two trees differ.
-/

namespace ShapeTypes

/-- A file or a directory. -/
inductive FileTree where
  /-- A file with its bytes. -/
  | file (bytes : ByteArray)
  /-- A directory with its children. -/
  | directory (children : List (String × FileTree))

/-- The names that lead from the root of a tree to one of its places. -/
abbrev Place := List String

namespace FileTree

/-- The tree of an empty directory. -/
def empty : FileTree := directory []

/-- The tree is a directory. -/
def isDirectory : FileTree → Bool
  | directory _ => true
  | file _ => false

/-- What stands at a place. -/
def get? : FileTree → Place → Option FileTree
  | tree, [] => some tree
  | directory children, name :: rest => (children.lookup name).bind (get? · rest)
  | file _, _ :: _ => none

/-- The children with one of them replaced or added. -/
def putChild (name : String) (child : FileTree) :
    List (String × FileTree) → List (String × FileTree)
  | [] => [(name, child)]
  | (n, c) :: rest => if n = name then (n, child) :: rest else (n, c) :: putChild name child rest

/-- The tree with something else at a place, whose directory has to exist. -/
def put : FileTree → Place → FileTree → FileTree
  | _, [], new => new
  | directory children, [name], new => directory (putChild name new children)
  | directory children, name :: next :: rest, new =>
    match children.lookup name with
    | some child => directory (putChild name (put child (next :: rest) new) children)
    | none => directory children
  | file bytes, _ :: _, _ => file bytes

/-- The children without those of a name. -/
def removeChild (name : String) (children : List (String × FileTree)) : List (String × FileTree) :=
  children.filter (·.1 != name)

/-- The tree without what stands at a place; the root stays. -/
def remove : FileTree → Place → FileTree
  | directory children, [name] => directory (removeChild name children)
  | directory children, name :: next :: rest =>
    match children.lookup name with
    | some child => directory (putChild name (remove child (next :: rest)) children)
    | none => directory children
  | tree, _ => tree

/-- The names of the children of a directory. -/
def childNames : FileTree → List String
  | directory children => children.map Prod.fst
  | file _ => []

mutual

/-- Every place below a tree that stands at `here`, with the bytes of the file there; a directory
has none. -/
def placesAt (here : Place) : FileTree → List (Place × Option ByteArray)
  | file _ => []
  | directory children => placesIn here children

/-- Every place of the children of a directory that stands at `here`. -/
def placesIn (here : Place) : List (String × FileTree) → List (Place × Option ByteArray)
  | [] => []
  | (name, child) :: rest =>
    let place := here ++ [name]
    let bytes :=
      match child with
      | file bytes => some bytes
      | directory _ => none
    (place, bytes) :: (placesAt place child ++ placesIn here rest)

end

/-- Every place of a tree below its root. -/
def places (tree : FileTree) : List (Place × Option ByteArray) := placesAt [] tree

/-- What has become of a place. -/
inductive Change where
  /-- A file with these bytes stands there now. -/
  | written (bytes : ByteArray)
  /-- A directory stands there now. -/
  | made
  /-- Nothing stands there any more. -/
  | removed

/-- The change to a place that holds the file with these bytes, or a directory. -/
def Change.to : Option ByteArray → Change
  | some bytes => .written bytes
  | none => .made

/-- The places in which two trees differ, with what has become of them. -/
def changes (before after : FileTree) : List (Place × Change) :=
  let old := before.places
  let new := after.places
  let altered := new.filter fun (place, bytes) => old.lookup place != some bytes
  let gone := old.filter fun (place, _) => (new.lookup place).isNone
  altered.map (fun (place, bytes) => (place, Change.to bytes)) ++
    gone.map (fun (place, _) => (place, Change.removed))

@[simp] theorem get?_nil (tree : FileTree) : tree.get? [] = some tree := by
  cases tree <;> rfl

end FileTree

end ShapeTypes
