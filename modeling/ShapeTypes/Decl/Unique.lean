import ShapeTypes.Decl.Basic

/-!
# Declarations without repetition

Of the declarations that count as the same only the last one is kept; the others are told apart by
counting: a first pass counts the bearers of every identity, a second one drops a bearer as long as
another one is to come.

* `Tally`: how many bearers of each key are to come.
* `Tally.keepLast`: the second pass, over any items with keys.
* `Decl.unique`: the declarations that are kept, and the identities of those that are dropped.
-/

namespace ShapeTypes

/-- How often each key is to come; a key that is not listed is not to come. -/
structure Tally where
  /-- The keys with their numbers. -/
  counts : List (String × Nat)

namespace Tally

/-- How often a key is to come. -/
def get (tally : Tally) (key : String) : Nat := (tally.counts.lookup key).getD 0

/-- The list with the number of a key replaced. -/
def setIn (key : String) (count : Nat) : List (String × Nat) → List (String × Nat)
  | [] => [(key, count)]
  | (k, n) :: rest => if k = key then (k, count) :: rest else (k, n) :: setIn key count rest

/-- The tally with the number of a key replaced. -/
def set (tally : Tally) (key : String) (count : Nat) : Tally := ⟨setIn key count tally.counts⟩

/-- The tally of a list of keys. -/
def ofKeys (keys : List String) : Tally :=
  keys.foldl (fun tally key => tally.set key (tally.get key + 1)) ⟨[]⟩

/-- The items that no later item shares its key with, and the keys of the others, each in order.
While more than one bearer of a key is to come, the next one is dropped and counted. -/
def keepLast {α : Type} (tally : Tally) : List (String × α) → List α × List String
  | [] => ([], [])
  | (key, item) :: rest =>
    if 1 < tally.get key then
      let (kept, dropped) := keepLast (tally.set key (tally.get key - 1)) rest
      (kept, key :: dropped)
    else
      let (kept, dropped) := keepLast tally rest
      (item :: kept, dropped)

end Tally

/-- The items that no later item shares its key with, and the keys of the others. -/
def lastOfEach {α : Type} (items : List (String × α)) : List α × List String :=
  (Tally.ofKeys (items.map Prod.fst)).keepLast items

/-- The keys of a list of things, the first failure deciding. -/
def identities {α : Type} (identity : α → Except Failure String) :
    List α → Except Failure (List String)
  | [] => .ok []
  | x :: rest =>
    match identity x with
    | .error failure => .error failure
    | .ok key => (identities identity rest).map (key :: ·)

/-- The declarations that no later one counts as the same as, and the identities of the others. -/
def Decl.unique (decls : List Decl) : Except Failure (List Decl × List String) :=
  (identities Decl.identity? decls).map fun keys => lastOfEach (keys.zip decls)

end ShapeTypes
