import ShapeTypes.Failure

/-!
# Ignored keys

* `Value.holds`: whether a value holds a key.
* `Ignored`, `Ignored.hides`: the keys that are left out, and whether a key is among them.
-/

namespace ShapeTypes

namespace Text

/-- The characters of `needle` stand somewhere in a text, one after the other. -/
def occursIn (needle : List Char) : List Char → Bool
  | [] => needle.isEmpty
  | c :: cs => needle.isPrefixOf (c :: cs) || occursIn needle cs

end Text

/-- Whether a value holds a key: as an item of a list, a part of a text, or a key of an object.
Other values hold nothing, and a part or a key has to be of a fitting kind. -/
def Value.holds (holder key : Value) : Except Failure Bool :=
  match holder, key with
  | .list items, key => .ok (items.any (Value.eqv key))
  | .string text, .string part => .ok (Text.occursIn part.toList text.toList)
  | .object entries, .string name => .ok (entries.any (·.1 == name))
  | .object _, .list _ => .error .wrongKind
  | .object _, .object _ => .error .wrongKind
  | .object _, _ => .ok false
  | _, _ => .error .wrongKind

/-- What holds the keys that are left out; a configuration can have lost it. -/
abbrev Ignored := Option Value

/-- A list of keys that are left out. -/
abbrev Ignored.list (keys : List Value) : Ignored := some (.list keys)

/-- Whether a key is among the keys that are left out. -/
def Ignored.hides (ignored : Ignored) (key : Value) : Except Failure Bool :=
  match ignored with
  | none => .error .noSuchPart
  | some holder => holder.holds key

end ShapeTypes
