import ShapeTypes.Name.Singular
import ShapeTypes.Text.UpperCase

/-!
# Derived names

An anonymous shape is named after the property that it sits in: an object after its capitalised key,
the elements of an array after the array, in the singular.

* `isPlural`: a noun that differs from its singular.
* `elementName`: the name of an element of a collection.
* `capitalized`: the name with its first character in upper case.
-/

namespace ShapeTypes.Name

open ShapeTypes.Text

/-- The name is a plural: its singular is another word. -/
def isPlural (name : String) : Bool := name != "" && singular name != name

/-- The endings that mark the name of a collection. -/
def collectionEndings : List String := ["List", "Array"]

/-- The ending that marks the name of an element. -/
def itemEnding : String := "Item"

/-- The name with the ending of a collection, if it is more than that ending, replaced by the ending
of an element. -/
def replaceEnding? (name ending : String) : Option String :=
  let stem := name.length - ending.length
  if ending.length < name.length ∧ name.toList.drop stem = ending.toList then
    some (String.ofList (name.toList.take stem) ++ itemEnding)
  else none

/-- The name of an element of the collection `name`: the singular of a plural; else the ending of a
collection gives way to that of an element, or the latter is added. -/
def elementName (name : String) : String :=
  if name = "" then itemEnding
  else if isPlural name then singular name
  else (collectionEndings.findSome? (replaceEnding? name)).getD (name ++ itemEnding)

/-- The characters with the first one in upper case. -/
def capitalizedChars : List Char → List Char
  | [] => []
  | c :: cs => upperCase c ++ cs

/-- The name with its first character in upper case. -/
def capitalized (name : String) : String := String.ofList (capitalizedChars name.toList)

@[simp] theorem capitalized_empty : capitalized "" = "" := rfl

@[simp] theorem elementName_empty : elementName "" = "Item" := rfl

end ShapeTypes.Name
