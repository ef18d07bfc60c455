import ShapeTypes.CommandLine.Run
import ShapeTypes.Proofs.Name.Pascal

/-!
# The name of a root that nobody names

Where neither the command line nor the schema names the root, the file of the schema does: its stem,
without an ending that marks schemas, in Pascal case.

* `CommandLine.stemOf`: the part of the file's name that the root is named after.
* `CommandLine.rootName_of_file`: **this name is an identifier if the first letter or digit of the
  stem is a letter**, and empty if there is none.
* `CommandLine.not_isIdentifier_report`: with a digit as the first of them it is no identifier.
-/

namespace ShapeTypes.CommandLine

/-- The part of a file's name that its root is named after. -/
def stemOf (file : String) : String := withoutSchemaEnding (fileStem file)

/-- The root of a schema without a name is named after the stem of its file. -/
theorem defaultName_concat (directory : Place) (file : String) :
    defaultName (directory ++ [file]) = Name.pascalCase (stemOf file) := by
  rw [defaultName, List.getLast?_concat, Option.getD_some, stemOf]

variable {choices : Choices} {schema : Value}

/-- **The name that a root takes from its file is empty if the stem of the file has no letter and no
digit, and an identifier if the first of them is a letter.** Otherwise it is neither. -/
theorem rootName_of_file (hchoices : choices.name = none) (hschema : namesRoot schema = false)
    (directory : Place) (file : String) :
    ∃ name, rootName choices (directory ++ [file]) schema = .string name ∧
      (name = "" ↔ Name.leading? (stemOf file).toList = none) ∧
      (isIdentifier name = true ↔
        ∃ c, Name.leading? (stemOf file).toList = some c ∧ Name.isLetter c = true) := by
  refine ⟨Name.pascalCase (stemOf file), ?_, Name.pascalCase_eq_empty_iff,
    Name.isIdentifier_pascalCase_iff⟩
  rw [rootName, hchoices, ← defaultName_concat directory file]
  exact if_neg (by rw [hschema]; exact Bool.false_ne_true)

/-- A list of users, in a schema that does not name it. -/
def userList : Value :=
  .object [("type", .string "array"), ("items", .object [("type", .string "object")])]

/-- The list is named after its file, with an identifier. -/
theorem rootName_userList : ({} : Choices).name = none ∧ namesRoot userList = false ∧
    rootName {} ["data", "_user-list.2.schema.json"] userList = .string "UserList2" ∧
    isIdentifier "UserList2" = true := by
  have hname : Name.pascalCase (stemOf "_user-list.2.schema.json") = "UserList2" := by
    decide +kernel
  have hleading : Name.leading? (stemOf "_user-list.2.schema.json").toList = some 'u' := by
    decide +kernel
  have hroot : rootName {} ["data", "_user-list.2.schema.json"] userList = .string "UserList2" := by
    rw [← hname, ← defaultName_concat ["data"]]
    rfl
  have hchoices : ({} : Choices).name = none := rfl
  have hschema : namesRoot userList = false := rfl
  obtain ⟨name, hrooted, -, hidentifier⟩ :=
    rootName_of_file hchoices hschema ["data"] "_user-list.2.schema.json"
  cases hroot.symm.trans hrooted
  exact ⟨hchoices, hschema, hroot, hidentifier.mpr ⟨'u', hleading, by decide⟩⟩

/-- The root of a report that is named after its year is no identifier. -/
theorem not_isIdentifier_report : ({} : Choices).name = none ∧ namesRoot userList = false ∧
    rootName {} ["2024-report.schema.json"] userList = .string "2024Report" ∧
    "2024Report" ≠ "" ∧ isIdentifier "2024Report" = false := by
  have hname : Name.pascalCase (stemOf "2024-report.schema.json") = "2024Report" := by
    decide +kernel
  refine ⟨rfl, rfl, ?_, by decide, by decide⟩
  rw [← hname, ← defaultName_concat []]
  rfl

end ShapeTypes.CommandLine
