import ShapeTypes.FileTree.Basic

/-!
# What stands at a place of a tree

* `FileTree.Entry`, `FileTree.entryAt?`: what stands at a place by itself, a file with its bytes or
  a directory, whatever is below it.
* `FileTree.entryAt?_put_self`, `FileTree.entryAt?_put_of_not_isPrefix`: **putting something at a
  place changes what stands there and below, and nothing else**.
* `FileTree.remove_put`: **removing a new child gives back the tree**.
-/

namespace ShapeTypes

namespace FileTree

/-- What stands at a place by itself. -/
inductive Entry where
  /-- A file with its bytes. -/
  | file (bytes : ByteArray)
  /-- A directory. -/
  | directory

/-- What the root of a tree is. -/
def entry : FileTree → Entry
  | file bytes => .file bytes
  | directory _ => .directory

/-- What stands at a place by itself. -/
def entryAt? (tree : FileTree) (place : Place) : Option Entry := (tree.get? place).map entry

variable {tree child new : FileTree} {children : List (String × FileTree)} {place other : Place}
  {name : String}

/-! ## Reading -/

/-- What stands below a child of a directory. -/
theorem get?_cons (children : List (String × FileTree)) (name : String) (rest : Place) :
    (directory children).get? (name :: rest) = (children.lookup name).bind (get? · rest) := rfl

/-- What stands at a place below a place. -/
theorem get?_append (tree : FileTree) (place rest : Place) :
    tree.get? (place ++ rest) = (tree.get? place).bind (get? · rest) := by
  induction place generalizing tree with
  | nil => rw [List.nil_append, get?_nil, Option.bind_some]
  | cons name place ih =>
      cases tree with
      | file bytes => rfl
      | directory children =>
          rw [List.cons_append, get?_cons, get?_cons]
          cases children.lookup name with
          | none => rfl
          | some child => exact ih child

/-- The child of a directory that stands at a place. -/
theorem get?_concat (h : tree.get? place = some (directory children)) (name : String) :
    tree.get? (place ++ [name]) = children.lookup name := by
  rw [get?_append, h, Option.bind_some, get?_cons]
  cases children.lookup name with
  | none => rfl
  | some child => exact get?_nil child

/-- Nothing stands at a place. -/
theorem entryAt?_eq_none : tree.entryAt? place = none ↔ tree.get? place = none := by
  rw [entryAt?, Option.map_eq_none_iff]

/-- A directory stands at a place. -/
theorem entryAt?_eq_directory : tree.entryAt? place = some .directory ↔
    ∃ children, tree.get? place = some (directory children) := by
  rw [entryAt?, Option.map_eq_some_iff]
  constructor
  · rintro ⟨found, hfound, hentry⟩
    cases found with
    | file bytes => cases hentry
    | directory children => exact ⟨children, hfound⟩
  · rintro ⟨children, hfound⟩
    exact ⟨_, hfound, rfl⟩

/-- Below nothing stands nothing. -/
theorem entryAt?_append_of_none (h : tree.entryAt? place = none) (rest : Place) :
    tree.entryAt? (place ++ rest) = none := by
  rw [entryAt?_eq_none] at h ⊢
  rw [get?_append, h, Option.bind_none]

/-- What leads on from a place is a directory. -/
theorem entryAt?_of_append {rest : Place} (hrest : rest ≠ [])
    (h : tree.entryAt? (place ++ rest) ≠ none) : tree.entryAt? place = some .directory := by
  obtain ⟨name, rest, rfl⟩ := List.exists_cons_of_ne_nil hrest
  rw [Ne, entryAt?_eq_none, get?_append] at h
  cases hplace : tree.get? place with
  | none =>
      rw [hplace] at h
      exact absurd rfl h
  | some found =>
      cases found with
      | file bytes =>
          rw [hplace] at h
          exact absurd rfl h
      | directory children => exact entryAt?_eq_directory.mpr ⟨children, hplace⟩

/-- On the way to a directory stand directories. -/
theorem entryAt?_of_isPrefix (hstart : other <+: place)
    (h : tree.entryAt? place = some .directory) :
    tree.entryAt? other = some .directory := by
  obtain ⟨rest, rfl⟩ := hstart
  by_cases hrest : rest = []
  · rwa [hrest, List.append_nil] at h
  · exact entryAt?_of_append hrest (by rw [h]; exact Option.some_ne_none _)

/-! ## Children -/

/-- Replacing or adding a child changes what is found under its name only. -/
theorem lookup_putChild (name other : String) (child : FileTree)
    (children : List (String × FileTree)) :
    (putChild name child children).lookup other =
      if other = name then some child else children.lookup other := by
  induction children with
  | nil =>
      rw [putChild, List.lookup_cons]
      by_cases h : other = name
      · rw [beq_iff_eq.mpr h, if_pos h]
      · rw [beq_eq_false_iff_ne.mpr h, if_neg h]
  | cons entry rest ih =>
      obtain ⟨n, c⟩ := entry
      rw [putChild]
      by_cases hn : n = name
      · subst hn
        rw [if_pos rfl, List.lookup_cons, List.lookup_cons]
        by_cases h : other = n
        · rw [beq_iff_eq.mpr h, if_pos h]
        · rw [beq_eq_false_iff_ne.mpr h, if_neg h]
      · rw [if_neg hn, List.lookup_cons, List.lookup_cons, ih]
        by_cases h : other = n
        · have hne : other ≠ name := h ▸ hn
          rw [beq_iff_eq.mpr h, if_neg hne, if_neg hne]
        · rw [beq_eq_false_iff_ne.mpr h]

/-- Replacing a child by itself changes nothing. -/
theorem putChild_of_lookup (h : children.lookup name = some child) :
    putChild name child children = children := by
  induction children with
  | nil => cases h
  | cons entry rest ih =>
      obtain ⟨n, c⟩ := entry
      rw [List.lookup_cons] at h
      rw [putChild]
      by_cases hn : n = name
      · rw [beq_iff_eq.mpr hn.symm] at h
        cases h
        rw [if_pos hn]
      · rw [beq_eq_false_iff_ne.mpr (Ne.symm hn)] at h
        rw [if_neg hn, ih h]

/-- Of two replacements of a child the second one counts. -/
theorem putChild_putChild (name : String) (child new : FileTree)
    (children : List (String × FileTree)) :
    putChild name new (putChild name child children) = putChild name new children := by
  induction children with
  | nil => rw [putChild, putChild, putChild, if_pos rfl]
  | cons entry rest ih =>
      obtain ⟨n, c⟩ := entry
      rw [putChild, putChild]
      by_cases hn : n = name
      · rw [if_pos hn, if_pos hn, putChild, if_pos hn]
      · rw [if_neg hn, if_neg hn, putChild, if_neg hn, ih]

/-- Removing a child that was added gives back the children. -/
theorem removeChild_putChild (h : name ∉ children.map Prod.fst) (child : FileTree) :
    removeChild name (putChild name child children) = children := by
  induction children with
  | nil => simp [putChild, removeChild]
  | cons entry rest ih =>
      obtain ⟨n, c⟩ := entry
      rw [List.map_cons, List.mem_cons, not_or] at h
      have hn : n ≠ name := Ne.symm h.1
      have htail := ih h.2
      rw [putChild, if_neg hn]
      unfold removeChild at htail ⊢
      rw [List.filter_cons, if_pos (bne_iff_ne.mpr hn), htail]

/-! ## Putting and removing -/

/-- Putting something below a child puts it into the child. -/
theorem put_cons {rest : Place} (h : children.lookup name = some child) (hrest : rest ≠ []) :
    (directory children).put (name :: rest) new =
      directory (putChild name (child.put rest new) children) := by
  obtain ⟨next, rest, rfl⟩ := List.exists_cons_of_ne_nil hrest
  rw [put, h]

/-- Removing something below a child removes it from the child. -/
theorem remove_cons {rest : Place} (h : children.lookup name = some child) (hrest : rest ≠ []) :
    (directory children).remove (name :: rest) =
      directory (putChild name (child.remove rest) children) := by
  obtain ⟨next, rest, rfl⟩ := List.exists_cons_of_ne_nil hrest
  rw [remove, h]

/-- The first step on the way to a directory leads to a child. -/
theorem exists_child {rest : Place}
    (h : tree.get? (name :: rest) = some (directory children)) :
    ∃ siblings child, tree = directory siblings ∧ siblings.lookup name = some child ∧
      child.get? rest = some (directory children) := by
  cases tree with
  | file bytes => cases h
  | directory siblings =>
      obtain ⟨child, hchild, hrest⟩ := Option.bind_eq_some_iff.mp h
      exact ⟨siblings, child, rfl, hchild, hrest⟩

/-- What is put at a place stands there. -/
theorem get?_put_self (hplace : tree.get? place = some (directory children)) (name : String)
    (new : FileTree) (rest : Place) :
    (tree.put (place ++ [name]) new).get? (place ++ name :: rest) = new.get? rest := by
  induction place generalizing tree with
  | nil =>
      rw [get?_nil] at hplace
      cases hplace
      rw [List.nil_append, List.nil_append, put, get?_cons, lookup_putChild, if_pos rfl,
        Option.bind_some]
  | cons first place ih =>
      obtain ⟨siblings, child, rfl, hchild, hrest⟩ := exists_child hplace
      rw [List.cons_append, List.cons_append, put_cons hchild (by simp), get?_cons,
        lookup_putChild, if_pos rfl, Option.bind_some]
      exact ih hrest

/-- What is put at a place stands there by itself. -/
theorem entryAt?_put_self (hplace : tree.get? place = some (directory children)) (name : String)
    (new : FileTree) :
    (tree.put (place ++ [name]) new).entryAt? (place ++ [name]) = some new.entry := by
  rw [entryAt?, get?_put_self hplace, get?_nil]
  rfl

/-- **What is put at a place changes nothing outside of it.** -/
theorem entryAt?_put_of_not_isPrefix (hplace : tree.get? place = some (directory children))
    (hother : ¬ place ++ [name] <+: other) (new : FileTree) :
    (tree.put (place ++ [name]) new).entryAt? other = tree.entryAt? other := by
  induction place generalizing tree other with
  | nil =>
      rw [get?_nil] at hplace
      cases hplace
      cases other with
      | nil => rfl
      | cons first rest =>
          have hne : first ≠ name := by
            rintro rfl
            exact hother (List.prefix_append [first] rest)
          rw [List.nil_append, put, entryAt?, entryAt?, get?_cons, get?_cons, lookup_putChild,
            if_neg hne]
  | cons first place ih =>
      obtain ⟨siblings, child, rfl, hchild, hrest⟩ := exists_child hplace
      rw [List.cons_append, put_cons hchild (by simp)]
      cases other with
      | nil => rfl
      | cons second rest =>
          rw [entryAt?, entryAt?, get?_cons, get?_cons, lookup_putChild]
          by_cases hsecond : second = first
          · subst hsecond
            rw [if_pos rfl, hchild, Option.bind_some, Option.bind_some]
            refine ih hrest fun hstart => hother ?_
            rw [List.cons_append]
            exact List.cons_prefix_cons.mpr ⟨rfl, hstart⟩
          · rw [if_neg hsecond]

/-- **Removing a new child gives back the tree.** -/
theorem remove_put (hplace : tree.get? place = some (directory children))
    (hname : name ∉ children.map Prod.fst) (new : FileTree) :
    (tree.put (place ++ [name]) new).remove (place ++ [name]) = tree := by
  induction place generalizing tree with
  | nil =>
      rw [get?_nil] at hplace
      cases hplace
      rw [List.nil_append, put, remove, removeChild_putChild hname]
  | cons first place ih =>
      obtain ⟨siblings, child, rfl, hchild, hrest⟩ := exists_child hplace
      have hlookup : (putChild first (child.put (place ++ [name]) new) siblings).lookup first =
          some (child.put (place ++ [name]) new) := by
        rw [lookup_putChild, if_pos rfl]
      rw [List.cons_append, put_cons hchild (by simp), remove_cons hlookup (by simp), ih hrest,
        putChild_putChild, putChild_of_lookup hchild]

end FileTree

end ShapeTypes
