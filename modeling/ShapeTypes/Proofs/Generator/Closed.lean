import ShapeTypes.Generator
import ShapeTypes.Proofs.Decl.Unique
import ShapeTypes.Proofs.Shape.Grounded

/-!
# The declarations of a document

What a run that succeeds hands over for rendering, whatever repetitions it dropped.

* `Generator.declarations_eq_ok`: a run succeeds with what is kept of the declarations of its
  schema, the last one first.
* `Generator.compiled_of_declarations`, `Generator.exists_name_of_declarations`,
  `Generator.nodup_names_of_declarations`, `Generator.closed_of_declarations`: the declarations are
  compiled ones, have distinct texts as names, and refer to each other only.
* `Generator.declarations_selfContained`: **a document is self-contained**. It starts with the
  declaration that was put out last, the root; names are distinct and not empty; every reference is
  the name of exactly one declaration.
-/

namespace ShapeTypes

namespace Decl

/-- Among distinct names, one that occurs is the name of exactly one declaration. -/
theorem existsUnique_of_nodup {decls : List Decl} (hnodup : (decls.map Decl.name).Nodup)
    {name : Value} (h : name ∈ decls.map Decl.name) :
    ∃! i : Fin decls.length, decls[i].name = name := by
  obtain ⟨decl, hdecl, rfl⟩ := List.mem_map.mp h
  obtain ⟨i, hi, rfl⟩ := List.mem_iff_getElem.mp hdecl
  refine ⟨⟨i, hi⟩, rfl, ?_⟩
  rintro ⟨j, hj⟩ heq
  have hi' : i < (decls.map Decl.name).length := by simpa using hi
  have hj' : j < (decls.map Decl.name).length := by simpa using hj
  have hmap : (decls.map Decl.name).get ⟨j, hj'⟩ = (decls.map Decl.name).get ⟨i, hi'⟩ := by
    simpa using heq
  have hindex := hnodup.injective_get hmap
  exact Fin.ext (Fin.mk.inj hindex)

end Decl

namespace Generator

variable {generator : Generator} {decls : List Decl}

/-- A run succeeds if the schema is read and declared and repetitions can be dropped. -/
theorem declarations_eq_ok : generator.declarations.result = .ok decls ↔
    ∃ shape emitted root kept dropped, generator.root = .ok shape ∧
      Shape.declareRoot generator.config.ignoreFields shape = ⟨emitted, .ok root⟩ ∧
      Decl.unique emitted = .ok (kept, dropped) ∧ decls = kept.reverse := by
  constructor
  · intro h
    obtain ⟨items, hrun⟩ : ∃ items, generator.declarations = ⟨items, .ok decls⟩ :=
      ⟨_, Traced.eq_of_result h⟩
    unfold declarations at hrun
    obtain ⟨shape, hshape, hrun⟩ := Traced.ofExcept_bind_eq_ok.mp hrun
    dsimp only at hrun
    obtain ⟨_, _, _, -, hrun, -⟩ := Traced.bind_eq_ok.mp hrun
    obtain ⟨root, hroot, hrun⟩ := Traced.ofExcept_bind_eq_ok.mp hrun
    obtain ⟨⟨kept, dropped⟩, hunique, hrun⟩ := Traced.ofExcept_bind_eq_ok.mp hrun
    obtain ⟨_, _, _, -, hrun, -⟩ := Traced.bind_eq_ok.mp hrun
    obtain ⟨_, _, _, -, hrun, -⟩ := Traced.bind_eq_ok.mp hrun
    have hkept := Except.ok.inj (congrArg Traced.result hrun)
    exact ⟨shape, _, root, kept, dropped, hshape, Traced.eq_of_result hroot, hunique, hkept.symm⟩
  · rintro ⟨shape, emitted, root, kept, dropped, hshape, hroot, hunique, rfl⟩
    simp [declarations, Traced.ofExcept, hshape, hroot, hunique, Traced.emitAll, Traced.emit]

/-- What a run hands over comes from declarations that a schema puts out. -/
theorem exists_kept (h : generator.declarations.result = .ok decls) :
    ∃ shape emitted root kept, generator.root = .ok shape ∧
      Shape.declareRoot generator.config.ignoreFields shape = ⟨emitted, .ok root⟩ ∧
      (∀ decl ∈ emitted, decl.Compiled) ∧ Decl.Closed emitted ∧
      Decl.Kept kept emitted ∧ decls = kept.reverse := by
  obtain ⟨shape, emitted, root, kept, dropped, hshape, hroot, hunique, rfl⟩ :=
    declarations_eq_ok.mp h
  have hgrounded := Shape.grounded_declareRoot generator.config.ignoreFields shape []
  rw [hroot] at hgrounded
  exact ⟨shape, emitted, root, kept, hshape, hroot, hgrounded.compiled, hgrounded.resolves.closed,
    Decl.kept_of_unique hunique, rfl⟩

/-- The declarations of a document are compiled ones. -/
theorem compiled_of_declarations (h : generator.declarations.result = .ok decls) :
    ∀ decl ∈ decls, decl.Compiled := by
  obtain ⟨-, emitted, -, kept, -, -, hcompiled, -, hkept, rfl⟩ := exists_kept h
  intro decl hdecl
  exact hcompiled decl (hkept.sublist.subset (List.mem_reverse.mp hdecl))

/-- The declarations of a document are named by texts that are not empty. -/
theorem exists_name_of_declarations (h : generator.declarations.result = .ok decls) :
    ∀ decl ∈ decls, ∃ s, s ≠ "" ∧ decl.name = .string s := by
  obtain ⟨-, emitted, -, kept, -, -, hcompiled, -, hkept, rfl⟩ := exists_kept h
  intro decl hdecl
  have hmem := hkept.sublist.subset (List.mem_reverse.mp hdecl)
  obtain ⟨s, hs⟩ := hkept.exists_name (fun d hd => (hcompiled d hd).parameters) decl hmem
  have htruthy := (hcompiled decl hmem).name
  rw [hs, Value.truthy_string] at htruthy
  exact ⟨s, htruthy, hs⟩

/-- The declarations of a document have distinct names. -/
theorem nodup_names_of_declarations (h : generator.declarations.result = .ok decls) :
    (decls.map Decl.name).Nodup := by
  obtain ⟨-, emitted, -, kept, -, -, hcompiled, -, hkept, rfl⟩ := exists_kept h
  rw [List.map_reverse, List.nodup_reverse]
  exact hkept.nodup_names fun decl hdecl => (hcompiled decl hdecl).parameters

/-- The declarations of a document refer to each other only. -/
theorem closed_of_declarations (h : generator.declarations.result = .ok decls) :
    Decl.Closed decls := by
  obtain ⟨-, emitted, -, kept, -, -, hcompiled, hclosed, hkept, rfl⟩ := exists_kept h
  have hkclosed := hkept.closed (fun decl hdecl => (hcompiled decl hdecl).parameters) hclosed
  intro decl hdecl name hname
  rw [List.map_reverse, List.mem_reverse]
  exact hkclosed decl (List.mem_reverse.mp hdecl) name hname

/-- The declarations of a document start with the one that was put out last and that the answer for
the schema refers to. -/
theorem exists_root_of_declarations (h : generator.declarations.result = .ok decls) :
    ∃ shape before root rest, generator.root = .ok shape ∧
      Shape.declareRoot generator.config.ignoreFields shape =
        ⟨before ++ [root], .ok (.reference root.name)⟩ ∧
      decls = root :: rest := by
  obtain ⟨shape, emitted, type, kept, hshape, hroot, -, -, hkept, rfl⟩ := exists_kept h
  obtain ⟨before, root, rfl, rfl⟩ := Shape.exists_last_of_declareRoot hroot
  have hlast : kept.reverse.head? = some root := by
    rw [List.head?_reverse, hkept.last, List.getLast?_concat]
  exact ⟨shape, before, root, kept.reverse.tail, hshape, hroot, (List.cons_head?_tail hlast).symm⟩

/-- **A document is self-contained.** The declarations of a run that succeeds start with the one
that was put out last and that the answer for the schema refers to; their names are distinct and not
empty; and every reference in them, at any depth, is the name of exactly one of them. -/
theorem declarations_selfContained (h : generator.declarations.result = .ok decls) :
    ∃ shape before root rest, generator.root = .ok shape ∧
      Shape.declareRoot generator.config.ignoreFields shape =
        ⟨before ++ [root], .ok (.reference root.name)⟩ ∧
      decls = root :: rest ∧
      (∀ decl ∈ decls, ∃ s, s ≠ "" ∧ decl.name = .string s) ∧
      (decls.map Decl.name).Nodup ∧
      ∀ decl ∈ decls, ∀ name ∈ decl.references, ∃! i : Fin decls.length, decls[i].name = name := by
  have hnodup := nodup_names_of_declarations h
  have hclosed := closed_of_declarations h
  obtain ⟨shape, before, root, rest, hshape, hroot, hdecls⟩ := exists_root_of_declarations h
  refine ⟨shape, before, root, rest, hshape, hroot, hdecls, exists_name_of_declarations h, hnodup,
    ?_⟩
  intro decl hdecl name hname
  exact Decl.existsUnique_of_nodup hnodup (hclosed decl hdecl name hname)

/-- An order with two addresses of one name. -/
def order : Generator where
  schema := .shape (.object { name := .string "Order" }
    [.object { key := .string "billing", name := .string "Address" }
        [.boolean { key := .string "verified" }],
      .object { key := .string "shipping", name := .string "Address" }
        [.string { key := .string "street" } .null]])
  config := {}
  name := .null

/-- The declarations of the order: the second address stands for both. -/
def orderDecls : List Decl :=
  [.record (.string "Order")
      [⟨.string "billing", .reference (.string "Address"), .bool false⟩,
        ⟨.string "shipping", .reference (.string "Address"), .bool false⟩],
    .record (.string "Address") [⟨.string "street", .keyword (.string "string"), .bool false⟩]]

/-- Both references of the order lead to the address that is kept. -/
theorem order_selfContained : order.declarations.result = .ok orderDecls ∧
    (orderDecls.map Decl.name).Nodup ∧
    ∀ decl ∈ orderDecls, ∀ name ∈ decl.references,
      ∃! i : Fin orderDecls.length, orderDecls[i].name = name := by
  have h : order.declarations.result = .ok orderDecls := rfl
  obtain ⟨-, -, -, -, -, -, -, -, hnodup, hunique⟩ := declarations_selfContained h
  exact ⟨h, hnodup, hunique⟩

end Generator

end ShapeTypes
