import ShapeTypes.Proofs.Decl.Early
import ShapeTypes.Proofs.Session
import ShapeTypes.Proofs.Shape.Named

/-!
# Dropping repetitions early in a session

A session may drop repetitions at any time. Unless it is rendered in between, nobody can tell: the
steps that declare never look at the declarations that are there.

* `Step.HasTextNames`: what a step puts out is named by texts.
* `Session.Agrees`: **the invariant** between a session in which repetitions have been dropped and
  one in which they have not: the configuration is the same, and so is what is kept in the end.
* `Session.perform_agrees`, `Session.perform_unique_agrees`: **one step keeps it**, whether both
  sessions take the step or only one of them drops repetitions.
* `Session.run_agrees`: so do all steps of a run, with the same answers;
  `Session.unique_run_of_padded`: the statement for steps between which others drop repetitions.
-/

namespace ShapeTypes

namespace Step

/-- The step drops repetitions. -/
def isUnique : Step → Bool
  | unique => true
  | _ => false

/-- There is one such step. -/
theorem eq_unique_of_isUnique {step : Step} (h : step.isUnique = true) : step = unique := by
  unfold isUnique at h
  split at h
  · rfl
  · contradiction

/-- What the step adds to the declarations of a session is named by texts. -/
def HasTextNames : Step → Prop
  | object shape _ | type shape _ | property shape => shape.HasTextNames
  | emit (.declaration decl) => ∃ s, decl.name = .string s
  | _ => True

end Step

namespace Session

/-- The answers to the steps besides those that drop repetitions. -/
def otherAnswers (session : Session) (steps : List Step) : List (Except Failure Reply) :=
  ((steps.zip (session.run steps).2).filter fun p => !p.1.isUnique).map Prod.snd

/-- A step that drops repetitions adds no answer. -/
theorem otherAnswers_cons_of_unique (session : Session) {step : Step} (h : step.isUnique = true)
    (rest : List Step) :
    session.otherAnswers (step :: rest) = (session.perform step).1.otherAnswers rest := by
  unfold otherAnswers
  rw [run, List.zip_cons_cons, List.filter_cons_of_neg (by simp [h])]

/-- Any other step adds its answer. -/
theorem otherAnswers_cons (session : Session) {step : Step} (h : step.isUnique = false)
    (rest : List Step) : session.otherAnswers (step :: rest) =
      (session.perform step).2 :: (session.perform step).1.otherAnswers rest := by
  unfold otherAnswers
  rw [run, List.zip_cons_cons, List.filter_cons_of_pos (by simp [h]), List.map_cons]

/-- The configuration of the two sessions is the same, and so is what is kept of their declarations.
-/
structure Agrees (session other : Session) : Prop where
  /-- The configuration is the same. -/
  config : session.config = other.config
  /-- The same declarations are kept. -/
  kept : Decl.SameKept session.declarations other.declarations

variable {session other : Session}

/-- A computation that puts out named declarations may be absorbed by both sessions. -/
theorem Agrees.absorb {α : Type} (h : session.Agrees other) {c : Declaring α} (hc : c.Named)
    (reply : α → Reply) : (session.absorb c reply).2 = (other.absorb c reply).2 ∧
      (session.absorb c reply).1.Agrees (other.absorb c reply).1 :=
  ⟨rfl, h.config, h.kept.append hc⟩

/-- **A step that neither drops repetitions nor renders has the same answer in both sessions**, and
they still agree behind it. -/
theorem perform_agrees (h : session.Agrees other) {step : Step} (hnames : step.HasTextNames)
    (hunique : step.isUnique = false) (hrender : step ≠ .render) :
    (session.perform step).2 = (other.perform step).2 ∧
      (session.perform step).1.Agrees (other.perform step).1 := by
  cases step with
  | root shape =>
      refine ⟨?_, h⟩
      simp only [perform, h.config]
  | object shape derived =>
      simp only [perform, h.config]
      exact h.absorb (Shape.named_declareObject _ hnames derived) _
  | type shape derived =>
      simp only [perform, h.config]
      exact h.absorb (Shape.named_declareType _ hnames derived) _
  | property shape =>
      simp only [perform, h.config]
      exact h.absorb (Shape.named_declareProperty _ hnames) _
  | emit candidate =>
      cases candidate with
      | declaration decl =>
          have hdecl : (declare decl).Named := List.forall_mem_singleton.mpr hnames
          exact h.absorb hdecl _
      | foreign value => exact ⟨rfl, h⟩
  | unique => cases hunique
  | ignore keys =>
      refine ⟨rfl, ?_, h.kept⟩
      simp only [perform, h.config]
  | render => exact absurd rfl hrender

/-- One of the sessions may drop repetitions, which succeeds. -/
theorem perform_unique_agrees (h : session.Agrees other) :
    (session.perform .unique).2 = .ok .done ∧ (session.perform .unique).1.Agrees other := by
  obtain ⟨kept, dropped, hunique, hsame⟩ := h.kept.unique_left
  simp only [perform, hunique]
  exact ⟨trivial, h.config, hsame⟩

/-- **Two sessions agree along a run in which only one of them drops repetitions**, and give the
same answers to all other steps. -/
theorem run_agrees (h : session.Agrees other) {steps : List Step}
    (hnames : ∀ step ∈ steps, step.HasTextNames) (hrender : .render ∉ steps) :
    session.otherAnswers steps = (other.run (steps.filter fun step => !step.isUnique)).2 ∧
      (session.run steps).1.Agrees
        (other.run (steps.filter fun step => !step.isUnique)).1 := by
  induction steps generalizing session other with
  | nil => exact ⟨rfl, h⟩
  | cons step rest ih =>
      obtain ⟨hstep, hrest⟩ := List.forall_mem_cons.mp hnames
      rw [List.mem_cons, not_or] at hrender
      cases hunique : step.isUnique with
      | true =>
          -- only the first session takes the step, and its answer is not counted
          obtain rfl := Step.eq_unique_of_isUnique hunique
          rw [otherAnswers_cons_of_unique session rfl, List.filter_cons_of_neg (by simp [hunique])]
          exact ih (perform_unique_agrees h).2 hrest hrender.2
      | false =>
          obtain ⟨hanswer, hnext⟩ := perform_agrees h hstep hunique (Ne.symm hrender.1)
          obtain ⟨hanswers, hagrees⟩ := ih hnext hrest hrender.2
          rw [otherAnswers_cons session hunique, List.filter_cons_of_pos (by simp [hunique]),
            hanswer, hanswers]
          exact ⟨rfl, hagrees⟩

/-- **Dropping repetitions early is harmless.** Let steps be taken in a session whose declarations
are named by texts, whether they succeed or fail, and let what they put out be named by texts too.
Put steps that drop repetitions in between, as many and wherever: the answers to the given steps
are the same, and so are the declarations that are kept when repetitions are dropped at the end. -/
theorem unique_run_of_padded (hsession : ∀ decl ∈ session.declarations, ∃ s, decl.name = .string s)
    {steps padded : List Step} (hpadded : (padded.filter fun step => !step.isUnique) = steps)
    (hnames : ∀ step ∈ steps, step.HasTextNames) (hrender : .render ∉ steps) :
    session.otherAnswers padded = (session.run steps).2 ∧
      ∃ kept dropped dropped',
        Decl.unique (session.run steps).1.declarations = .ok (kept, dropped) ∧
        Decl.unique (session.run padded).1.declarations = .ok (kept, dropped') := by
  have hstart : session.Agrees session := ⟨rfl, Decl.SameKept.refl hsession⟩
  have hgiven : ∀ step ∈ padded, step.isUnique = false → step ∈ steps := by
    intro step hstep hother
    rw [← hpadded]
    exact List.mem_filter.mpr ⟨hstep, by simp [hother]⟩
  have hpaddedNames : ∀ step ∈ padded, step.HasTextNames := by
    intro step hstep
    cases hunique : step.isUnique with
    | true =>
        rw [Step.eq_unique_of_isUnique hunique]
        trivial
    | false => exact hnames step (hgiven step hstep hunique)
  obtain ⟨hanswers, hagrees⟩ :=
    run_agrees hstart hpaddedNames fun hmem => hrender (hgiven .render hmem rfl)
  rw [hpadded] at hanswers hagrees
  obtain ⟨kept, dropped', dropped, hlate, hearly⟩ := hagrees.kept
  exact ⟨hanswers, kept, dropped, dropped', hearly, hlate⟩

/-- A box that holds two shapes of one name, and a third one without a variant. -/
def box : Shape :=
  .object { name := .string "Box" }
    [.object { key := .string "lid", name := .string "Side" } [],
      .array { key := .string "sides" } (.object { name := .string "Side" } []),
      .untyped { key := .string "label" }]

/-- A box is declared twice, at first without success, and a generic side is taken over between. -/
def boxSteps : List Step :=
  [.object box .null, .emit (.declaration ⟨.string "Side", ["T"], .bare⟩),
    .ignore (.list [.string "label"]), .object box .null]

/-- The same steps, with repetitions dropped in between. -/
def tidyBoxSteps : List Step := boxSteps.flatMap fun step => [.unique, step, .unique]

/-- Of the boxes the same sides are kept, and the first one fails, whether or not repetitions are
dropped in between. -/
theorem unique_run_of_tidyBoxSteps :
    (tidyBoxSteps.filter fun step => !step.isUnique) = boxSteps ∧
    (∀ step ∈ boxSteps, step.HasTextNames) ∧ Step.render ∉ boxSteps ∧
    (((start {}).run boxSteps).1.names.length, ((start {}).run tidyBoxSteps).1.names.length) =
      (6, 3) ∧
    (start {}).otherAnswers tidyBoxSteps = ((start {}).run boxSteps).2 ∧
    ∃ kept dropped dropped',
      Decl.unique ((start {}).run boxSteps).1.declarations = .ok (kept, dropped) ∧
      Decl.unique ((start {}).run tidyBoxSteps).1.declarations = .ok (kept, dropped') := by
  have hpadded : (tidyBoxSteps.filter fun step => !step.isUnique) = boxSteps := rfl
  have hbox : box.HasTextNames := by decide
  have hnames : ∀ step ∈ boxSteps, step.HasTextNames := by
    simp [boxSteps, Step.HasTextNames, hbox]
  have hrender : Step.render ∉ boxSteps := by
    simp [boxSteps]
  exact ⟨hpadded, hnames, hrender, rfl,
    unique_run_of_padded (List.forall_mem_nil _) hpadded hnames hrender⟩

end Session

end ShapeTypes
