import ShapeTypes.Proofs.Decl.Unique
import ShapeTypes.Proofs.Shape.Grounded
import ShapeTypes.Session

/-!
# References in a session

The list of a session grows by what its steps put out, failing ones included, and shrinks when
repetitions are dropped.

* `Session.run`: the steps of a session, one after the other, and their answers.
* `Session.Sound`: **the invariant**: the declarations are compiled ones and refer to each other
  only. `Session.Kept` says what else a step keeps: no name is lost, and the types it answers refer
  to names that are there.
* `Session.perform_kept`: **one step keeps the invariant**, whatever it does, unless it takes over a
  declaration as it is; `Session.run_kept`: so do all steps of a run.
* `Session.run_resolves`: without a step that drops repetitions, references lead backwards.
* `Session.references_of_run`: the statement for a session that starts without declarations.
-/

namespace ShapeTypes

/-- The names that the types in an answer refer to. -/
def Reply.references : Reply → List Value
  | .type t => t.references
  | .field f => f.type.references
  | _ => []

/-- What the step puts out, if anything, is declared by a shape. -/
def Step.isOwn : Step → Bool
  | .emit _ => false
  | _ => true

namespace Session

/-- The session after some steps, and what they answer. -/
def run (session : Session) : List Step → Session × List (Except Failure Reply)
  | [] => (session, [])
  | step :: rest =>
    let (next, answer) := session.perform step
    let (final, answers) := next.run rest
    (final, answer :: answers)

/-- The names of the declarations of a session. -/
def names (session : Session) : List Value := session.declarations.map Decl.name

/-- The invariant of a session. -/
structure Sound (session : Session) : Prop where
  /-- The declarations are compiled ones. -/
  compiled : ∀ decl ∈ session.declarations, decl.Compiled
  /-- They refer to each other only. -/
  closed : Decl.Closed session.declarations

/-- What is kept on the way from a session to a later one, with the answers given on the way. -/
structure Kept (session : Session) (answers : List (Except Failure Reply)) (final : Session) :
    Prop where
  /-- The invariant holds at the end. -/
  sound : final.Sound
  /-- No name is lost. -/
  names : session.names ⊆ final.names
  /-- The types that were answered refer to names that are there at the end. -/
  answers : ∀ reply, .ok reply ∈ answers → reply.references ⊆ final.names

/-- A session without declarations is sound. -/
theorem sound_start (config : Config) : (start config).Sound := by
  refine ⟨?_, ?_⟩ <;>
  · intro decl hdecl
    cases hdecl

variable {session : Session}

/-- Nothing is lost when the declarations stay and no type is answered. -/
theorem Sound.kept_same (h : session.Sound) {next : Session}
    (hsame : next.declarations = session.declarations) {answer : Except Failure Reply}
    (hanswer : ∀ reply, answer = .ok reply → reply.references = []) :
    Kept session [answer] next := by
  have hnames : next.names = session.names := congrArg (List.map Decl.name) hsame
  refine ⟨⟨?_, ?_⟩, hnames.symm ▸ List.Subset.refl _, ?_⟩
  · rw [hsame]
    exact h.compiled
  · rw [hsame]
    exact h.closed
  · intro reply hreply
    rw [hanswer reply (List.mem_singleton.mp hreply).symm]
    exact List.nil_subset _

/-- No type is answered by a computation that answers none when it succeeds. -/
theorem references_of_map {α : Type} {e : Except Failure α} {reply : α → Reply}
    (h : ∀ r, (reply r).references = []) :
    ∀ answer, e.map reply = .ok answer → answer.references = [] := by
  intro answer hanswer
  cases e with
  | error failure => cases hanswer
  | ok r =>
      cases hanswer
      exact h r

/-- A computation that keeps its own references together may be absorbed. -/
theorem Sound.kept_absorb {α : Type} (h : session.Sound) {c : Declaring α}
    {types : α → List TypeExpr} (hc : c.Grounded [] types) {reply : α → Reply}
    (hreply : ∀ r, (reply r).references = (types r).flatMap TypeExpr.references) :
    Kept session [(session.absorb c reply).2] (session.absorb c reply).1 := by
  refine ⟨⟨?_, h.closed.append hc.resolves.closed⟩, ?_, ?_⟩
  · intro decl hdecl
    rcases List.mem_append.mp hdecl with hold | hnew
    · exact h.compiled decl hold
    · exact hc.compiled decl hnew
  · intro name hname
    simp only [Session.names, absorb, List.map_append]
    exact List.mem_append_left _ hname
  · intro answer hanswer name hname
    have hresult := (List.mem_singleton.mp hanswer).symm
    unfold absorb at hresult
    cases hr : c.result with
    | error failure =>
        rw [hr] at hresult
        cases hresult
    | ok r =>
        rw [hr] at hresult
        cases hresult
        rw [hreply r] at hname
        obtain ⟨t, ht, hname⟩ := List.mem_flatMap.mp hname
        have hmem := (hc.result r hr t ht).references hname
        rw [List.append_nil] at hmem
        simp only [Session.names, absorb, List.map_append]
        exact List.mem_append_right _ hmem

/-- Repetitions may be dropped. -/
theorem Sound.kept_unique (h : session.Sound) :
    Kept session [(session.perform .unique).2] (session.perform .unique).1 := by
  cases hunique : Decl.unique session.declarations with
  | error failure =>
      simp only [perform, hunique]
      refine h.kept_same rfl ?_
      rintro reply hreply
      cases hreply
  | ok result =>
      obtain ⟨kept, dropped⟩ := result
      have hparameters := fun decl hdecl => (h.compiled decl hdecl).parameters
      have hkept := Decl.kept_of_unique hunique
      simp only [perform, hunique]
      refine ⟨⟨?_, hkept.closed hparameters h.closed⟩, ?_, ?_⟩
      · exact fun decl hdecl => h.compiled decl (hkept.sublist.subset hdecl)
      · exact fun name hname => (hkept.mem_names hparameters).mpr hname
      · intro reply hreply name hname
        cases List.mem_singleton.mp hreply
        cases hname

/-- **One step keeps the invariant**, whether it succeeds or fails. -/
theorem perform_kept (h : session.Sound) {step : Step} (hown : step.isOwn = true) :
    Kept session [(session.perform step).2] (session.perform step).1 := by
  cases step with
  | object shape derived =>
      exact h.kept_absorb (Shape.grounded_declareObject _ shape derived [])
        (by simp [Reply.references])
  | type shape derived =>
      exact h.kept_absorb (Shape.grounded_declareType _ shape [] derived)
        (by simp [Reply.references])
  | property shape =>
      exact h.kept_absorb (Shape.grounded_declareProperty _ shape []) (by simp [Reply.references])
  | unique => exact h.kept_unique
  | emit candidate => cases hown
  | ignore keys =>
      refine h.kept_same ?_ ?_
      · rfl
      · rintro reply hreply
        cases hreply
        rfl
  | root shape => exact h.kept_same rfl (references_of_map fun _ => rfl)
  | render => exact h.kept_same rfl (references_of_map fun _ => rfl)

/-- What is kept on two ways in a row is kept on both together. -/
theorem Kept.trans {middle final : Session} {first second : List (Except Failure Reply)}
    (h : Kept session first middle) (h' : Kept middle second final) :
    Kept session (first ++ second) final := by
  refine ⟨h'.sound, fun _ hname => h'.names (h.names hname), ?_⟩
  intro reply hreply
  rcases List.mem_append.mp hreply with hfirst | hsecond
  · exact fun _ hname => h'.names (h.answers reply hfirst hname)
  · exact h'.answers reply hsecond

/-- **All steps of a run keep the invariant.** -/
theorem run_kept {steps : List Step} (h : session.Sound)
    (hown : ∀ step ∈ steps, step.isOwn = true) :
    Kept session (session.run steps).2 (session.run steps).1 := by
  induction steps generalizing session with
  | nil =>
      refine ⟨h, List.Subset.refl _, ?_⟩
      intro reply hreply
      cases hreply
  | cons step rest ih =>
      have hstep := perform_kept h (hown step List.mem_cons_self)
      have hrest := ih hstep.sound fun next hnext => hown next (List.mem_cons_of_mem step hnext)
      exact hstep.trans hrest

/-! ## References that lead backwards -/

/-- A computation that keeps its own references together may be absorbed by a list in which
references lead backwards. -/
theorem resolves_absorb {α : Type} (h : Decl.Resolves [] session.declarations) {c : Declaring α}
    {types : α → List TypeExpr} (hc : c.Grounded [] types) (reply : α → Reply) :
    Decl.Resolves [] (session.absorb c reply).1.declarations :=
  Decl.resolves_append.mpr ⟨h, hc.resolves.mono (List.nil_subset _)⟩

/-- One step keeps references leading backwards, unless it drops repetitions. -/
theorem perform_resolves (h : Decl.Resolves [] session.declarations) {step : Step}
    (hown : step.isOwn = true) (hstep : step ≠ .unique) :
    Decl.Resolves [] (session.perform step).1.declarations := by
  cases step with
  | object shape derived =>
      exact resolves_absorb h (Shape.grounded_declareObject _ shape derived []) _
  | type shape derived =>
      exact resolves_absorb h (Shape.grounded_declareType _ shape [] derived) _
  | property shape => exact resolves_absorb h (Shape.grounded_declareProperty _ shape []) _
  | unique => exact absurd rfl hstep
  | emit candidate => cases hown
  | ignore keys => exact h
  | root shape => exact h
  | render => exact h

/-- Without a step that drops repetitions all references lead backwards. -/
theorem run_resolves {steps : List Step} (h : Decl.Resolves [] session.declarations)
    (hown : ∀ step ∈ steps, step.isOwn = true) (hsteps : .unique ∉ steps) :
    Decl.Resolves [] (session.run steps).1.declarations := by
  induction steps generalizing session with
  | nil => exact h
  | cons step rest ih =>
      rw [List.mem_cons, not_or] at hsteps
      have hstep := perform_resolves h (hown step List.mem_cons_self) (Ne.symm hsteps.1)
      exact ih hstep (fun next hnext => hown next (List.mem_cons_of_mem step hnext)) hsteps.2

/-- **References in a session.** After any steps from a session without declarations, whether they
succeed or fail: every reference in a declaration is the name of a declaration; so is every
reference in a type that was answered on the way; and as long as no repetitions have been dropped, a
reference in a declaration is the name of one at an earlier position. -/
theorem references_of_run (config : Config) (steps : List Step)
    (hown : ∀ step ∈ steps, step.isOwn = true) :
    Decl.Closed ((start config).run steps).1.declarations ∧
      (∀ reply, .ok reply ∈ ((start config).run steps).2 →
        ∀ name ∈ reply.references,
          ∃ decl ∈ ((start config).run steps).1.declarations, decl.name = name) ∧
      (.unique ∉ steps →
        ∀ i (hi : i < ((start config).run steps).1.declarations.length),
          ∀ name ∈ ((start config).run steps).1.declarations[i].references,
            ∃ j, ∃ hj : j < i, ((start config).run steps).1.declarations[j].name = name) := by
  have hkept := run_kept (sound_start config) hown
  refine ⟨hkept.sound.closed, ?_, ?_⟩
  · intro reply hreply name hname
    exact List.mem_map.mp (hkept.answers reply hreply hname)
  · intro hsteps i hi name hname
    have hstart : Decl.Resolves [] (start config).declarations := trivial
    have hresolves := run_resolves hstart hown hsteps
    rcases Decl.resolves_iff_getElem.mp hresolves i hi name hname with hnil | hearlier
    · cases hnil
    · exact hearlier

/-- A cart whose third property has no type, so that it is declared only when the property is
ignored; the two properties before it have one name. -/
def cart : Shape :=
  .object { name := .string "Cart" }
    [.object { key := .string "first", name := .string "Line" } [],
      .object { key := .string "last", name := .string "Line" }
        [.boolean { key := .string "gift" }],
      .untyped { key := .string "note" }]

/-- The cart is declared twice, at first without success. -/
def cartSteps : List Step :=
  [.object cart .null, .unique, .ignore (.list [.string "note"]), .object cart .null]

/-- The failing step leaves two lines, of which one is dropped; the references of the cart find a
line. Up to the failing step, references lead backwards. -/
theorem references_of_cartSteps :
    ((start {}).run cartSteps).1.names.length = 4 ∧ (∀ step ∈ cartSteps, step.isOwn = true) ∧
      Decl.Closed ((start {}).run cartSteps).1.declarations ∧
      Step.unique ∉ cartSteps.take 1 ∧
      ∀ i (hi : i < ((start {}).run (cartSteps.take 1)).1.declarations.length),
        ∀ name ∈ ((start {}).run (cartSteps.take 1)).1.declarations[i].references,
          ∃ j, ∃ hj : j < i,
            ((start {}).run (cartSteps.take 1)).1.declarations[j].name = name := by
  have hown : ∀ step ∈ cartSteps, step.isOwn = true := by decide
  have hfirst : ∀ step ∈ cartSteps.take 1, step.isOwn = true := by decide
  have hunique : Step.unique ∉ cartSteps.take 1 := by simp [cartSteps]
  exact ⟨rfl, hown, (references_of_run {} cartSteps hown).1, hunique,
    (references_of_run {} (cartSteps.take 1) hfirst).2.2 hunique⟩

end Session

end ShapeTypes
