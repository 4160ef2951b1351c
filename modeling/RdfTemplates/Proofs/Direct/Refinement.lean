import RdfTemplates.Proofs.Agreement
import RdfTemplates.Proofs.Direct.RowScopes
import RdfTemplates.Proofs.Rows

/-!
# Expansion is direct expansion

The engine keeps bindings in an arena of scopes that nested calls share.  Step
by step it does what direct expansion does: the same triples in the same order,
the same labels, and the same failure inside the same calls.
-/

namespace RdfTemplates

namespace Placeholders

theorem labelFor_stem (placeholders : Placeholders) (source : LabelSource)
    (placeholder : String) :
    (placeholders.labelFor source placeholder).2.2.stem = source.stem := by
  unfold labelFor
  split <;> rfl

mutual

/-- Localization takes all its labels from one stem. -/
theorem localize_stem (placeholders : Placeholders) (source : LabelSource) :
    ∀ term, (placeholders.localize source term).2.2.stem = source.stem
  | .blank placeholder => labelFor_stem placeholders source placeholder
  | .list items => localizeList_stem placeholders source items
  | .iri _ | .literal _ | .var _ | .none => rfl

theorem localizeList_stem (placeholders : Placeholders) (source : LabelSource) :
    ∀ items, (placeholders.localizeList source items).2.2.stem = source.stem
  | [] => rfl
  | item :: items => by
      simp only [localizeList]
      rw [localizeList_stem _ _ items, localize_stem placeholders source item]

end

end Placeholders

namespace Expansion

variable {library : Library} {inst : Instance}

theorem expandWithin_triple (room : Nat)
    (isTriple : inst.template = Vocabulary.ottrTriple) :
    expandWithin library room inst = writeTripleInstance inst.arguments := by
  unfold expandWithin
  simp [isTriple]

theorem expandWithin_zero (notTriple : inst.template ≠ Vocabulary.ottrTriple) :
    expandWithin library 0 inst = enter inst := by
  unfold expandWithin
  simp [notTriple]

theorem expandWithin_succ (room : Nat)
    (notTriple : inst.template ≠ Vocabulary.ottrTriple) :
    expandWithin library (room + 1) inst =
      calling inst (expandCall library (expandWithin library room) inst) := by
  rw [expandWithin]
  simp [notTriple]

end Expansion

namespace Direct

/-- The context of a run that has used some labels. -/
def Setting.context (setting : Setting) (allocated : Nat) (scopes : ScopeArena)
    (calls : List Instance) : Context :=
  { labels := ⟨setting.stem, allocated⟩
    scopes
    calls
    maxDepth := setting.maxDepth
    checkTypes := setting.checkTypes
    refusesRepeats := setting.refusesRepeats }

/-- The setting of a library in which a context is met. -/
def Setting.ofContext (library : Library) (context : Context) : Setting :=
  { library
    stem := context.labels.stem
    maxDepth := context.maxDepth
    checkTypes := context.checkTypes
    refusesRepeats := context.refusesRepeats }

theorem Setting.context_enter_refused {setting : Setting}
    {calls : List Instance} {call : Instance} (allocated : Nat)
    (scopes : ScopeArena) (refused : setting.refuses calls call = true) :
    (setting.context allocated scopes calls).enter call =
      .error { fault := .cyclicExpansion call, calls } := by
  simp only [Setting.refuses] at refused
  simp only [Context.enter, Setting.context, refused, ↓reduceIte, Context.fail]

theorem Setting.context_enter_full {setting : Setting} {calls : List Instance}
    {call : Instance} (allocated : Nat) (scopes : ScopeArena)
    (accepted : setting.refuses calls call = false)
    (full : setting.maxDepth ≤ calls.length) :
    (setting.context allocated scopes calls).enter call =
      .error { fault := .depthExceeded setting.maxDepth, calls } := by
  simp only [Setting.refuses] at accepted
  simp only [Context.enter, Setting.context, accepted, Bool.false_eq_true,
    ↓reduceIte, Context.depth, full, Context.fail]

theorem Setting.context_enter_room {setting : Setting} {calls : List Instance}
    {call : Instance} (allocated : Nat) (scopes : ScopeArena)
    (accepted : setting.refuses calls call = false)
    (room : calls.length < setting.maxDepth) :
    (setting.context allocated scopes calls).enter call =
      .ok (setting.context allocated scopes (call :: calls)) := by
  simp only [Setting.refuses] at accepted
  have notFull : ¬setting.maxDepth ≤ calls.length := Nat.not_le_of_gt room
  simp only [Context.enter, Setting.context, accepted, Bool.false_eq_true,
    ↓reduceIte, Context.depth, notFull]

/-- The engine goes on in the same scopes and calls, with the labels and the
output of the run.  After a failure only what survives a reset is compared. -/
def Setting.refinement (setting : Setting) (scopes : ScopeArena)
    (calls : List Instance) : Comparison ExpansionState Trail where
  states state trail :=
    state.context = setting.context trail.allocated scopes calls ∧
      state.output.toList = trail.triples
  leftExcused _ := False
  rightExcused _ := False
  failures left state right trail :=
    left = right ∧ state.context.reset = setting.context trail.allocated {} []

/-- In the given scopes and calls a step does what a run does. -/
def Refines (setting : Setting) (scopes : ScopeArena) (calls : List Instance)
    {α : Type} (step : Expansion α) (run : Run α) : Prop :=
  (setting.refinement scopes calls).Agree Eq step run

namespace Refines

open Comparison

variable {setting : Setting} {scopes : ScopeArena} {calls : List Instance}
  {α β : Type}

theorem pure (value : α) :
    Refines setting scopes calls (Pure.pure value) (Pure.pure value) :=
  Agree.pure rfl

theorem bind {step : Expansion α} {run : Run α} {stepRest : α → Expansion β}
    {runRest : α → Run β} (first : Refines setting scopes calls step run)
    (rest : ∀ value,
      Refines setting scopes calls (stepRest value) (runRest value)) :
    Refines setting scopes calls (step >>= stepRest) (run >>= runRest) :=
  Agree.bind first fun _ value equality => equality ▸ rest value

/-- A step and the run that it refines both succeed or both fail. -/
theorem outcomes {step : Expansion α} {run : Run α}
    (refines : Refines setting scopes calls step run) {state : ExpansionState}
    {trail : Trail}
    (states : (setting.refinement scopes calls).states state trail) :
    (∃ value nextState nextTrail,
      step state = .ok value nextState ∧ run trail = .ok value nextTrail ∧
        (setting.refinement scopes calls).states nextState nextTrail) ∨
      (∃ failure nextState nextTrail, step state = .error failure nextState ∧
        run trail = .error failure nextTrail ∧
        nextState.context.reset =
          setting.context nextTrail.allocated {} []) := by
  rcases (refines state trail states).outcomes (fun _ => ⟨id, id⟩) with
    ⟨value, nextState, _, nextTrail, stepEnd, runEnd, rfl, nextStates⟩ |
    ⟨failure, nextState, _, nextTrail, stepEnd, runEnd, rfl, resetContext⟩
  · exact Or.inl ⟨value, nextState, nextTrail, stepEnd, runEnd, nextStates⟩
  · exact Or.inr ⟨failure, nextState, nextTrail, stepEnd, runEnd, resetContext⟩

theorem fail (fault : Fault) :
    Refines setting scopes calls (Expansion.fail fault : Expansion α)
      (Direct.fail calls fault) := by
  intro state trail states
  refine Or.inr (Or.inr ⟨?_, ?_⟩)
  · simp [Context.fail, states.1, Setting.context]
  · simp [states.1, Setting.context, Context.reset]

theorem check (result : Except Fault α) :
    Refines setting scopes calls (Expansion.check result)
      (Direct.check calls result) := by
  cases result with
  | ok value => exact pure value
  | error fault => exact fail fault

/-- What follows a check may rely on its result. -/
theorem bindCheck {result : Except Fault α} {stepRest : α → Expansion β}
    {runRest : α → Run β}
    (rest : ∀ value, result = .ok value →
      Refines setting scopes calls (stepRest value) (runRest value)) :
    Refines setting scopes calls (Expansion.check result >>= stepRest)
      (Direct.check calls result >>= runRest) := by
  cases result with
  | ok value => exact rest value rfl
  | error fault =>
      have failed :
          Refines setting scopes calls (Expansion.fail fault : Expansion β)
            (Direct.fail calls fault) := fail fault
      exact failed

/-- Events leave no trace in a run. -/
theorem record (event : Event) :
    Refines setting scopes calls (Expansion.record event) (Pure.pure ()) :=
  fun _ _ states => ⟨rfl, states⟩

theorem emit (triple : Triple) :
    Refines setting scopes calls (Expansion.emit triple)
      (Direct.emit triple) := by
  intro state trail states
  refine ⟨rfl, states.1, ?_⟩
  simp [states.2]

theorem freshBlank :
    Refines setting scopes calls Expansion.freshBlank
      (Direct.freshBlank setting.stem) := by
  intro state trail states
  refine ⟨?_, ?_, states.2⟩
  · simp [states.1, Setting.context]
  · simp [states.1, Setting.context]

theorem freshBlanks (count : Nat) :
    Refines setting scopes calls (Expansion.freshBlanks count)
      (Direct.freshBlanks setting.stem count) := by
  induction count with
  | zero => exact pure []
  | succ count induction =>
      apply freshBlank.bind
      intro node
      apply induction.bind
      intro nodes
      exact pure (node :: nodes)

/-! ## Emission -/

theorem checkPosition (position : String) (term : Term)
    (objection : Option String) :
    Refines setting scopes calls
      (Expansion.checkPosition position term objection)
      (Direct.checkPosition calls position term objection) := by
  cases objection with
  | none => exact pure ()
  | some reason => exact fail _

mutual

theorem itemValue : ∀ item : Term,
    Refines setting scopes calls (Expansion.itemValue item)
      (Direct.itemValue setting.stem calls item)
  | .list items => by
      simp only [Expansion.itemValue, Direct.itemValue]
      apply (freshBlanks items.length).bind
      intro cells
      apply (writeCells items cells).bind
      intro _
      exact pure (Expansion.listNode cells)
  | .none => fail _
  | .var _ => fail _
  | .iri _ => pure _
  | .literal _ => pure _
  | .blank _ => pure _

theorem writeCells : ∀ items cells : List Term,
    Refines setting scopes calls (Expansion.writeCells items cells)
      (Direct.writeCells setting.stem calls items cells)
  | [], _ => by
      simp only [Expansion.writeCells, Direct.writeCells]
      exact pure ()
  | _ :: _, [] => by
      simp only [Expansion.writeCells, Direct.writeCells]
      exact pure ()
  | item :: items, cell :: cells => by
      simp only [Expansion.writeCells, Direct.writeCells]
      apply (itemValue item).bind
      intro value
      apply (emit _).bind
      intro _
      apply (emit _).bind
      intro _
      exact writeCells items cells

end

theorem objectValue (object : Term) :
    Refines setting scopes calls (Expansion.objectValue object)
      (Direct.objectValue setting.stem calls object) := by
  cases object with
  | list items => exact itemValue (.list items)
  | var name => exact fail _
  | iri name => exact pure _
  | literal value => exact pure _
  | blank label => exact pure _
  | none => exact pure _

theorem writeTriple (subject predicate object : Term) :
    Refines setting scopes calls
      (Expansion.writeTriple subject predicate object)
      (Direct.writeTriple setting.stem calls subject predicate object) := by
  unfold Expansion.writeTriple Direct.writeTriple
  split
  · exact record _
  · apply (checkPosition "subject" subject _).bind
    intro _
    apply (checkPosition "predicate" predicate _).bind
    intro _
    apply (objectValue object).bind
    intro value
    exact emit ⟨subject, predicate, value⟩

theorem writeTripleInstance (arguments : List Term) :
    Refines setting scopes calls (Expansion.writeTripleInstance arguments)
      (Direct.writeTripleInstance setting.stem calls arguments) := by
  match arguments with
  | [subject, predicate, object] => exact writeTriple subject predicate object
  | [] => exact fail _
  | [_] => exact fail _
  | [_, _] => exact fail _
  | _ :: _ :: _ :: _ :: _ => exact fail _

/-! ## Bodies -/

section Body

variable {scope : ScopeId} {values : String → Option Term}

theorem bodyTerm (live : scopes.isLive scope = true)
    (lookups : ∀ name, scopes.lookup scope name = values name)
    (placeholders : Placeholders) (term : Term) :
    Refines setting scopes calls (Expansion.bodyTerm scope placeholders term)
      (Direct.bodyTerm setting.stem calls values placeholders term) := by
  intro state trail states
  have sameLookups : scopes.lookup scope = values := funext lookups
  have stem := placeholders.localize_stem ⟨setting.stem, trail.allocated⟩ term
  unfold Expansion.bodyTerm Direct.bodyTerm
  simp only [states.1, Setting.context] at *
  generalize placeholders.localize ⟨setting.stem, trail.allocated⟩ term =
    localized at *
  obtain ⟨localTerm, placeholders, ⟨labelStem, allocated⟩⟩ := localized
  subst stem
  simp only [ScopeArena.resolve, live, ↓reduceIte, sameLookups]
  cases localTerm.substitute values with
  | ok value => exact ⟨rfl, rfl, states.2⟩
  | error name => exact Or.inr (Or.inr ⟨rfl, rfl⟩)

/-- A repetition of a body in a scope that gives every name its value. -/
structure Repetition (setting : Setting) (scopes : ScopeArena)
    (calls : List Instance) (scope : ScopeId) (values : String → Option Term)
    (expand : Instance → Expansion Unit)
    (expandDirectly : Instance → Run Unit) : Prop where
  live : scopes.isLive scope = true
  lookups : ∀ name, scopes.lookup scope name = values name
  nested : ∀ inst, Refines setting scopes calls (expand inst)
    (expandDirectly inst)

variable {expand : Instance → Expansion Unit}
  {expandDirectly : Instance → Run Unit}

mutual

theorem argumentValue
    (repetition :
      Repetition setting scopes calls scope values expand expandDirectly)
    (placeholders : Placeholders) :
    ∀ argument : Argument, Refines setting scopes calls
      (Expansion.argumentValue expand scope placeholders argument)
      (Direct.argumentValue setting.stem calls expandDirectly values
        placeholders argument)
  | .term term => bodyTerm repetition.live repetition.lookups placeholders term
  | .nested template arguments => by
      simp only [Expansion.argumentValue, Direct.argumentValue]
      apply (argumentValues repetition placeholders arguments).bind
      rintro ⟨terms, _⟩
      apply (repetition.nested { template, arguments := terms }).bind
      intro _
      exact pure _

theorem argumentValues
    (repetition :
      Repetition setting scopes calls scope values expand expandDirectly)
    (placeholders : Placeholders) :
    ∀ arguments : List Argument, Refines setting scopes calls
      (Expansion.argumentValues expand scope placeholders arguments)
      (Direct.argumentValues setting.stem calls expandDirectly values
        placeholders arguments)
  | [] => pure _
  | argument :: arguments => by
      simp only [Expansion.argumentValues, Direct.argumentValues]
      apply (argumentValue repetition placeholders argument).bind
      rintro ⟨_, placeholders⟩
      apply (argumentValues repetition placeholders arguments).bind
      intro _
      exact pure _

end

theorem walkPattern
    (repetition :
      Repetition setting scopes calls scope values expand expandDirectly)
    (placeholders : Placeholders) (pattern : Pattern) :
    Refines setting scopes calls
      (Expansion.walkPattern expand scope placeholders pattern)
      (Direct.walkPattern setting.stem calls expandDirectly values placeholders
        pattern) := by
  cases pattern with
  | triple triple =>
      apply (bodyTerm repetition.live repetition.lookups placeholders
        triple.subject).bind
      rintro ⟨subject, placeholders⟩
      apply (bodyTerm repetition.live repetition.lookups placeholders
        triple.predicate).bind
      rintro ⟨predicate, placeholders⟩
      apply (bodyTerm repetition.live repetition.lookups placeholders
        triple.object).bind
      rintro ⟨object, placeholders⟩
      apply (writeTriple subject predicate object).bind
      intro _
      exact pure placeholders
  | nested template arguments =>
      apply (argumentValue repetition placeholders
        (.nested template arguments)).bind
      intro _
      exact pure _

theorem walkBody
    (repetition :
      Repetition setting scopes calls scope values expand expandDirectly)
    (placeholders : Placeholders) (body : List Pattern) :
    Refines setting scopes calls
      (Expansion.walkBody expand scope placeholders body)
      (Direct.walkBody setting.stem calls expandDirectly values placeholders
        body) := by
  induction body generalizing placeholders with
  | nil => exact pure ()
  | cons pattern body induction =>
      apply (walkPattern repetition placeholders pattern).bind
      intro placeholders
      exact induction placeholders

end Body

/-! ## Calls -/

/-- A step in a scope of its own is compared inside that scope. -/
theorem releasing {parent : Option ScopeId} {bindings : List (String × Term)}
    {step : ScopeId → Expansion Unit} {run : Run Unit}
    (distinct : (bindings.map Prod.fst).Nodup)
    (inside :
      Refines setting ⟨Scope.ofBindings parent bindings :: scopes.scopes⟩ calls
        (step scopes.size) run) :
    Refines setting scopes calls
      (Expansion.releasing do
        let scope ← Expansion.pushScope parent
        Expansion.bindNames scope bindings
        step scope) run := by
  intro state trail states
  -- The scope is pushed and filled in one go, so that the step starts in a
  -- known arena.
  let inner :=
    state.withScopes ⟨Scope.ofBindings parent bindings :: scopes.scopes⟩
  have liveScopes : state.context.scopes = scopes := by
    simp [states.1, Setting.context]
  have innerStates : (setting.refinement
      ⟨Scope.ofBindings parent bindings :: scopes.scopes⟩ calls).states
      inner trail := by
    refine ⟨?_, states.2⟩
    simp [inner, ExpansionState.withScopes, states.1, Setting.context]
  simp only [Expansion.releasing, Expansion.inNewScope step liveScopes distinct,
    liveScopes]
  rcases inside.outcomes innerStates with
    ⟨value, next, nextTrail, stepEnd, runEnd, nextStates⟩ |
    ⟨failure, next, nextTrail, stepEnd, runEnd, resetContext⟩
  · simp only [inner] at stepEnd
    rw [stepEnd, runEnd]
    refine ⟨rfl, ?_, nextStates.2⟩
    simp [Expansion.releaseScopes, nextStates.1, Setting.context,
      ScopeArena.release, ScopeArena.size]
  · simp only [inner] at stepEnd
    rw [stepEnd, runEnd]
    exact Or.inr (Or.inr ⟨rfl, resetContext⟩)

theorem expandRow {expand : Instance → Expansion Unit}
    {expandDirectly : Instance → Run Unit} {template : Template}
    {row : List Term} (distinct : template.signature.parameterNames.Nodup)
    (lengths : row.length = template.signature.parameters.length)
    (nested : ∀ scopes inst,
      Refines setting scopes calls (expand inst) (expandDirectly inst)) :
    Refines setting
      ⟨Scope.ofBindings none
        (Expansion.defaultBindings template.signature.parameters) ::
        scopes.scopes⟩
      calls (Expansion.expandRow expand template scopes.size row)
      (Direct.expandRow setting.stem calls expandDirectly template row) := by
  simp only [Expansion.expandRow, Direct.expandRow]
  cases Expansion.missingParameter? template.signature.parameters
      (Expansion.fillRow template.signature.parameters row) with
  | some parameter => exact record _
  | none =>
      have filled := Expansion.length_fillRow lengths
      apply releasing (distinct.sublist (Expansion.fst_rowBindings_sublist _ _))
      apply walkBody
      constructor
      · simp [ScopeArena.isLive, ScopeArena.size]
      · exact Expansion.lookup_rowScope distinct filled
      · exact nested _

theorem expandEachRow {expand : Instance → Expansion Unit}
    {expandDirectly : Instance → Run Unit} {template : Template}
    {rows : List (List Term)}
    (distinct : template.signature.parameterNames.Nodup)
    (lengths : ∀ row ∈ rows, row.length = template.signature.parameters.length)
    (nested : ∀ scopes inst,
      Refines setting scopes calls (expand inst) (expandDirectly inst)) :
    Refines setting
      ⟨Scope.ofBindings none
        (Expansion.defaultBindings template.signature.parameters) ::
        scopes.scopes⟩
      calls (Expansion.expandEachRow expand template scopes.size rows)
      (Direct.expandEachRow setting.stem calls expandDirectly template
        rows) := by
  induction rows with
  | nil => exact pure ()
  | cons row rows induction =>
      have headLength := lengths row List.mem_cons_self
      have tailLengths :
          ∀ row ∈ rows, row.length = template.signature.parameters.length := by
        intro row member
        exact lengths row (List.mem_cons_of_mem _ member)
      apply (expandRow distinct headLength nested).bind
      intro _
      exact induction tailLengths

/-- Reading the context tells a step how the run is set up. -/
theorem context {step : Context → Expansion β} {run : Run β}
    (rest : ∀ allocated, Refines setting scopes calls
      (step (setting.context allocated scopes calls)) run) :
    Refines setting scopes calls (Expansion.context >>= step) run := by
  intro state trail states
  have present :
      (Expansion.context >>= step) state = step state.context state := rfl
  rw [present, states.1]
  exact rest trail.allocated state trail states

theorem expandCall {expand : Instance → Expansion Unit}
    {expandDirectly : Instance → Run Unit} (built : setting.library.Built)
    (nested : ∀ scopes inst,
      Refines setting scopes calls (expand inst) (expandDirectly inst))
    (call : Instance) :
    Refines setting scopes calls
      (Expansion.expandCall setting.library expand call)
      (Direct.expandCall setting calls expandDirectly call) := by
  unfold Expansion.expandCall Direct.expandCall
  apply bindCheck
  intro template found
  have distinct : template.signature.parameterNames.Nodup :=
    built.parameterNames_nodup template (Library.mem_templates_of_lookup found)
  apply bindCheck
  intro bound boundArguments
  cases bound with
  | none => exact record _
  | some values =>
      apply context
      intro allocated
      apply (check _).bind
      intro _
      apply bindCheck
      intro rows expanded
      have lengths :
          ∀ row ∈ rows, row.length = template.signature.parameters.length := by
        intro row member
        rw [length_of_mem_expandRows expanded member,
          length_of_bindArguments boundArguments]
      refine Agree.bindLeft (record _) fun _ _ => ?_
      apply releasing
        (distinct.sublist (Expansion.fst_defaultBindings_sublist _))
      exact expandEachRow distinct lengths nested

theorem enter_refused {call : Instance} {fault : Fault}
    (refused : ∀ allocated,
      (setting.context allocated scopes calls).enter call =
        .error { fault, calls }) :
    Refines setting scopes calls (Expansion.enter call)
      (Direct.fail calls fault) := by
  intro state trail states
  simp only [Expansion.enter, states.1, refused]
  refine Or.inr (Or.inr ⟨rfl, ?_⟩)
  simp [states.1, Setting.context, Context.reset]

theorem calling_refused {step : Expansion Unit} {call : Instance}
    {fault : Fault}
    (refused : ∀ allocated,
      (setting.context allocated scopes calls).enter call =
        .error { fault, calls }) :
    Refines setting scopes calls (Expansion.calling call step)
      (Direct.fail calls fault) := by
  intro state trail states
  have results := enter_refused refused state trail states
  simp only [Expansion.calling, Expansion.enter, states.1, refused] at results ⊢
  exact results

theorem calling {step : Expansion Unit} {run : Run Unit} {call : Instance}
    (entered : ∀ allocated,
      (setting.context allocated scopes calls).enter call =
        .ok (setting.context allocated scopes (call :: calls)))
    (inside : Refines setting scopes (call :: calls) step run) :
    Refines setting scopes calls (Expansion.calling call step) run := by
  intro state trail states
  let active : ExpansionState :=
    { state with
      context := setting.context trail.allocated scopes (call :: calls) }
  have activeStates :
      (setting.refinement scopes (call :: calls)).states active trail :=
    ⟨rfl, states.2⟩
  have enters : Expansion.enter call state = .ok () active := by
    simp only [Expansion.enter, states.1, entered]
    rfl
  simp only [Expansion.calling, enters]
  rcases inside.outcomes activeStates with
    ⟨value, next, nextTrail, stepEnd, runEnd, nextStates⟩ |
    ⟨failure, next, nextTrail, stepEnd, runEnd, resetContext⟩
  · rw [stepEnd, runEnd]
    refine ⟨rfl, ?_, nextStates.2⟩
    simp [nextStates.1, Context.leave, Setting.context]
  · rw [stepEnd, runEnd]
    exact Or.inr (Or.inr ⟨rfl, resetContext⟩)

/-- An instance is expanded directly, as long as the room left is what the depth
limit leaves to further calls. -/
theorem expandWithin (built : setting.library.Built) (room : Nat)
    (inst : Instance) (roomLeft : room = setting.maxDepth - calls.length) :
    Refines setting scopes calls
      (Expansion.expandWithin setting.library room inst)
      (Direct.expandWithin setting room calls inst) := by
  induction room generalizing scopes calls inst with
  | zero =>
      have full : setting.maxDepth ≤ calls.length := by omega
      by_cases isTriple : inst.template = Vocabulary.ottrTriple
      · rw [Expansion.expandWithin_triple 0 isTriple,
          expandWithin_triple 0 isTriple]
        exact writeTripleInstance inst.arguments
      · rw [Expansion.expandWithin_zero isTriple]
        cases accepted : setting.refuses calls inst with
        | true =>
            rw [expandWithin_refused 0 isTriple accepted]
            apply enter_refused
            intro allocated
            exact setting.context_enter_refused allocated scopes accepted
        | false =>
            rw [expandWithin_zero isTriple accepted]
            apply enter_refused
            intro allocated
            exact setting.context_enter_full allocated scopes accepted full
  | succ room induction =>
      have notFull : calls.length < setting.maxDepth := by omega
      by_cases isTriple : inst.template = Vocabulary.ottrTriple
      · rw [Expansion.expandWithin_triple (room + 1) isTriple,
          expandWithin_triple (room + 1) isTriple]
        exact writeTripleInstance inst.arguments
      · rw [Expansion.expandWithin_succ room isTriple]
        cases accepted : setting.refuses calls inst with
        | true =>
            rw [expandWithin_refused (room + 1) isTriple accepted]
            apply calling_refused
            intro allocated
            exact setting.context_enter_refused allocated scopes accepted
        | false =>
            rw [expandWithin_succ room isTriple accepted]
            apply calling
            · intro allocated
              exact setting.context_enter_room allocated scopes accepted notFull
            · apply expandCall built
              intro innerScopes nested
              apply induction
              simp only [List.length_cons]
              omega

theorem expandInstance (built : setting.library.Built) (inst : Instance) :
    Refines setting scopes calls (Expansion.expandInstance setting.library inst)
      (Direct.expandWithin setting (setting.maxDepth - calls.length) calls
        inst) := by
  apply context
  intro allocated
  exact expandWithin built _ inst rfl

end Refines

/-- With no call active, a step delivers the output of a run. -/
def Delivers (setting : Setting) (scopes : ScopeArena)
    (step : Expansion (List Triple)) (run : Run Unit) : Prop :=
  ∀ state allocated, state.context = setting.context allocated scopes [] →
    (∃ nextState nextTrail, step state = .ok nextTrail.triples nextState ∧
      run { allocated } = .ok () nextTrail ∧
      nextState.context = setting.context nextTrail.allocated scopes []) ∨
      (∃ failure nextState nextTrail, step state = .error failure nextState ∧
        run { allocated } = .error failure nextTrail ∧
        nextState.context.reset = setting.context nextTrail.allocated {} [])

namespace Delivers

variable {setting : Setting} {scopes : ScopeArena}

theorem fail (fault : Fault) :
    Delivers setting scopes (Expansion.fail fault) (Direct.fail [] fault) := by
  intro state allocated idle
  refine Or.inr ⟨{ fault, calls := [] }, state, { allocated }, ?_, rfl, ?_⟩
  · simp [Expansion.fail, Context.fail, idle, Setting.context]
  · simp [idle, Context.reset, Setting.context]

theorem collecting {step : Expansion Unit} {run : Run Unit}
    (inside : Refines setting scopes [] step run) :
    Delivers setting scopes (Expansion.collecting step) run := by
  intro state allocated idle
  have states : (setting.refinement scopes []).states
      { state with output := #[] } { allocated } :=
    ⟨idle, rfl⟩
  unfold Expansion.collecting
  rcases inside.outcomes states with
    ⟨value, next, nextTrail, stepEnd, runEnd, nextContext, nextOutput⟩ |
    ⟨failure, next, nextTrail, stepEnd, runEnd, resetContext⟩
  · rw [stepEnd, runEnd]
    refine Or.inl
      ⟨{ next with output := state.output }, nextTrail, ?_, rfl, nextContext⟩
    simp only [nextOutput]
  · rw [stepEnd, runEnd]
    exact Or.inr ⟨failure, _, nextTrail, rfl, rfl, resetContext⟩

theorem expandRoot (setting : Setting) (built : setting.library.Built)
    (root : Instance) :
    Delivers setting scopes (Expansion.expandRoot setting.library root)
      (Direct.expandRoot setting root) := by
  cases resolved : setting.library.resolveRoot root.template with
  | error fault =>
      have stepFails :
          Expansion.expandRoot setting.library root = Expansion.fail fault := by
        rw [Expansion.expandRoot, resolved]
        rfl
      rw [stepFails, expandRoot_unresolved resolved]
      exact fail fault
  | ok name =>
      cases isOpen : Term.firstVariableIn? root.arguments with
      | some variableName =>
          have stepFails : Expansion.expandRoot setting.library root =
              Expansion.fail (.unboundVariable variableName) := by
            rw [Expansion.expandRoot, resolved, isOpen]
            rfl
          rw [stepFails, expandRoot_open resolved isOpen]
          exact fail (.unboundVariable variableName)
      | none =>
          have stepCollects : Expansion.expandRoot setting.library root =
              Expansion.collecting (Expansion.expandInstance setting.library
                { root with template := name }) := by
            rw [Expansion.expandRoot, resolved, isOpen]
            rfl
          rw [stepCollects, expandRoot_ground resolved isOpen]
          exact collecting
            (Refines.expandInstance built { root with template := name })

end Delivers

/-- What comes of a root in a context without active calls, whatever scopes are
live. -/
theorem outcome_eq_over (setting : Setting) (built : setting.library.Built)
    (scopes : ScopeArena) (root : Instance) (allocated : Nat) :
    Expansion.outcome setting.library
      (setting.context allocated scopes []) root =
      outcome setting root allocated := by
  unfold Expansion.outcome outcome
  rcases Delivers.expandRoot setting built root
      { context := setting.context allocated scopes [] } allocated rfl with
    ⟨next, nextTrail, stepEnd, runEnd, nextContext⟩ |
    ⟨failure, next, nextTrail, stepEnd, runEnd, resetContext⟩
  · rw [stepEnd, runEnd]
    simp [nextContext, Setting.context]
  · rw [stepEnd, runEnd]
    have sameLabels :
        next.context.labels = ⟨setting.stem, nextTrail.allocated⟩ :=
      congrArg Context.labels resetContext
    simp [sameLabels]

/-- What comes of a root in a context that has used some labels. -/
theorem outcome_eq (setting : Setting) (built : setting.library.Built)
    (root : Instance) (allocated : Nat) :
    Expansion.outcome setting.library (setting.context allocated {} []) root =
      outcome setting root allocated :=
  outcome_eq_over setting built {} root allocated

/-- A root that fails in a context without active calls fails directly. -/
theorem expandRoot_of_outcome {library : Library} (built : library.Built)
    {context : Context} (idle : context.calls = []) {root : Instance}
    {failure : Failure}
    (failed : (Expansion.outcome library context root).result =
      .error failure) :
    ∃ last, expandRoot (.ofContext library context) root
      { allocated := context.labels.allocated } =
      .error failure last := by
  have direct := outcome_eq_over (.ofContext library context) built
    context.scopes root context.labels.allocated
  rw [← idle] at direct
  exact expandRoot_eq_error ((congrArg Outcome.result direct).symm.trans failed)

end Direct

/-- A root is expanded as the direct meaning of its template says: the result is
the same, and so is the number of labels used. -/
theorem Expansion.outcome_eq_direct (library : Library) (built : library.Built)
    (options : Options) (random : Nat) (root : Instance) :
    outcome library (.ofOptions options random) root =
      Direct.outcome (.ofOptions library options random) root 0 :=
  Direct.outcome_eq (.ofOptions library options random) built root 0

theorem Expansion.outcome_page :
    noteLibrary.Built ∧
      outcome noteLibrary (.ofOptions { blankStem := some "b" } 0) pageRoot =
        Direct.outcome (.ofOptions noteLibrary { blankStem := some "b" } 0)
          pageRoot 0 ∧
      Direct.outcome (.ofOptions noteLibrary { blankStem := some "b" } 0)
        pageRoot 0 =
        { result := .ok [ ⟨.blank "b_0", .iri "about", .iri "p"⟩,
            ⟨.blank "b_0", .iri "text", .string "empty"⟩,
            ⟨.blank "b_1", .iri "about", .iri "p"⟩,
            ⟨.blank "b_1", .iri "text", .string "draft"⟩ ]
          allocated := 2 } := by
  refine ⟨noteLibrary_built, ?_, by decide +kernel⟩
  exact outcome_eq_direct noteLibrary noteLibrary_built
    { blankStem := some "b" } 0 pageRoot

end RdfTemplates
