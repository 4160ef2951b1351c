import RdfTemplates.Proofs.Contract
import RdfTemplates.Proofs.Direct.Emission
import RdfTemplates.Proofs.Direct.Refinement
import RdfTemplates.Proofs.Repetitions
import RdfTemplates.Proofs.Watched.Engine

/-!
# What circulates in an expansion

The terms of an expansion come from the arguments of its root, from defaults and
from bodies.  A kind of terms that has the defaults, and that substitution in
bodies and the taking apart of lists do not leave, is the kind of all terms in
scopes and calls and of all values of body terms, at every moment.  And whenever
a body is walked, its names have the values of a row over which the innermost
call is spread.
-/

namespace RdfTemplates

/-- A kind of terms that has the defaults of a library and that its bodies do
not leave. -/
structure Library.Preserves (library : Library) (kind : Term → Prop) :
    Prop where
  absent : kind .none
  list : ∀ items, kind (.list items) ↔ ∀ item ∈ items, kind item
  default : ∀ template ∈ library.templates,
    ∀ parameter ∈ template.signature.parameters,
      ∀ value, parameter.default = some value → kind value
  substitute : ∀ (lookup : String → Option Term) (term value : Term),
    (∀ name bound, lookup name = some bound → kind bound) →
      term.substitute lookup = .ok value → kind value

/-- All terms that are bound in scopes or given to active calls are of a
kind. -/
structure Circulating (kind : Term → Prop) (scopes : ScopeArena)
    (calls : List Instance) : Prop where
  bindings : ∀ scope ∈ scopes.scopes, ∀ binding ∈ scope.bindings, kind binding.2
  arguments : ∀ call ∈ calls, ∀ argument ∈ call.arguments, kind argument

namespace ScopeArena

theorem mem_bindings_of_lookupIn {name : String} {value : Term}
    {scopes : List Scope} {id : ScopeId}
    (found : lookupIn name scopes id = some value) :
    ∃ scope ∈ scopes, (name, value) ∈ scope.bindings := by
  induction scopes generalizing id with
  | nil => cases found
  | cons scope older induction =>
      have fromOlder {id : ScopeId}
          (found : lookupIn name older id = some value) :
          ∃ scope' ∈ scope :: older, (name, value) ∈ scope'.bindings := by
        obtain ⟨holder, member, bound⟩ := induction found
        exact ⟨holder, List.mem_cons_of_mem _ member, bound⟩
      simp only [lookupIn] at found
      split at found
      · split at found
        · rename_i bound
          cases found
          obtain ⟨later, earlier, split, _⟩ := List.lookup_eq_some_iff.mp bound
          refine ⟨scope, List.mem_cons_self, ?_⟩
          rw [split]
          exact List.mem_append_right later List.mem_cons_self
        · split at found
          · exact fromOlder found
          · cases found
      · exact fromOlder found

end ScopeArena

namespace Circulating

variable {kind : Term → Prop} {scopes : ScopeArena} {calls : List Instance}

theorem lookup (circulating : Circulating kind scopes calls) {scope : ScopeId}
    {name : String} {value : Term}
    (found : scopes.lookup scope name = some value) : kind value := by
  obtain ⟨holder, member, bound⟩ := ScopeArena.mem_bindings_of_lookupIn found
  exact circulating.bindings holder member _ bound

theorem enter (circulating : Circulating kind scopes calls) {call : Instance}
    (given : ∀ argument ∈ call.arguments, kind argument) :
    Circulating kind scopes (call :: calls) where
  bindings := circulating.bindings
  arguments := List.forall_mem_cons.mpr ⟨given, circulating.arguments⟩

theorem inScope (circulating : Circulating kind scopes calls)
    (parent : Option ScopeId) {bindings : List (String × Term)}
    (bound : ∀ binding ∈ bindings, kind binding.2) :
    Circulating kind ⟨Scope.ofBindings parent bindings :: scopes.scopes⟩
      calls where
  bindings := by
    refine List.forall_mem_cons.mpr ⟨?_, circulating.bindings⟩
    intro binding member
    exact bound binding (List.mem_reverse.mp member)
  arguments := circulating.arguments

end Circulating

/-- The innermost call is an instance of a template, and a scope gives the names
of its body the values of one of the rows over which the call is spread. -/
structure Sight.Repeats (library : Library) (checkTypes : Bool) (sight : Sight)
    (template : Template) (scope : ScopeId) (call : Instance)
    (row : List Term) : Prop where
  active : sight.context.calls.head? = some call
  defined : library.lookup call.template = .ok template
  hasRow : call.HasRow template.signature checkTypes row
  lookup : ∀ name, sight.context.scopes.lookup scope name =
    Direct.rowValue template.signature.parameters
      (Expansion.fillRow template.signature.parameters row) name

/-- What is always seen in an expansion where a kind of terms circulates. -/
structure Sight.Regular (setting : Direct.Setting) (kind : Term → Prop)
    (sight : Sight) : Prop where
  circulating : Circulating kind sight.context.scopes sight.context.calls
  terms : ∀ term ∈ sight.moment.terms, kind term
  repetition : ∀ template scope, sight.moment = .walking template scope →
    ∃ call row, sight.Repeats setting.library setting.checkTypes template
      scope call row

/-- If a triple is refused, it is because of a term of a kind. -/
def Failure.RefusesOnly (kind : Term → Prop) (failure : Failure) : Prop :=
  ∀ position term reason, failure.fault = .invalidTriple position term reason →
    kind term

theorem Failure.refusesOnly_of_kind {kind : Term → Prop} {failure : Failure}
    (other : failure.fault.kind ≠ .triple) : failure.RefusesOnly kind := by
  intro position term reason isTriple
  rw [isTriple] at other
  exact absurd rfl other

namespace Direct

/-- The contract of runs that refuse only terms of a kind. -/
def refusing (kind : Term → Prop) : Contract Trail where
  states _ := True
  failures failure _ := failure.RefusesOnly kind

section Refusing

variable {kind : Term → Prop} {library : Library} {stem : String}
  {calls : List Instance}

theorem refusing_fail {α : Type} {values : α → Prop} {fault : Fault}
    (other : fault.kind ≠ .triple) :
    (refusing kind).MetBy values (fail calls fault) :=
  fun _ _ => Failure.refusesOnly_of_kind other

theorem refusing_check {α : Type} {result : Except Fault α}
    (other : ∀ fault, result = .error fault → fault.kind ≠ .triple) :
    (refusing kind).MetBy (fun value => result = .ok value)
      (check calls result) := by
  cases result with
  | ok value => exact .pure rfl
  | error fault => exact refusing_fail (other fault rfl)

theorem refusing_bodyTerm (preserves : library.Preserves kind)
    {values : String → Option Term}
    (bound : ∀ name value, values name = some value → kind value)
    (placeholders : Placeholders) (term : Term) :
    (refusing kind).MetBy (fun result => kind result.1)
      (bodyTerm stem calls values placeholders term) := by
  intro trail _
  simp only [bodyTerm]
  split
  · rename_i value replaced
    exact ⟨preserves.substitute values _ value bound replaced, trivial⟩
  · exact Failure.refusesOnly_of_kind (by simp [Fault.kind])

theorem refusing_writeTriple (preserves : library.Preserves kind)
    {subject predicate object : Term} (subjectKind : kind subject)
    (predicateKind : kind predicate) (objectKind : kind object) :
    (refusing kind).MetBy (fun _ => True)
      (writeTriple stem calls subject predicate object) := by
  have refusingTerms : (refusingTerms calls kind).MetBy (fun _ => True)
      (writeTriple stem calls subject predicate object) :=
    refusingTerms_writeTriple (preserves.list _).mp subjectKind predicateKind
      objectKind
  apply refusingTerms.excuse
  rintro failure trail ⟨position, term, reason, rfl, termKind⟩ _ _ _ same
  cases same
  exact termKind

theorem refusing_writeTripleInstance (preserves : library.Preserves kind)
    {arguments : List Term} (given : ∀ argument ∈ arguments, kind argument) :
    (refusing kind).MetBy (fun _ => True)
      (writeTripleInstance stem calls arguments) := by
  match arguments with
  | [subject, predicate, object] =>
      exact refusing_writeTriple preserves (given subject (by simp))
        (given predicate (by simp)) (given object (by simp))
  | [] | [_] | [_, _] | _ :: _ :: _ :: _ :: _ =>
      exact refusing_fail (by simp [Fault.kind, Fault.tripleArity])

end Refusing

end Direct

namespace Watched

open Direct (Setting Refines refusing)

/-- The contract of watched steps in given scopes and calls: they return to
them, and everything seen is regular, also on the way to a failure. -/
def watching (setting : Setting) (kind : Term → Prop) (scopes : ScopeArena)
    (calls : List Instance) : Contract Watch where
  states watch :=
    (∃ allocated, watch.state.context =
      setting.context allocated scopes calls) ∧
      ∀ sight ∈ watch.sights, sight.Regular setting kind
  failures failure watch :=
    (∀ sight ∈ watch.sights, sight.Regular setting kind) ∧
      failure.RefusesOnly kind

section Rules

variable {setting : Setting} {kind : Term → Prop} {scopes : ScopeArena}
  {calls : List Instance} {α : Type} {values : α → Prop}

/-- A step that refines a run does nothing worse than this run. -/
theorem watching_plain {step : Expansion α} {run : Direct.Run α}
    (refines : Refines setting scopes calls step run)
    (met : (refusing kind).MetBy values run) :
    (watching setting kind scopes calls).MetBy values (plain step) := by
  rintro watch ⟨⟨allocated, inContext⟩, regular⟩
  let trail : Direct.Trail :=
    { allocated, triples := watch.state.output.toList }
  have result := met trail trivial
  have states : (setting.refinement scopes calls).states watch.state trail :=
    ⟨inContext, rfl⟩
  rcases refines.outcomes states with
    ⟨value, next, nextTrail, stepEnd, runEnd, nextStates⟩ |
    ⟨failure, next, nextTrail, stepEnd, runEnd, _⟩
  · rw [runEnd] at result
    simp only [plain, stepEnd]
    exact ⟨result.1, ⟨_, nextStates.1⟩, regular⟩
  · rw [runEnd] at result
    simp only [plain, stepEnd]
    exact ⟨regular, result⟩

theorem watching_look {moment : Moment}
    (regular : ∀ allocated, Sight.Regular setting kind
      ⟨moment, setting.context allocated scopes calls⟩) :
    (watching setting kind scopes calls).MetBy (fun _ => True)
      (look moment) := by
  rintro watch ⟨⟨allocated, inContext⟩, allRegular⟩
  refine ⟨trivial, ⟨allocated, inContext⟩,
    List.forall_mem_cons.mpr ⟨?_, allRegular⟩⟩
  rw [inContext]
  exact regular allocated

/-- What is in force is regular whatever terms of the kind are at hand. -/
theorem regular_of_terms (circulating : Circulating kind scopes calls)
    {moment : Moment} (terms : ∀ term ∈ moment.terms, kind term)
    (other : moment.isWalking = false) (allocated : Nat) :
    Sight.Regular setting kind
      ⟨moment, setting.context allocated scopes calls⟩ where
  circulating := circulating
  terms := terms
  repetition template scope walking := by
    rw [show moment = _ from walking] at other
    cases other

theorem watching_check {result : Except Fault α}
    (other : ∀ fault, result = .error fault → fault.kind ≠ .triple) :
    (watching setting kind scopes calls).MetBy (fun value => result = .ok value)
      (plain (Expansion.check result)) :=
  watching_plain (Refines.check result) (Direct.refusing_check other)

theorem watching_record (event : Event) :
    (watching setting kind scopes calls).MetBy (fun _ => True)
      (plain (Expansion.record event)) :=
  watching_plain (Refines.record event) (.pure trivial)

theorem watching_context :
    (watching setting kind scopes calls).MetBy (fun present => ∃ allocated,
      present = setting.context allocated scopes calls)
      (plain Expansion.context) :=
  fun _ states => ⟨states.1, states⟩

/-- A call that is refused leaves nothing to be seen. -/
theorem watching_refused {call : Instance} {fault : Fault}
    {rest : Unit → Watched α}
    (refused : ∀ allocated,
      (setting.context allocated scopes calls).enter call =
        .error { fault, calls })
    (other : fault.kind ≠ .triple) :
    (watching setting kind scopes calls).MetBy values
      (plain (Expansion.enter call) >>= rest) := by
  have failed : (watching setting kind scopes calls).MetBy (fun _ => False)
      (plain (Expansion.enter call)) :=
    watching_plain (Refines.enter_refused refused) (Direct.refusing_fail other)
  exact failed.bind fun _ impossible => False.elim impossible

/-- A step inside other scopes and calls, after which the former ones are in
force again. -/
theorem watching_lastly {innerScopes : ScopeArena} {innerCalls : List Instance}
    {step : Watched α} {change : ExpansionState → ExpansionState}
    (inside : (watching setting kind innerScopes innerCalls).MetBy values step)
    (returns : ∀ state allocated,
      state.context = setting.context allocated innerScopes innerCalls →
        (change state).context = setting.context allocated scopes calls)
    {watch : Watch}
    (states : (watching setting kind innerScopes innerCalls).states watch) :
    (watching setting kind scopes calls).Results values
      (lastly change step watch) := by
  have result := inside watch states
  unfold lastly
  cases ended : step watch with
  | ok value next =>
      rw [ended] at result
      obtain ⟨expected, ⟨allocated, inContext⟩, regular⟩ := result
      exact ⟨expected, ⟨allocated, returns next.state allocated inContext⟩,
        regular⟩
  | error failure next =>
      rw [ended] at result
      exact result

theorem watching_calling {step : Watched Unit} {call : Instance}
    (entered : ∀ allocated,
      (setting.context allocated scopes calls).enter call =
        .ok (setting.context allocated scopes (call :: calls)))
    (inside :
      (watching setting kind scopes (call :: calls)).MetBy (fun _ => True)
        (do look .entered; step)) :
    (watching setting kind scopes calls).MetBy (fun _ => True)
      (calling call step) := by
  rintro watch ⟨⟨allocated, inContext⟩, regular⟩
  let active : Watch :=
    { watch with
      state :=
        { watch.state with
          context := setting.context allocated scopes (call :: calls) } }
  have enters : Expansion.enter call watch.state = .ok () active.state := by
    simp only [Expansion.enter, inContext, entered]
    rfl
  have runs : calling call step watch =
      lastly (fun state => { state with context := state.context.leave })
        (do look .entered; step) active := by
    show EStateM.bind (plain (Expansion.enter call)) _ watch = _
    simp only [EStateM.bind, plain, enters]
    rfl
  have states : (watching setting kind scopes (call :: calls)).states active :=
    ⟨⟨allocated, rfl⟩, regular⟩
  rw [runs]
  apply watching_lastly inside _ states
  intro state nextAllocated nextContext
  simp [nextContext, Context.leave, Setting.context]

theorem watching_inScope {parent : Option ScopeId}
    {bindings : List (String × Term)} {step : ScopeId → Watched Unit}
    (distinct : (bindings.map Prod.fst).Nodup)
    (inside : (watching setting kind
      ⟨Scope.ofBindings parent bindings :: scopes.scopes⟩ calls).MetBy
      (fun _ => True) (step scopes.size)) :
    (watching setting kind scopes calls).MetBy (fun _ => True)
      (inScope parent bindings step) := by
  rintro watch ⟨⟨allocated, inContext⟩, regular⟩
  -- The scope is pushed and filled in one go, so that the step starts in a
  -- known arena.
  have liveScopes : watch.state.context.scopes = scopes := by
    simp [inContext, Setting.context]
  let inner : Watch :=
    { watch with
      state :=
        watch.state.withScopes
          ⟨Scope.ofBindings parent bindings :: scopes.scopes⟩ }
  have runs : inScope parent bindings step watch =
      lastly (Expansion.releaseScopes scopes.size)
        (step scopes.size) inner := by
    simp only [inScope, lastly, Bind.bind, EStateM.bind, plain, liveScopes,
      Expansion.pushScope_eq liveScopes, Expansion.bindNames_pushed distinct]
    rfl
  have states :
      (watching setting kind ⟨Scope.ofBindings parent bindings :: scopes.scopes⟩
        calls).states inner := by
    refine ⟨⟨allocated, ?_⟩, regular⟩
    simp [inner, ExpansionState.withScopes, inContext, Setting.context]
  rw [runs]
  apply watching_lastly inside _ states
  intro state nextAllocated nextContext
  simp [Expansion.releaseScopes, nextContext, Setting.context,
    ScopeArena.release, ScopeArena.size]

end Rules

end Watched

end RdfTemplates
