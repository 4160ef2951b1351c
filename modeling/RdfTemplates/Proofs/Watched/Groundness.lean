import RdfTemplates.Library.Validation
import RdfTemplates.Proofs.Variables
import RdfTemplates.Proofs.Watched.Regularity

/-!
# Variables in the course of an expansion

The arguments of a root are ground, and the variables of a body are replaced.
So the only variables that can turn up as values are those of defaults, which
nothing checks: where all defaults are ground, all terms in scopes and calls
are, and no triple is refused because of a variable.
-/

namespace RdfTemplates

/-- All terms that are in force or at hand when something is seen. -/
def Sight.terms (sight : Sight) : List Term :=
  sight.context.scopes.scopes.flatMap (·.bindings.map (·.2)) ++
    sight.context.calls.flatMap (·.arguments) ++ sight.moment.terms

theorem Sight.Regular.kind_of_mem {setting : Direct.Setting}
    {kind : Term → Prop} {sight : Sight}
    (regular : sight.Regular setting kind) :
    ∀ term ∈ sight.terms, kind term := by
  intro term member
  rcases List.mem_append.mp member with inForce | atHand
  · rcases List.mem_append.mp inForce with bound | given
    · obtain ⟨scope, live, inScope⟩ := List.mem_flatMap.mp bound
      obtain ⟨binding, held, rfl⟩ := List.mem_map.mp inScope
      exact regular.circulating.bindings scope live binding held
    · obtain ⟨call, active, argument⟩ := List.mem_flatMap.mp given
      exact regular.circulating.arguments call active term argument
  · exact regular.terms term atHand

namespace Library

/-- The variable stands in a default of some parameter. -/
def DefaultsMention (library : Library) (name : String) : Prop :=
  ∃ template ∈ library.templates, ∃ parameter ∈ template.signature.parameters,
    ∃ value, parameter.default = some value ∧ name ∈ value.variableNames

/-- No variable stands in a default. -/
def HasGroundDefaults (library : Library) : Prop :=
  ∀ template ∈ library.templates, ∀ parameter ∈ template.signature.parameters,
    ∀ value ∈ parameter.default, value.isGround = true

instance (library : Library) : Decidable library.HasGroundDefaults :=
  inferInstanceAs (Decidable (∀ template ∈ library.templates,
    ∀ parameter ∈ template.signature.parameters, ∀ value ∈ parameter.default,
      value.isGround = true))

/-- The variables of a term are all those of defaults. -/
def SuppliesVariables (library : Library) (term : Term) : Prop :=
  ∀ name ∈ term.variableNames, library.DefaultsMention name

theorem suppliesVariables_of_isGround (library : Library) {term : Term}
    (ground : term.isGround = true) : library.SuppliesVariables term := by
  intro name occurs
  rw [(Term.isGround_iff term).mp ground] at occurs
  cases occurs

theorem HasGroundDefaults.isGround {library : Library}
    (ground : library.HasGroundDefaults) {term : Term}
    (supplied : library.SuppliesVariables term) : term.isGround = true := by
  rw [Term.isGround_iff, List.eq_nil_iff_forall_not_mem]
  intro name occurs
  obtain ⟨template, defined, parameter, declared, value, isDefault,
    mentioned⟩ :=
    supplied name occurs
  have defaultGround :=
    ground template defined parameter declared value isDefault
  rw [(Term.isGround_iff value).mp defaultGround] at mentioned
  cases mentioned

theorem preserves_suppliesVariables (library : Library) :
    library.Preserves library.SuppliesVariables where
  absent := by
    intro name occurs
    cases occurs
  list items := by
    constructor
    · intro supplied item member name occurs
      exact supplied name
        (Term.mem_listVariableNames.mpr ⟨item, member, occurs⟩)
    · intro supplied name occurs
      obtain ⟨item, member, inItem⟩ := Term.mem_listVariableNames.mp occurs
      exact supplied item member name inItem
  default template defined parameter declared value isDefault name occurs :=
    ⟨template, defined, parameter, declared, value, isDefault, occurs⟩
  substitute lookup term value bound replaced name occurs := by
    obtain ⟨replacedName, put, found, inPut⟩ :=
      Term.mem_variableNames_of_substitute replaced occurs
    exact bound replacedName put found name inPut

end Library

namespace Expansion

/-- The only variables that turn up in the course of an expansion, bound in a
scope, given to a call or in place of a triple, are those of defaults; where all
defaults are ground there are none, and no triple is refused because of one. -/
theorem sights_variables (library : Library) (built : library.Built)
    (context : Context)
    (clean : Circulating (·.isGround = true) context.scopes context.calls)
    (root : Instance) :
    Watched.forget (Watched.expandRoot library root { state := { context } }) =
      expandRoot library root { context } ∧
      (∀ sight ∈ sights library context root, ∀ term ∈ sight.terms,
        library.SuppliesVariables term) ∧
      (∀ failure, (outcome library context root).result = .error failure →
        failure.RefusesOnly library.SuppliesVariables) ∧
      (library.HasGroundDefaults →
        (∀ sight ∈ sights library context root, ∀ term ∈ sight.terms,
          term.isGround = true) ∧
          ∀ failure, (outcome library context root).result = .error failure →
            failure.RefusesOnly (·.isGround = true)) := by
  have circulating :
      Circulating library.SuppliesVariables context.scopes context.calls :=
    ⟨fun scope live binding held =>
        library.suppliesVariables_of_isGround
          (clean.bindings scope live binding held),
      fun call active argument given =>
        library.suppliesVariables_of_isGround
          (clean.arguments call active argument given)⟩
  have given (ground : Term.firstVariableIn? root.arguments = none) :
      ∀ argument ∈ root.arguments, library.SuppliesVariables argument := by
    rw [Term.firstVariableIn?_eq_head?, List.head?_eq_none_iff] at ground
    intro argument member name occurs
    have listed := Term.mem_listVariableNames.mpr ⟨argument, member, occurs⟩
    rw [ground] at listed
    cases listed
  obtain ⟨regular, refuses⟩ :=
    sights_regular built library.preserves_suppliesVariables circulating given
  refine ⟨Watched.Shows.expandRoot library root _, ?_, refuses, ?_⟩
  · intro sight seen
    exact (regular sight seen).kind_of_mem
  · intro ground
    constructor
    · intro sight seen term member
      exact ground.isGround ((regular sight seen).kind_of_mem term member)
    · intro failure failed position term reason refused
      exact ground.isGround
        (refuses failure failed position term reason refused)

end Expansion

theorem Expansion.sights_page :
    noteLibrary.Built ∧
      Circulating (·.isGround = true)
        (Context.ofOptions { blankStem := some "b" } 0).scopes
        (Context.ofOptions { blankStem := some "b" } 0).calls ∧
      noteLibrary.HasGroundDefaults ∧
      (∀ sight ∈ sights noteLibrary (.ofOptions { blankStem := some "b" } 0)
          pageRoot,
        ∀ term ∈ sight.terms, term.isGround = true) ∧
      ((sights noteLibrary (.ofOptions { blankStem := some "b" } 0)
          pageRoot).flatMap
        fun sight => match sight.moment with
          | .writing terms => [terms]
          | _ => []) =
        [ [.blank "b_1", .iri "text", .string "draft"],
          [.blank "b_1", .iri "about", .iri "p"],
          [.blank "b_0", .iri "text", .string "empty"],
          [.blank "b_0", .iri "about", .iri "p"] ] := by
  have clean : Circulating (·.isGround = true)
      (Context.ofOptions { blankStem := some "b" } 0).scopes
      (Context.ofOptions { blankStem := some "b" } 0).calls :=
    ⟨by simp [Context.ofOptions], by simp [Context.ofOptions]⟩
  have ground : noteLibrary.HasGroundDefaults := by decide +kernel
  have supplied :=
    sights_variables noteLibrary noteLibrary_built _ clean pageRoot
  exact ⟨noteLibrary_built, clean, ground, (supplied.2.2.2 ground).1,
    by decide +kernel⟩

/-! ## A default that is not ground -/

/-- The default of the only parameter is a variable.  Validation does not see
it. -/
def openDefaultTemplates : List Template :=
  [ { signature := { name := "T", parameters :=
                       [{ name := "x", default := some (.var "y") }] }
      body := [.triple ⟨.iri "a", .iri "p", .var "x"⟩] } ]

def openDefaultLibrary : Library :=
  { templates := openDefaultTemplates }

theorem Expansion.outcome_openDefault :
    openDefaultLibrary.Built ∧ openDefaultLibrary.problems = [] ∧
      (outcome openDefaultLibrary (.ofOptions { blankStem := some "b" } 0)
        ⟨"T", []⟩).result =
        .error
          { fault := .invalidTriple "object" (.var "y") "not a ground RDF term"
            calls := [⟨"T", []⟩] } ∧
      ¬∀ sight ∈ sights openDefaultLibrary
        (.ofOptions { blankStem := some "b" } 0) ⟨"T", []⟩,
        ∀ term ∈ sight.terms, term.isGround = true := by
  have accepted :
      Library.ofTemplates openDefaultTemplates = .ok openDefaultLibrary := rfl
  exact ⟨Library.built_of_ofTemplates accepted, by decide +kernel,
    by decide +kernel, by decide +kernel⟩

end RdfTemplates
