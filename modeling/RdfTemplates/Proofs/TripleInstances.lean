import RdfTemplates.Proofs.Library.Editing
import RdfTemplates.Proofs.Outcome

/-!
# Triples written as instances

A triple of a body can be written as a pattern of its own or as an instance of
the built-in triple template.  The arguments of such an instance are the three
positions, and it is written out where it stands, without a call.  So a library
means the same in either spelling.
-/

namespace RdfTemplates

/-- The instance of the built-in template that stands for a triple pattern. -/
def Triple.asInstance (triple : Triple) : Pattern :=
  .nested Vocabulary.ottrTriple
    [.term triple.subject, .term triple.predicate, .term triple.object]

/-- The second pattern is the first one, which may have become an instance. -/
inductive Pattern.Respelled : Pattern → Pattern → Prop where
  | same (pattern : Pattern) : Respelled pattern pattern
  | asInstance (triple : Triple) : Respelled (.triple triple) triple.asInstance

/-- Some triple patterns of a body are instances in the other one. -/
structure Template.Respelled (template respelled : Template) : Prop where
  signature : template.signature = respelled.signature
  body : List.Forall₂ Pattern.Respelled template.body respelled.body

/-- Some triple patterns of some templates are instances in the other
library. -/
structure Library.Respelled (library respelled : Library) : Prop where
  prefixes : library.prefixes = respelled.prefixes
  templates : List.Forall₂ Template.Respelled library.templates
    respelled.templates

theorem Template.Respelled.edited {template respelled : Template}
    (same : template.Respelled respelled) :
    template.Edited (List.Forall₂ Pattern.Respelled) respelled :=
  ⟨same.signature, same.body⟩

/-- A respelled library differs in bodies only. -/
theorem Library.Respelled.edited {library respelled : Library}
    (same : library.Respelled respelled) :
    library.Edited (List.Forall₂ Pattern.Respelled) respelled :=
  ⟨same.prefixes, same.templates.imp fun _ _ pair => pair.edited⟩

/-! ## Problems -/

theorem flatMap_eq_of_forall₂ {α β γ : Type} {related : α → β → Prop}
    {left : List α} {right : List β} {first : α → List γ} {second : β → List γ}
    (pairs : List.Forall₂ related left right)
    (equal : ∀ a b, related a b → first a = second b) :
    left.flatMap first = right.flatMap second := by
  induction pairs with
  | nil => rfl
  | cons pair _ induction =>
      rw [List.flatMap_cons, List.flatMap_cons, equal _ _ pair, induction]

namespace Library.Respelled

variable {library respelled : Library}

theorem patternFaults_eq (same : library.Respelled respelled)
    (owner : Signature) {pattern other : Pattern}
    (pair : pattern.Respelled other) :
    library.patternFaults owner pattern =
      respelled.patternFaults owner other := by
  cases pair with
  | same => exact same.edited.patternFaults_eq owner pattern
  | asInstance triple =>
      have accepted : respelled.callFaults Vocabulary.ottrTriple 3 = [] := rfl
      simp [Triple.asInstance, patternFaults, argumentFaults, argumentsFaults,
        Triple.terms, accepted]

theorem templateFaults_eq (same : library.Respelled respelled)
    {template other : Template} (pair : template.Respelled other) :
    library.templateFaults template = respelled.templateFaults other := by
  rw [templateFaults, templateFaults, pair.signature]
  congr 1
  apply flatMap_eq_of_forall₂ pair.body
  intro pattern written spelled
  exact same.patternFaults_eq other.signature spelled

theorem problems_eq (same : library.Respelled respelled) :
    library.problems = respelled.problems := by
  rw [problems, problems]
  apply flatMap_eq_of_forall₂ same.templates
  intro template other pair
  rw [same.templateFaults_eq pair, pair.edited.name_eq]

end Library.Respelled

/-! ## Expansion -/

namespace Expansion

section Body

variable {expand : Instance → Expansion Unit}
  (writes : ∀ arguments,
    expand ⟨Vocabulary.ottrTriple, arguments⟩ = writeTripleInstance arguments)

include writes

/-- The positions of a triple are read in the same order from the arguments of
an instance. -/
theorem walkPattern_asInstance (scope : ScopeId) (placeholders : Placeholders)
    (triple : Triple) :
    walkPattern expand scope placeholders triple.asInstance =
      walkPattern expand scope placeholders (.triple triple) := by
  simp only [Triple.asInstance, walkPattern, argumentValue, argumentValues,
    bind_assoc, pure_bind, writes, writeTripleInstance]

theorem walkPattern_respelled (scope : ScopeId) (placeholders : Placeholders)
    {pattern other : Pattern} (pair : pattern.Respelled other) :
    walkPattern expand scope placeholders pattern =
      walkPattern expand scope placeholders other := by
  cases pair with
  | same => rfl
  | asInstance triple =>
      exact (walkPattern_asInstance writes scope placeholders triple).symm

theorem walkBody_respelled (scope : ScopeId) (placeholders : Placeholders)
    {body other : List Pattern}
    (pairs : List.Forall₂ Pattern.Respelled body other) :
    walkBody expand scope placeholders body =
      walkBody expand scope placeholders other := by
  induction pairs generalizing placeholders with
  | nil => rfl
  | cons pair _ induction =>
      rw [walkBody, walkBody,
        walkPattern_respelled writes scope placeholders pair]
      congr 1
      funext later
      exact induction later

theorem expandRow_respelled (defaults : ScopeId) (row : List Term)
    {template other : Template}
    (pair : template.Edited (List.Forall₂ Pattern.Respelled) other) :
    expandRow expand template defaults row =
      expandRow expand other defaults row := by
  simp only [expandRow, pair.signature, pair.name_eq,
    fun scope => walkBody_respelled writes scope {} pair.body]

theorem expandEachRow_respelled (defaults : ScopeId) (rows : List (List Term))
    {template other : Template}
    (pair : template.Edited (List.Forall₂ Pattern.Respelled) other) :
    expandEachRow expand template defaults rows =
      expandEachRow expand other defaults rows := by
  induction rows with
  | nil => rfl
  | cons row rows induction =>
      rw [expandEachRow, expandEachRow,
        expandRow_respelled writes defaults row pair, induction]

theorem expandCall_respelled {library respelled : Library}
    (same : library.Respelled respelled) (call : Instance) :
    expandCall library expand call = expandCall respelled expand call := by
  rcases same.edited.find? call.template with
    ⟨template, other, found, foundOther, pair⟩ | ⟨absent, absentOther⟩
  · simp only [expandCall, Library.lookup, found, foundOther, check, pure_bind,
      pair.signature, expandEachRow_respelled writes _ _ pair]
  · simp only [expandCall, Library.lookup, absent, absentOther]

end Body

theorem expandWithin_ottrTriple (library : Library) (room : Nat)
    (arguments : List Term) :
    expandWithin library room ⟨Vocabulary.ottrTriple, arguments⟩ =
      writeTripleInstance arguments := by
  cases room <;> simp [expandWithin]

variable {library respelled : Library} (same : library.Respelled respelled)

include same

theorem expandWithin_respelled (room : Nat) (inst : Instance) :
    expandWithin library room inst = expandWithin respelled room inst := by
  induction room generalizing inst with
  | zero => rw [expandWithin, expandWithin]
  | succ room induction =>
      have nested : expandWithin library room = expandWithin respelled room :=
        funext induction
      -- With any room left, an instance of the built-in template is no call.
      have writes := expandWithin_ottrTriple respelled room
      rw [expandWithin, expandWithin, nested,
        expandCall_respelled writes same inst]

theorem expandRoot_respelled (root : Instance) :
    expandRoot library root = expandRoot respelled root := by
  simp only [expandRoot, expandInstance, same.edited.resolveRoot_eq,
    expandWithin_respelled same]

/-- Triple patterns and instances of the built-in template are interchangeable:
nothing that can be seen of a root depends on the spelling, and neither do the
problems of the library. -/
theorem outcome_respelled :
    (∀ (context : Context) (root : Instance),
      outcome library context root = outcome respelled context root) ∧
    library.problems = respelled.problems := by
  constructor
  · intro context root
    rw [outcome, outcome, expandRoot_respelled same]
  · exact same.problems_eq

end Expansion

/-- The notes with one triple of a note written as an instance. -/
def spelledNoteLibrary : Library where
  templates :=
    noteTemplates.modify 0 fun note =>
      { note with
        body :=
          [ .triple ⟨.blank "note", .iri "about", .var "about"⟩,
            .nested Vocabulary.ottrTriple
              [ .term (.blank "note"), .term (.iri "text"),
                .term (.var "text") ] ] }

theorem noteLibrary_respelled : noteLibrary.Respelled spelledNoteLibrary where
  prefixes := rfl
  templates := by
    have same : ∀ template : Template, template.Respelled template :=
      fun template =>
      ⟨rfl, List.forall₂_same.mpr fun pattern _ => .same pattern⟩
    refine .cons ⟨rfl, ?_⟩ (.cons (same _) (.cons (same _) .nil))
    exact .cons (.same _) (.cons (.asInstance _) .nil)

theorem Expansion.outcome_spelled_page :
    noteLibrary.Respelled spelledNoteLibrary ∧
      noteLibrary ≠ spelledNoteLibrary ∧
      outcome noteLibrary (.ofOptions { blankStem := some "b" } 0) pageRoot =
        outcome spelledNoteLibrary
          (.ofOptions { blankStem := some "b" } 0) pageRoot ∧
      (outcome spelledNoteLibrary
        (.ofOptions { blankStem := some "b" } 0) pageRoot).result =
        .ok [ ⟨.blank "b_0", .iri "about", .iri "p"⟩,
          ⟨.blank "b_0", .iri "text", .string "empty"⟩,
          ⟨.blank "b_1", .iri "about", .iri "p"⟩,
          ⟨.blank "b_1", .iri "text", .string "draft"⟩ ] ∧
      noteLibrary.problems = spelledNoteLibrary.problems := by
  obtain ⟨outcomes, problems⟩ := outcome_respelled noteLibrary_respelled
  refine ⟨noteLibrary_respelled, by decide, outcomes _ pageRoot,
    by decide +kernel, problems⟩

end RdfTemplates
