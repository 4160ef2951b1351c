import RdfTemplates.Proofs.Labels.Terms
import RdfTemplates.Expansion.Engine

/-!
# Calls up to labels

Matching arguments are bound, checked and spread over rows alike: to matching
values and rows, or to faults that differ in the labels of the terms they carry.
-/

namespace RdfTemplates

/-- Whether a fault is the refusal of a call; every other fault arises inside
one. -/
def Fault.refusesCall : Fault → Bool
  | .cyclicExpansion _ | .depthExceeded _ => true
  | _ => false

/-- The terms that a fault carries. -/
def Fault.terms : Fault → List Term
  | .typeMismatch _ _ _ actual => [actual]
  | .cyclicExpansion inst => inst.arguments
  | .blankNodeNotAllowed _ _ value => [value]
  | .invalidTriple _ term _ => [term]
  | _ => []

/-- Two instances of one template whose arguments match. -/
structure Instance.Matches (labels : String → String → Prop)
    (left right : Instance) : Prop where
  template : left.template = right.template
  arguments : List.Forall₂ (Term.Matches labels) left.arguments right.arguments

/-- Two faults of one kind that agree but for the terms they carry, which
match. -/
inductive Fault.Matches (labels : String → String → Prop) :
    Fault → Fault → Prop where
  | plain {fault : Fault} : fault.terms = [] → Matches labels fault fault
  | typeMismatch (template parameter expected : String) {left right : Term} :
      left.Matches labels right →
      Matches labels (.typeMismatch template parameter expected left)
        (.typeMismatch template parameter expected right)
  | blankNodeNotAllowed (template parameter : String) {left right : Term} :
      left.Matches labels right →
      Matches labels (.blankNodeNotAllowed template parameter left)
        (.blankNodeNotAllowed template parameter right)
  | invalidTriple (position reason : String) {left right : Term} :
      left.Matches labels right →
        Matches labels (.invalidTriple position left reason)
          (.invalidTriple position right reason)
  | cyclicExpansion {left right : Instance} : left.Matches labels right →
      Matches labels (.cyclicExpansion left) (.cyclicExpansion right)

theorem Instance.matches_self {labels : String → String → Prop}
    {inst : Instance}
    (related : ∀ label ∈ Term.listBlankNames inst.arguments,
      labels label label) :
    inst.Matches labels inst :=
  ⟨rfl, Term.all_match_self related⟩

theorem Instance.Matches.eq_of_eq {left right : Instance}
    (matching : left.Matches Eq right) : left = right := by
  obtain ⟨template, arguments⟩ := left
  obtain ⟨sameTemplate, matchingArguments⟩ := matching
  simp only at sameTemplate matchingArguments
  rw [sameTemplate, Term.all_eq_of_eq matchingArguments]

theorem Fault.Matches.eq_of_eq {left right : Fault}
    (matching : left.Matches Eq right) : left = right := by
  cases matching with
  | plain => rfl
  | typeMismatch _ _ _ terms | blankNodeNotAllowed _ _ terms
  | invalidTriple _ _ terms =>
      rw [terms.eq_of_eq]
  | cyclicExpansion instances => rw [instances.eq_of_eq]

/-- Two matching faults that arise inside a call. -/
def Fault.MatchesInside (labels : String → String → Prop)
    (left right : Fault) : Prop :=
  left.Matches labels right ∧ left.refusesCall = false

variable {labels : String → String → Prop}

theorem Fault.matchesInside_plain {fault : Fault} (plain : fault.terms = [])
    (inside : fault.refusesCall = false) : fault.MatchesInside labels fault :=
  ⟨.plain plain, inside⟩

/-- The defaults of parameters match themselves. -/
def DefaultsMatch (labels : String → String → Prop)
    (parameters : List Parameter) : Prop :=
  ∀ parameter ∈ parameters, ∀ default, parameter.default = some default →
    default.Matches labels default

/-! ## Binding -/

theorem valueFor_related {parameter : Parameter} {left right : Option Term}
    (defaultMatches : ∀ default, parameter.default = some default →
      default.Matches labels default)
    (arguments : Option.Rel (Term.Matches labels) left right) :
    Option.Rel (Term.Matches labels) (parameter.valueFor left)
      (parameter.valueFor right) := by
  have fallback : Option.Rel (Term.Matches labels) (parameter.valueFor none)
      (parameter.valueFor none) := by
    simp only [Parameter.valueFor]
    cases hasDefault : parameter.default with
    | some default => exact .some (defaultMatches default hasDefault)
    | none =>
        cases parameter.optional with
        | true => exact .some .none
        | false => exact .none
  cases arguments with
  | none => exact fallback
  | some matching =>
      cases matching with
      | none => exact fallback
      | iri name => exact .some (.iri name)
      | literal value => exact .some (.literal value)
      | blank related => exact .some (.blank related)
      | var name => exact .some (.var name)
      | list items => exact .some (.list items)

theorem head?_related {lefts rights : List Term}
    (matching : List.Forall₂ (Term.Matches labels) lefts rights) :
    Option.Rel (Term.Matches labels) lefts.head? rights.head? := by
  cases matching with
  | nil => exact .none
  | cons head _ => exact .some head

theorem tail_related {lefts rights : List Term}
    (matching : List.Forall₂ (Term.Matches labels) lefts rights) :
    List.Forall₂ (Term.Matches labels) lefts.tail rights.tail := by
  cases matching with
  | nil => exact .nil
  | cons _ tail => exact tail

theorem bindValues_related {parameters : List Parameter}
    {lefts rights : List Term} (defaults : DefaultsMatch labels parameters)
    (arguments : List.Forall₂ (Term.Matches labels) lefts rights) :
    Option.Rel (List.Forall₂ (Term.Matches labels))
      (bindValues parameters lefts) (bindValues parameters rights) := by
  induction parameters generalizing lefts rights with
  | nil => exact .some .nil
  | cons parameter parameters induction =>
      have tailDefaults : DefaultsMatch labels parameters := fun other member =>
        defaults other (List.mem_cons_of_mem _ member)
      have rest := induction tailDefaults (tail_related arguments)
      have argument : Option.Rel (Term.Matches labels)
          (if parameter.variadic && parameters.isEmpty then some (.list lefts)
            else lefts.head?)
          (if parameter.variadic && parameters.isEmpty then some (.list rights)
            else rights.head?) := by
        split
        · exact .some (.list arguments)
        · exact head?_related arguments
      have value :=
        valueFor_related (defaults parameter List.mem_cons_self) argument
      simp only [bindValues]
      generalize parameter.valueFor _ = leftValue at value ⊢
      generalize parameter.valueFor _ = rightValue at value ⊢
      generalize bindValues parameters lefts.tail = leftRest at rest ⊢
      generalize bindValues parameters rights.tail = rightRest at rest ⊢
      cases value with
      | none => exact .none
      | some matching =>
          cases rest with
          | none => exact .none
          | some others => exact .some (.cons matching others)

theorem checkArity_plain {signature : Signature} {count : Nat} {fault : Fault}
    (refused : signature.checkArity count = .error fault) :
    fault.MatchesInside labels fault := by
  unfold Signature.checkArity at refused
  split at refused
  · cases refused
    exact Fault.matchesInside_plain rfl rfl
  · split at refused
    · cases refused
      exact Fault.matchesInside_plain rfl rfl
    · cases refused

theorem bindArguments_related {signature : Signature} {lefts rights : List Term}
    (defaults : DefaultsMatch labels signature.parameters)
    (arguments : List.Forall₂ (Term.Matches labels) lefts rights) :
    ChecksMatch (Fault.MatchesInside labels)
      (Option.Rel (List.Forall₂ (Term.Matches labels)))
      (bindArguments signature lefts) (bindArguments signature rights) := by
  unfold bindArguments
  rw [arguments.length_eq]
  cases arity : signature.checkArity rights.length with
  | ok => exact .ok (bindValues_related defaults arguments)
  | error fault => exact .error (checkArity_plain arity)

/-! ## Checks -/

theorem find?_related {accepts : Term → Bool}
    (alike : ∀ left right : Term, left.Matches labels right →
      accepts left = accepts right) {lefts rights : List Term}
    (matching : List.Forall₂ (Term.Matches labels) lefts rights) :
    Option.Rel (Term.Matches labels) (lefts.find? accepts)
      (rights.find? accepts) := by
  induction matching with
  | nil => exact .none
  | @cons left right _ _ head tail induction =>
      simp only [List.find?_cons, alike left right head]
      cases accepts right with
      | true => exact .some head
      | false => exact induction

theorem offending?_related (parameter : Parameter) (type : ParameterType)
    {left right : Term} (matching : left.Matches labels right) :
    Option.Rel (Term.Matches labels) (parameter.offending? type left)
      (parameter.offending? type right) := by
  have whole : Option.Rel (Term.Matches labels)
      (if type.accepts left then none else some left)
      (if type.accepts right then none else some right) := by
    rw [matching.accepts_eq type]
    split
    · exact .none
    · exact .some matching
  simp only [Parameter.offending?]
  generalize ((parameter.modifier.isSome || parameter.variadic) &&
    !type.isList) = itemwise
  cases itemwise with
  | false => cases matching <;> exact whole
  | true =>
      cases matching with
      | list items =>
          refine find?_related ?_ items
          intro left right head
          rw [head.accepts_eq type]
      | _ => exact whole

theorem checkArgument_related (template : String) (parameter : Parameter)
    (checkTypes : Bool) {left right : Term}
    (matching : left.Matches labels right) :
    ChecksMatch (Fault.MatchesInside labels) Eq
      (checkArgument template parameter checkTypes left)
      (checkArgument template parameter checkTypes right) := by
  unfold checkArgument
  rw [matching.hasBlank_eq]
  split
  · exact .error ⟨.blankNodeNotAllowed _ _ matching, rfl⟩
  · cases parameter.type with
    | none => exact .ok rfl
    | some type =>
        cases checkTypes with
        | false => exact .ok rfl
        | true =>
            have offending := offending?_related parameter type matching
            simp only [↓reduceIte]
            generalize parameter.offending? type left =
              leftOffending at offending ⊢
            generalize parameter.offending? type right =
              rightOffending at offending ⊢
            cases offending with
            | none => exact .ok rfl
            | some actual => exact .error ⟨.typeMismatch _ _ _ actual, rfl⟩

theorem checkArguments_related (template : String) (checkTypes : Bool)
    (parameters : List Parameter) {lefts rights : List Term}
    (matching : List.Forall₂ (Term.Matches labels) lefts rights) :
    ChecksMatch (Fault.MatchesInside labels) Eq
      (checkArguments template checkTypes parameters lefts)
      (checkArguments template checkTypes parameters rights) := by
  induction parameters generalizing lefts rights with
  | nil =>
      simp only [checkArguments]
      exact .ok rfl
  | cons parameter parameters induction =>
      cases matching with
      | nil =>
          simp only [checkArguments]
          exact .ok rfl
      | @cons left right _ _ head tail =>
          have first := checkArgument_related template parameter checkTypes head
          have rest := induction tail
          simp only [checkArguments]
          generalize checkArgument template parameter checkTypes left =
            leftFirst at first ⊢
          generalize checkArgument template parameter checkTypes right =
            rightFirst at first ⊢
          cases first with
          | ok => exact rest
          | error fault => exact .error fault

/-! ## Rows -/

/-- Two columns of one kind over matching terms. -/
inductive Column.Matches (labels : String → String → Prop) :
    Column → Column → Prop where
  | fixed {left right : Term} : left.Matches labels right →
      Matches labels (.fixed left) (.fixed right)
  | zipped (parameter : String) (modifier : Modifier)
      {lefts rights : List Term} :
      List.Forall₂ (Term.Matches labels) lefts rights →
        Matches labels (.zipped parameter modifier lefts)
          (.zipped parameter modifier rights)
  | crossed {lefts rights : List Term} :
      List.Forall₂ (Term.Matches labels) lefts rights →
      Matches labels (.crossed lefts) (.crossed rights)

theorem Column.ofValue_related (parameter : Parameter) {left right : Term}
    (matching : left.Matches labels right) :
    (Column.ofValue parameter left).Matches labels
      (Column.ofValue parameter right) := by
  cases matching with
  | list items =>
      simp only [Column.ofValue]
      cases parameter.modifier with
      | none => exact .fixed (.list items)
      | some modifier =>
          cases modifier with
          | cross => exact .crossed items
          | zip => exact .zipped _ _ items
          | zipMin => exact .zipped _ _ items
          | zipMax => exact .zipped _ _ items
  | iri name => exact .fixed (.iri name)
  | literal value => exact .fixed (.literal value)
  | blank related => exact .fixed (.blank related)
  | var name => exact .fixed (.var name)
  | none => exact .fixed .none

theorem Column.ofValues_related (parameters : List Parameter)
    {lefts rights : List Term}
    (matching : List.Forall₂ (Term.Matches labels) lefts rights) :
    List.Forall₂ (Column.Matches labels) (Column.ofValues parameters lefts)
      (Column.ofValues parameters rights) := by
  induction parameters generalizing lefts rights with
  | nil =>
      simp only [Column.ofValues]
      refine List.rel_map ?_ matching
      intro left right head
      exact .fixed head
  | cons parameter parameters induction =>
      cases matching with
      | nil => exact .nil
      | cons head tail =>
          exact .cons (Column.ofValue_related parameter head) (induction tail)

theorem zipMembers_eq {lefts rights : List Column}
    (matching : List.Forall₂ (Column.Matches labels) lefts rights) :
    zipMembers lefts = zipMembers rights := by
  unfold zipMembers
  induction matching with
  | nil => rfl
  | cons head tail induction =>
      cases head with
      | fixed => simpa using induction
      | zipped parameter modifier items =>
          simpa [items.length_eq] using induction
      | crossed => simpa using induction

theorem getD_related {lefts rights : List Term}
    (matching : List.Forall₂ (Term.Matches labels) lefts rights)
    (position : Nat) :
    (lefts.getD position .none).Matches labels
      (rights.getD position .none) := by
  induction matching generalizing position with
  | nil => exact .none
  | cons head tail induction =>
      cases position with
      | zero => exact head
      | succ position => exact induction position

theorem rowsAt_related (position : Nat) {lefts rights : List Column}
    (matching : List.Forall₂ (Column.Matches labels) lefts rights) :
    List.Forall₂ (List.Forall₂ (Term.Matches labels)) (rowsAt position lefts)
      (rowsAt position rights) := by
  induction matching with
  | nil => exact .cons .nil .nil
  | cons head tail induction =>
      cases head with
      | fixed value =>
          exact List.rel_map (fun _ _ rest => .cons value rest) induction
      | zipped parameter modifier items =>
          exact List.rel_map
            (fun _ _ rest => .cons (getD_related items position) rest) induction
      | crossed items =>
          refine List.rel_flatMap items ?_
          intro left right item
          exact List.rel_map (fun _ _ rest => .cons item rest) induction

theorem zipLength_plain {template : String} {members : List ZipMember}
    {fault : Fault} (refused : zipLength template members = .error fault) :
    fault.MatchesInside labels fault := by
  unfold zipLength at refused
  split at refused
  · cases refused
  · simp only at refused
    split at refused
    · cases refused
    · split at refused
      · cases refused
        exact Fault.matchesInside_plain rfl rfl
      · split at refused <;> cases refused

theorem expandRows_related (template : String) (parameters : List Parameter)
    {lefts rights : List Term}
    (matching : List.Forall₂ (Term.Matches labels) lefts rights) :
    ChecksMatch (Fault.MatchesInside labels)
      (List.Forall₂ (List.Forall₂ (Term.Matches labels)))
      (expandRows template parameters lefts)
      (expandRows template parameters rights) := by
  have columns := Column.ofValues_related parameters matching
  simp only [expandRows, zipMembers_eq columns]
  cases zipped :
    zipLength template (zipMembers (Column.ofValues parameters rights)) with
  | error fault => exact .error (zipLength_plain zipped)
  | ok length =>
      have positions :
          List.Forall₂ Eq (List.range length) (List.range length) :=
        List.forall₂_refl _
      refine .ok (List.rel_flatMap positions ?_)
      rintro position _ rfl
      exact rowsAt_related position columns

/-- The filled rows of matching rows match, as the defaults match themselves. -/
theorem fillRow_related {parameters : List Parameter} {lefts rights : List Term}
    (defaults : DefaultsMatch labels parameters)
    (matching : List.Forall₂ (Term.Matches labels) lefts rights) :
    List.Forall₂ (Term.Matches labels) (Expansion.fillRow parameters lefts)
      (Expansion.fillRow parameters rights) := by
  induction parameters generalizing lefts rights with
  | nil => exact .nil
  | cons parameter parameters induction =>
      have tailDefaults : DefaultsMatch labels parameters := fun other member =>
        defaults other (List.mem_cons_of_mem _ member)
      cases matching with
      | nil => exact .nil
      | @cons left right _ _ head tail =>
          refine .cons ?_ (induction tailDefaults tail)
          show Term.Matches labels
            (if left.isNone then parameter.default.getD left else left)
            (if right.isNone then parameter.default.getD right else right)
          rw [head.isNone_eq]
          split
          · cases hasDefault : parameter.default with
            | none => exact head
            | some default =>
                exact defaults parameter List.mem_cons_self default hasDefault
          · exact head

theorem missingParameter?_eq {parameters : List Parameter}
    {lefts rights : List Term}
    (matching : List.Forall₂ (Term.Matches labels) lefts rights) :
    Expansion.missingParameter? parameters lefts =
      Expansion.missingParameter? parameters rights := by
  unfold Expansion.missingParameter?
  induction parameters generalizing lefts rights with
  | nil => rfl
  | cons parameter parameters induction =>
      cases matching with
      | nil => rfl
      | @cons left right _ _ head tail =>
          simp only [List.zip_cons_cons, List.find?_cons, head.isNone_eq]
          cases right.isNone && !parameter.optional with
          | true => rfl
          | false => exact induction tail

end RdfTemplates
