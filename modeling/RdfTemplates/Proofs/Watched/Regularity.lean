import RdfTemplates.Proofs.Watched.Circulation

/-!
# Everything seen is regular

The regularity of what is seen is followed along the text of a watched
expansion: through the terms of a body, the rows of a call and the calls nested
in it, down to the depth that is left.
-/

namespace RdfTemplates

namespace Watched

open Direct (Setting Refines refusing)

/-! ## Bodies -/

section Body

variable {setting : Setting} {kind : Term → Prop} {scopes : ScopeArena}
  {calls : List Instance}

/-- Instances of arguments of the kind keep everything regular. -/
def KeepsRegular (setting : Setting) (kind : Term → Prop) (scopes : ScopeArena)
    (calls : List Instance) (expand : Instance → Watched Unit) : Prop :=
  ∀ inst : Instance, (∀ argument ∈ inst.arguments, kind argument) →
    (watching setting kind scopes calls).MetBy (fun _ => True) (expand inst)

theorem watching_bodyTerm {scope : ScopeId}
    (preserves : setting.library.Preserves kind)
    (circulating : Circulating kind scopes calls)
    (live : scopes.isLive scope = true) (placeholders : Placeholders)
    (term : Term) :
    (watching setting kind scopes calls).MetBy (fun result => kind result.1)
      (bodyTerm scope placeholders term) := by
  have refines :
      Refines setting scopes calls (Expansion.bodyTerm scope placeholders term)
        (Direct.bodyTerm setting.stem calls
          (scopes.lookup scope) placeholders term) :=
    Refines.bodyTerm live (fun _ => rfl) placeholders term
  apply (watching_plain refines (Direct.refusing_bodyTerm preserves
    (fun _ _ => circulating.lookup) placeholders term)).bind
  rintro ⟨value, placeholders⟩ valueKind
  have looked : ∀ term ∈ (Moment.resolved value).terms, kind term := by
    simpa [Moment.terms] using valueKind
  apply (watching_look (regular_of_terms circulating looked rfl)).bind
  intro _ _
  exact .pure valueKind

variable {expand : Instance → Watched Unit} {scope : ScopeId}

mutual

theorem watching_argumentValue (preserves : setting.library.Preserves kind)
    (circulating : Circulating kind scopes calls)
    (live : scopes.isLive scope = true)
    (nested : KeepsRegular setting kind scopes calls expand)
    (placeholders : Placeholders) :
    ∀ argument,
      (watching setting kind scopes calls).MetBy (fun result => kind result.1)
        (argumentValue expand scope placeholders argument)
  | .term term => by
      simp only [argumentValue]
      exact watching_bodyTerm preserves circulating live placeholders term
  | .nested template arguments => by
      simp only [argumentValue]
      apply (watching_argumentValues preserves circulating live nested
        placeholders arguments).bind
      rintro ⟨values, placeholders⟩ valuesKind
      apply (nested { template, arguments := values } valuesKind).bind
      intro _ _
      cases values with
      | nil => exact .pure preserves.absent
      | cons anchor values => exact .pure (valuesKind anchor List.mem_cons_self)

theorem watching_argumentValues (preserves : setting.library.Preserves kind)
    (circulating : Circulating kind scopes calls)
    (live : scopes.isLive scope = true)
    (nested : KeepsRegular setting kind scopes calls expand)
    (placeholders : Placeholders) :
    ∀ arguments, (watching setting kind scopes calls).MetBy
      (fun result => ∀ value ∈ result.1, kind value)
      (argumentValues expand scope placeholders arguments)
  | [] => by
      simp only [argumentValues]
      exact .pure (by simp)
  | argument :: arguments => by
      simp only [argumentValues]
      apply (watching_argumentValue preserves circulating live nested
        placeholders argument).bind
      rintro ⟨value, placeholders⟩ valueKind
      apply (watching_argumentValues preserves circulating live nested
        placeholders arguments).bind
      rintro ⟨values, placeholders⟩ valuesKind
      exact .pure (List.forall_mem_cons.mpr ⟨valueKind, valuesKind⟩)

end

variable (preserves : setting.library.Preserves kind)
  (circulating : Circulating kind scopes calls)
  (live : scopes.isLive scope = true)
  (nested : KeepsRegular setting kind scopes calls expand)

include preserves circulating live nested

theorem watching_walkPattern (placeholders : Placeholders) (pattern : Pattern) :
    (watching setting kind scopes calls).MetBy (fun _ => True)
      (walkPattern expand scope placeholders pattern) := by
  cases pattern with
  | triple triple =>
      simp only [walkPattern]
      apply (watching_bodyTerm preserves circulating live placeholders
        triple.subject).bind
      rintro ⟨subject, placeholders⟩ subjectKind
      apply (watching_bodyTerm preserves circulating live placeholders
        triple.predicate).bind
      rintro ⟨predicate, placeholders⟩ predicateKind
      apply (watching_bodyTerm preserves circulating live placeholders
        triple.object).bind
      rintro ⟨object, placeholders⟩ objectKind
      have looked :
          ∀ term ∈ (Moment.writing [subject, predicate, object]).terms,
            kind term := by
        simp only [Moment.terms, List.forall_mem_cons]
        exact ⟨subjectKind, predicateKind, objectKind, by simp⟩
      apply (watching_look (regular_of_terms circulating looked rfl)).bind
      intro _ _
      apply (watching_plain (Refines.writeTriple subject predicate object)
        (Direct.refusing_writeTriple preserves subjectKind predicateKind
          objectKind)).bind
      intro _ _
      exact .pure trivial
  | nested template arguments =>
      simp only [walkPattern]
      apply (watching_argumentValue preserves circulating live nested
        placeholders _).bind
      rintro ⟨_, placeholders⟩ _
      exact .pure trivial

theorem watching_walkBody (placeholders : Placeholders) (body : List Pattern) :
    (watching setting kind scopes calls).MetBy (fun _ => True)
      (walkBody expand scope placeholders body) := by
  induction body generalizing placeholders with
  | nil => exact .pure trivial
  | cons pattern body induction =>
      simp only [walkBody]
      apply (watching_walkPattern preserves circulating live nested placeholders
        pattern).bind
      intro placeholders _
      exact induction placeholders

end Body

/-! ## Calls -/

theorem kind_of_mem_defaultBindings {kind : Term → Prop}
    {parameters : List Parameter}
    (defaults : ∀ parameter ∈ parameters, ∀ value,
      parameter.default = some value → kind value) :
    ∀ binding ∈ Expansion.defaultBindings parameters, kind binding.2 := by
  intro binding member
  obtain ⟨parameter, declared, isDefault⟩ := List.mem_filterMap.mp member
  obtain ⟨value, hasDefault, rfl⟩ := Option.map_eq_some_iff.mp isDefault
  exact defaults parameter declared value hasDefault

theorem kind_of_mem_rowBindings {kind : Term → Prop}
    (parameters : List Parameter) {row : List Term}
    (values : ∀ value ∈ row, kind value) :
    ∀ binding ∈ Expansion.rowBindings parameters row, kind binding.2 := by
  intro binding member
  obtain ⟨⟨parameter, value⟩, kept, rfl⟩ := List.mem_map.mp member
  exact values value (List.of_mem_zip (List.mem_filter.mp kept).1).2

section Calls

variable {setting : Setting} {kind : Term → Prop} {scopes : ScopeArena}
  {calls : List Instance} {expand : Instance → Watched Unit}

/-- The body of a template is walked in a scope that holds the values of a
row. -/
theorem regular_walking (built : setting.library.Built) {template : Template}
    {call : Instance} {row : List Term} (active : calls.head? = some call)
    (defined : setting.library.lookup call.template = .ok template)
    (hasRow : call.HasRow template.signature setting.checkTypes row)
    (circulating : Circulating kind
      ⟨Scope.ofBindings (some scopes.size)
        (Expansion.rowBindings template.signature.parameters
          (Expansion.fillRow template.signature.parameters row)) ::
        Scope.ofBindings none
          (Expansion.defaultBindings template.signature.parameters) ::
        scopes.scopes⟩
      calls)
    (allocated : Nat) :
    Sight.Regular setting kind
      ⟨.walking template (scopes.size + 1),
        setting.context allocated
          ⟨Scope.ofBindings (some scopes.size)
            (Expansion.rowBindings template.signature.parameters
              (Expansion.fillRow template.signature.parameters row)) ::
            Scope.ofBindings none
              (Expansion.defaultBindings template.signature.parameters) ::
            scopes.scopes⟩
          calls⟩ where
  circulating := circulating
  terms := by simp [Moment.terms]
  repetition := by
    rintro _ _ ⟨⟩
    have distinct := built.parameterNames_nodup template
      (Library.mem_templates_of_lookup defined)
    have filled := Expansion.length_fillRow hasRow.length_eq
    exact ⟨call, row, active, defined, hasRow,
      Expansion.lookup_rowScope distinct filled⟩

variable (built : setting.library.Built)
  (preserves : setting.library.Preserves kind)
  (nested : ∀ scopes, Circulating kind scopes calls →
    KeepsRegular setting kind scopes calls expand)

include built preserves nested

theorem watching_expandRow {template : Template} {call : Instance}
    {row : List Term} (active : calls.head? = some call)
    (defined : setting.library.lookup call.template = .ok template)
    (circulating : Circulating kind
      ⟨Scope.ofBindings none (Expansion.defaultBindings
        template.signature.parameters) :: scopes.scopes⟩ calls)
    (hasRow : call.HasRow template.signature setting.checkTypes row) :
    (watching setting kind ⟨Scope.ofBindings none (Expansion.defaultBindings
      template.signature.parameters) :: scopes.scopes⟩ calls).MetBy
      (fun _ => True) (expandRow expand template scopes.size row) := by
  have member := Library.mem_templates_of_lookup defined
  have distinct := built.parameterNames_nodup template member
  simp only [expandRow]
  split
  · exact watching_record _
  · have given := circulating.arguments call (List.mem_of_mem_head? active)
    have values := hasRow.forall_mem_fillRow preserves.absent preserves.list
      (preserves.default template member) given
    have rowCirculating := circulating.inScope (some scopes.size)
      (kind_of_mem_rowBindings template.signature.parameters values)
    apply watching_inScope
      (distinct.sublist (Expansion.fst_rowBindings_sublist _ _))
    apply (watching_look
      (regular_walking built active defined hasRow rowCirculating)).bind
    intro _ _
    apply watching_walkBody preserves rowCirculating _ (nested _ rowCirculating)
    simp [ScopeArena.isLive, ScopeArena.size]

theorem watching_expandEachRow {template : Template} {call : Instance}
    {rows : List (List Term)} (active : calls.head? = some call)
    (defined : setting.library.lookup call.template = .ok template)
    (circulating : Circulating kind
      ⟨Scope.ofBindings none (Expansion.defaultBindings
        template.signature.parameters) :: scopes.scopes⟩ calls)
    (hasRows : ∀ row ∈ rows,
      call.HasRow template.signature setting.checkTypes row) :
    (watching setting kind ⟨Scope.ofBindings none (Expansion.defaultBindings
      template.signature.parameters) :: scopes.scopes⟩ calls).MetBy
      (fun _ => True) (expandEachRow expand template scopes.size rows) := by
  induction rows with
  | nil => exact .pure trivial
  | cons row rows induction =>
      obtain ⟨first, rest⟩ := List.forall_mem_cons.mp hasRows
      apply (watching_expandRow built preserves nested active defined
        circulating first).bind
      intro _ _
      exact induction rest

theorem watching_expandCall (circulating : Circulating kind scopes calls)
    {call : Instance} (active : calls.head? = some call) :
    (watching setting kind scopes calls).MetBy (fun _ => True)
      (expandCall setting.library expand call) := by
  unfold expandCall
  apply (watching_check fun fault absent => by
    rw [Library.lookup_eq_error absent]
    simp [Fault.kind]).bind
  intro template defined
  have member := Library.mem_templates_of_lookup defined
  have distinct := built.parameterNames_nodup template member
  apply (watching_check fun fault failed =>
    by simp [bindArguments_kind failed]).bind
  intro filled bound
  cases filled with
  | none => exact watching_record _
  | some values =>
      apply watching_context.bind
      rintro _ ⟨allocated, rfl⟩
      apply (watching_check fun fault failed =>
        by simp [checkArguments_kind failed]).bind
      intro _ accepted
      apply (watching_check fun fault failed =>
        by simp [expandRows_kind failed]).bind
      intro rows expanded
      apply (watching_record _).bind
      intro _ _
      have defaultsCirculating := circulating.inScope none
        (kind_of_mem_defaultBindings (preserves.default template member))
      apply watching_inScope
        (distinct.sublist (Expansion.fst_defaultBindings_sublist _))
      have looked : ∀ term ∈ Moment.prepared.terms, kind term := by
        simp [Moment.terms]
      apply
        (watching_look (regular_of_terms defaultsCirculating looked rfl)).bind
      intro _ _
      apply watching_expandEachRow built preserves nested active defined
        defaultsCirculating
      intro row isRow
      exact ⟨values, rows, bound, accepted, expanded, isRow⟩

end Calls

variable {setting : Setting} {kind : Term → Prop} {scopes : ScopeArena}
  {calls : List Instance}

theorem watching_writeTripleInstance
    (preserves : setting.library.Preserves kind)
    (circulating : Circulating kind scopes calls) {arguments : List Term}
    (given : ∀ argument ∈ arguments, kind argument) :
    (watching setting kind scopes calls).MetBy (fun _ => True)
      (do
        look (.writing arguments)
        plain (Expansion.writeTripleInstance arguments)) := by
  have looked : ∀ term ∈ (Moment.writing arguments).terms, kind term := given
  apply (watching_look (regular_of_terms circulating looked rfl)).bind
  intro _ _
  exact watching_plain (Refines.writeTripleInstance arguments)
    (Direct.refusing_writeTripleInstance preserves given)

theorem keepsRegular_expandWithin (built : setting.library.Built)
    (preserves : setting.library.Preserves kind) (room : Nat)
    (circulating : Circulating kind scopes calls)
    (roomLeft : room = setting.maxDepth - calls.length) :
    KeepsRegular setting kind scopes calls
      (expandWithin setting.library room) := by
  induction room generalizing scopes calls with
  | zero =>
      intro inst given
      unfold expandWithin
      split
      · exact watching_writeTripleInstance preserves circulating given
      · have full : setting.maxDepth ≤ calls.length := by omega
        cases accepted : setting.refuses calls inst with
        | true =>
            exact watching_refused (fun allocated =>
              setting.context_enter_refused allocated scopes accepted)
              (by simp [Fault.kind])
        | false =>
            exact watching_refused (fun allocated =>
              setting.context_enter_full allocated scopes accepted full)
              (by simp [Fault.kind])
  | succ room induction =>
      intro inst given
      unfold expandWithin
      split
      · exact watching_writeTripleInstance preserves circulating given
      · have notFull : calls.length < setting.maxDepth := by omega
        cases accepted : setting.refuses calls inst with
        | true =>
            exact watching_refused (fun allocated =>
              setting.context_enter_refused allocated scopes accepted)
              (by simp [Fault.kind])
        | false =>
            have entered := circulating.enter given
            apply watching_calling fun allocated =>
              setting.context_enter_room allocated scopes accepted notFull
            have looked : ∀ term ∈ Moment.entered.terms, kind term := by
              simp [Moment.terms]
            apply (watching_look (regular_of_terms entered looked rfl)).bind
            intro _ _
            apply watching_expandCall built preserves _ entered rfl
            intro innerScopes innerCirculating
            apply induction innerCirculating
            simp only [List.length_cons]
            omega

theorem keepsRegular_expandInstance (built : setting.library.Built)
    (preserves : setting.library.Preserves kind)
    (circulating : Circulating kind scopes calls) :
    KeepsRegular setting kind scopes calls
      (expandInstance setting.library) := by
  intro inst given
  apply watching_context.bind
  rintro _ ⟨allocated, rfl⟩
  exact keepsRegular_expandWithin built preserves _ circulating rfl inst given

theorem watching_collecting {step : Watched Unit}
    (inside : (watching setting kind scopes calls).MetBy (fun _ => True) step) :
    (watching setting kind scopes calls).MetBy (fun _ => True)
      (collecting step) := by
  rintro watch ⟨inContext, regular⟩
  let fresh :
      Watch := { watch with state := { watch.state with output := #[] } }
  have result := inside fresh ⟨inContext, regular⟩
  simp only [collecting]
  cases ended : step fresh with
  | ok value next =>
      rw [ended] at result
      exact result
  | error failure next =>
      rw [ended] at result
      exact result

/-- From a root of ground arguments of the kind, everything seen is regular. -/
theorem watching_expandRoot (built : setting.library.Built)
    (preserves : setting.library.Preserves kind)
    (circulating : Circulating kind scopes calls) {root : Instance}
    (given : Term.firstVariableIn? root.arguments = none →
      ∀ argument ∈ root.arguments, kind argument) :
    (watching setting kind scopes calls).MetBy (fun _ => True)
      (expandRoot setting.library root) := by
  apply (watching_check fun fault failed => by
    obtain ⟨name, rfl⟩ := Library.resolveRoot_eq_error failed
    simp [Fault.kind]).bind
  intro name _
  split
  · exact watching_plain (Refines.fail _)
      (Direct.refusing_fail (by simp [Fault.kind]))
  · rename_i ground
    apply watching_collecting
    exact keepsRegular_expandInstance built preserves circulating _
      (given ground)

end Watched

/-- In the course of the expansion of a root everything seen is regular, and if
the expansion fails with a triple that is refused, this is because of a term of
the kind. -/
theorem Expansion.sights_regular {library : Library} {kind : Term → Prop}
    {context : Context} {root : Instance} (built : library.Built)
    (preserves : library.Preserves kind)
    (circulating : Circulating kind context.scopes context.calls)
    (given : Term.firstVariableIn? root.arguments = none →
      ∀ argument ∈ root.arguments, kind argument) :
    (∀ sight ∈ sights library context root,
      sight.Regular (.ofContext library context) kind) ∧
      ∀ failure, (outcome library context root).result = .error failure →
        failure.RefusesOnly kind := by
  let setting : Direct.Setting := .ofContext library context
  have kept :
      (Watched.watching setting kind context.scopes context.calls).Results
        (fun _ => True)
        (Watched.expandRoot library root { state := { context } }) :=
    Watched.watching_expandRoot built preserves circulating given _
      ⟨⟨context.labels.allocated, rfl⟩, by simp⟩
  have same := Watched.Shows.expandRoot library root { state := { context } }
  simp only at same
  unfold sights outcome
  rw [← same]
  cases ended : Watched.expandRoot library root { state := { context } } with
  | ok triples watch =>
      rw [ended] at kept
      refine ⟨kept.2.2, ?_⟩
      rintro failure ⟨⟩
  | error failure watch =>
      rw [ended] at kept
      refine ⟨kept.1, ?_⟩
      rintro _ ⟨⟩
      exact kept.2

end RdfTemplates
