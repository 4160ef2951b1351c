import RdfTemplates.Mapping
import RdfTemplates.Proofs.Contract
import RdfTemplates.Proofs.Outcome
import RdfTemplates.Proofs.Pervasive

/-!
# The output is RDF

Whatever a library holds, and however an expansion ends, each triple that it
puts out has an IRI or blank node as its subject, an IRI as its predicate, and
no variable, list or absent value anywhere.
-/

namespace RdfTemplates

/-- A term that may be the subject of a triple. -/
def Term.IsNode (term : Term) : Prop :=
  term.kind = .iri ∨ term.kind = .blank

/-- A term that may be the object of a triple. -/
def Term.IsObject (term : Term) : Prop :=
  term.kind = .iri ∨ term.kind = .literal ∨ term.kind = .blank

theorem Term.IsNode.isObject {term : Term} (node : term.IsNode) :
    term.IsObject := by
  rcases node with iri | blank
  · exact Or.inl iri
  · exact Or.inr (Or.inr blank)

/-- A triple as RDF has them. -/
structure Triple.IsRdf (triple : Triple) : Prop where
  subject : triple.subject.IsNode
  predicate : triple.predicate.kind = .iri
  object : triple.object.IsObject

/-- No variable, list or absent value stands in a triple of RDF. -/
theorem Triple.IsRdf.kind_of_mem_terms {triple : Triple}
    (isRdf : triple.IsRdf) :
    ∀ term ∈ triple.terms, term.kind ∉
      [TermKind.var, TermKind.list, TermKind.none] := by
  intro term member
  have isObject : term.IsObject := by
    simp only [terms, List.mem_cons, List.not_mem_nil, or_false] at member
    rcases member with rfl | rfl | rfl
    · exact isRdf.subject.isObject
    · exact Or.inl isRdf.predicate
    · exact isRdf.object
  rcases isObject with kind | kind | kind <;> simp [kind]

namespace Expansion

/-- The output so far goes on after some triples with triples of RDF only. -/
def ExtendsByRdf (before : List Triple) (state : ExpansionState) : Prop :=
  ∃ emitted, state.output.toList = before ++ emitted ∧
    ∀ triple ∈ emitted, triple.IsRdf

theorem ExtendsByRdf.refl (state : ExpansionState) :
    ExtendsByRdf state.output.toList state :=
  ⟨[], by simp, by simp⟩

theorem ExtendsByRdf.trans {before : List Triple} {state next : ExpansionState}
    (first : ExtendsByRdf before state)
    (second : ExtendsByRdf state.output.toList next) :
    ExtendsByRdf before next := by
  obtain ⟨emitted, output, emittedRdf⟩ := first
  obtain ⟨later, nextOutput, laterRdf⟩ := second
  refine ⟨emitted ++ later, ?_, ?_⟩
  · rw [nextOutput, output, List.append_assoc]
  · intro triple member
    rcases List.mem_append.mp member with early | late
    · exact emittedRdf triple early
    · exact laterRdf triple late

/-- Whatever comes of the step, it puts out triples of RDF only. -/
def EmitsRdf {α : Type} (step : Expansion α) : Prop :=
  ∀ state, ExtendsByRdf state.output.toList (final (step state))

/-- A step that puts out nothing. -/
theorem EmitsRdf.quiet {α : Type} {step : Expansion α}
    (silent : ∀ state, (final (step state)).output = state.output) :
    EmitsRdf step := by
  intro state
  rw [← silent state]
  exact .refl _

/-! ## Emission -/

/-- The contract of steps that put out triples of RDF after those there were
before. -/
def rdfOutput (before : List Triple) : Contract ExpansionState where
  states := ExtendsByRdf before
  failures _ := ExtendsByRdf before

section Emission

variable {before : List Triple}

theorem rdfOutput_fail {α : Type} {values : α → Prop} (fault : Fault) :
    (rdfOutput before).MetBy values (fail fault) :=
  fun _ output => output

theorem rdfOutput_emit {triple : Triple} (isRdf : triple.IsRdf) :
    (rdfOutput before).MetBy (fun _ => True) (emit triple) := by
  intro state output
  refine ⟨trivial, output.trans ⟨[triple], by simp, ?_⟩⟩
  simpa using isRdf

theorem rdfOutput_freshBlanks (count : Nat) :
    (rdfOutput before).MetBy (fun cells => ∀ cell ∈ cells, cell.IsNode)
      (freshBlanks count) := by
  have freshBlank : (rdfOutput before).MetBy Term.IsNode freshBlank :=
    fun _ output => ⟨Or.inr rfl, output⟩
  induction count with
  | zero => exact .pure (by simp)
  | succ count induction =>
      apply freshBlank.bind
      intro node isNode
      apply induction.bind
      intro nodes areNodes
      exact .pure (by simpa using ⟨isNode, areNodes⟩)

theorem listNode_isNode {cells : List Term}
    (areNodes : ∀ cell ∈ cells, cell.IsNode) : (listNode cells).IsNode := by
  cases cells with
  | nil => exact Or.inl rfl
  | cons cell cells => exact areNodes cell List.mem_cons_self

mutual

theorem rdfOutput_itemValue : ∀ item,
    (rdfOutput before).MetBy Term.IsObject (itemValue item)
  | .list items => by
      simp only [itemValue]
      apply (rdfOutput_freshBlanks items.length).bind
      intro cells areNodes
      apply (rdfOutput_writeCells items cells areNodes).bind
      intro _ _
      exact .pure (listNode_isNode areNodes).isObject
  | .none => rdfOutput_fail _
  | .var _ => rdfOutput_fail _
  | .iri _ => .pure (Or.inl rfl)
  | .literal _ => .pure (Or.inr (Or.inl rfl))
  | .blank _ => .pure (Or.inr (Or.inr rfl))

theorem rdfOutput_writeCells :
    ∀ items cells : List Term, (∀ cell ∈ cells, cell.IsNode) →
      (rdfOutput before).MetBy (fun _ => True) (writeCells items cells)
  | [], _, _ => by
      simp only [writeCells]
      exact .pure trivial
  | _ :: _, [], _ => by
      simp only [writeCells]
      exact .pure trivial
  | item :: items, cell :: cells, areNodes => by
      obtain ⟨isNode, restAreNodes⟩ := List.forall_mem_cons.mp areNodes
      simp only [writeCells]
      apply (rdfOutput_itemValue item).bind
      intro value isObject
      apply (rdfOutput_emit ⟨isNode, rfl, isObject⟩).bind
      intro _ _
      apply (rdfOutput_emit ⟨isNode, rfl,
        (listNode_isNode restAreNodes).isObject⟩).bind
      intro _ _
      exact rdfOutput_writeCells items cells restAreNodes

end

theorem rdfOutput_objectValue {object : Term}
    (present : object.isNone = false) :
    (rdfOutput before).MetBy Term.IsObject (objectValue object) := by
  cases object with
  | list items => exact rdfOutput_itemValue (.list items)
  | var name => exact rdfOutput_fail _
  | iri name => exact .pure (Or.inl rfl)
  | literal value => exact .pure (Or.inr (Or.inl rfl))
  | blank label => exact .pure (Or.inr (Or.inr rfl))
  | none => cases present

/-- After a position has been checked there is no objection against its term. -/
theorem rdfOutput_checkPosition (position : String) (term : Term)
    (objection : Option String) :
    (rdfOutput before).MetBy (fun _ => objection = none)
      (checkPosition position term objection) := by
  cases objection with
  | none => exact .pure rfl
  | some reason => exact rdfOutput_fail _

theorem isNode_of_subjectObjection? {subject : Term}
    (accepted : subjectObjection? subject = none) : subject.IsNode := by
  cases subject with
  | iri name => exact Or.inl rfl
  | blank label => exact Or.inr rfl
  | literal value => cases accepted
  | var name => cases accepted
  | list items => cases accepted
  | none => cases accepted

theorem kind_of_predicateObjection? {predicate : Term}
    (accepted : predicateObjection? predicate = none) :
    predicate.kind = .iri := by
  cases predicate with
  | iri name => rfl
  | blank label => cases accepted
  | literal value => cases accepted
  | var name => cases accepted
  | list items => cases accepted
  | none => cases accepted

theorem rdfOutput_writeTriple (subject predicate object : Term) :
    (rdfOutput before).MetBy (fun _ => True)
      (writeTriple subject predicate object) := by
  unfold writeTriple
  split
  · exact fun _ output => ⟨trivial, output⟩
  · rename_i present
    have objectPresent : object.isNone = false := by
      simp only [Bool.or_eq_true, not_or, Bool.not_eq_true] at present
      exact present.2
    apply (rdfOutput_checkPosition _ _ _).bind
    intro _ subjectAccepted
    apply (rdfOutput_checkPosition _ _ _).bind
    intro _ predicateAccepted
    apply (rdfOutput_objectValue objectPresent).bind
    intro value isObject
    exact rdfOutput_emit ⟨isNode_of_subjectObjection? subjectAccepted,
      kind_of_predicateObjection? predicateAccepted, isObject⟩

end Emission

/-! ## Expansion -/

/-- A step that keeps to the contract from every output on. -/
theorem EmitsRdf.ofContract {α : Type} {values : α → Prop} {step : Expansion α}
    (met : ∀ before, (rdfOutput before).MetBy values step) : EmitsRdf step := by
  intro state
  have result := met state.output.toList state (.refl state)
  cases ended : step state with
  | ok value next =>
      rw [ended] at result
      exact result.2
  | error failure next =>
      rw [ended] at result
      exact result

theorem EmitsRdf.bind {α β : Type} {step : Expansion α} {rest : α → Expansion β}
    (first : EmitsRdf step) (continues : ∀ value, EmitsRdf (rest value)) :
    EmitsRdf (step >>= rest) := by
  intro state
  have begun := first state
  show ExtendsByRdf _ (final (EStateM.bind step rest state))
  unfold EStateM.bind
  cases ended : step state with
  | ok value next =>
      rw [ended] at begun
      exact begun.trans (continues value next)
  | error failure next =>
      rw [ended] at begun
      exact begun

theorem EmitsRdf.enter (call : Instance) : EmitsRdf (enter call) := by
  apply quiet
  intro state
  unfold Expansion.enter
  split <;> rfl

theorem EmitsRdf.calling (call : Instance) {step : Expansion Unit}
    (inside : EmitsRdf step) : EmitsRdf (calling call step) := by
  intro state
  have entered := EmitsRdf.enter call state
  unfold Expansion.calling
  cases enters : Expansion.enter call state with
  | error failure next =>
      rw [enters] at entered
      exact entered
  | ok value active =>
      rw [enters] at entered
      have begun := inside active
      dsimp only
      cases ended : step active with
      | ok value next =>
          rw [ended] at begun
          exact entered.trans begun
      | error failure next =>
          rw [ended] at begun
          exact entered.trans begun

theorem EmitsRdf.releasing {α : Type} {step : Expansion α}
    (inside : EmitsRdf step) : EmitsRdf (releasing step) := by
  intro state
  have begun := inside state
  unfold Expansion.releasing
  cases ended : step state with
  | ok value next =>
      rw [ended] at begun
      exact begun
  | error failure next =>
      rw [ended] at begun
      exact begun

theorem EmitsRdf.scoping : Scoping EmitsRdf where
  pure _ := .quiet fun _ => rfl
  bind := .bind
  pushScope _ := .quiet fun _ => rfl
  bindName scope name value := by
    apply EmitsRdf.quiet
    intro state
    unfold bindName
    split <;> rfl
  releasing := .releasing

theorem EmitsRdf.bodyTerm (scope : ScopeId) (placeholders : Placeholders)
    (term : Term) : EmitsRdf (bodyTerm scope placeholders term) := by
  apply quiet
  intro state
  simp only [Expansion.bodyTerm]
  split <;> rfl

theorem EmitsRdf.pervasive : Pervasive EmitsRdf where
  pure _ := .quiet fun _ => rfl
  bind := .bind
  fail _ := .quiet fun _ => rfl
  context := .quiet fun _ => rfl
  record _ := .quiet fun _ => rfl
  bodyTerm := .bodyTerm
  writeTriple subject predicate object :=
    .ofContract fun _ => rdfOutput_writeTriple subject predicate object
  enter := .enter
  calling := .calling
  inScope := EmitsRdf.scoping.inScope

/-- The triples of a root, which is expanded on an output of its own. -/
theorem isRdf_of_expandRoot {library : Library} {root : Instance}
    {state last : ExpansionState} {triples : List Triple}
    (ended : expandRoot library root state = .ok triples last) :
    ∀ triple ∈ triples, triple.IsRdf := by
  have inside (inst : Instance) : EmitsRdf (expandInstance library inst) :=
    EmitsRdf.pervasive.expandInstance library inst
  obtain ⟨fault, _, refused⟩ | ⟨name, collects⟩ := expandRoot_cases library root
  · rw [refused] at ended
    cases ended
  · rw [collects] at ended
    obtain ⟨emitted, output, emittedRdf⟩ :=
      inside { root with template := name } { state with output := #[] }
    unfold collecting at ended
    split at ended
    · rename_i after stepEnd
      rw [stepEnd] at output
      cases ended
      simp only [List.nil_append, final] at output
      rw [output]
      exact emittedRdf
    · cases ended

end Expansion

/-- What a run hands to its destination, root by root, is RDF. -/
theorem MappingProgress.deliveries_isRdf {σ : Type} [TripleSink σ]
    (library : Library) (roots : List Instance) (progress : MappingProgress σ) :
    ∃ deliveries : List (List Triple),
      (roots.foldl (MappingProgress.step library) progress).sink =
        deliveries.foldl TripleSink.insertAll progress.sink ∧
        ∀ delivery ∈ deliveries, ∀ triple ∈ delivery, triple.IsRdf := by
  induction roots generalizing progress with
  | nil => exact ⟨[], rfl, by simp⟩
  | cons root roots induction =>
      obtain ⟨deliveries, sink, isRdf⟩ := induction (progress.step library root)
      cases ended : Expansion.expandRoot library root progress.state with
      | ok triples last =>
          refine ⟨triples :: deliveries, ?_, ?_⟩
          · rw [List.foldl_cons, sink, MappingProgress.step, ended]
            rfl
          · exact List.forall_mem_cons.mpr
              ⟨Expansion.isRdf_of_expandRoot ended, isRdf⟩
      | error failure last =>
          refine ⟨deliveries, ?_, isRdf⟩
          rw [List.foldl_cons, sink, MappingProgress.step, ended]

/-- Only triples of RDF are put out, whether an expansion succeeds or fails, and
so only such triples reach the destination of a mapping. -/
theorem Expansion.output_isRdf (library : Library) :
    (∀ (inst : Instance) (state : ExpansionState), ∃ emitted,
      (final (expandInstance library inst state)).output.toList =
        state.output.toList ++ emitted ∧
        ∀ triple ∈ emitted, triple.IsRdf) ∧
      (∀ (root : Instance) (state last : ExpansionState)
        (triples : List Triple),
        expandRoot library root state = .ok triples last →
          ∀ triple ∈ triples, triple.IsRdf) ∧
      ∀ (σ : Type) [TripleSink σ] (options : Options) (random : Nat)
        (roots : List Instance) (sink : σ), ∃ deliveries : List (List Triple),
          (Mapping.expandInto { library, options, random } roots sink).sink =
            deliveries.foldl TripleSink.insertAll sink ∧
            ∀ delivery ∈ deliveries, ∀ triple ∈ delivery, triple.IsRdf ∧
              ∀ term ∈ triple.terms, term.kind ∉
                [TermKind.var, TermKind.list, TermKind.none] := by
  refine ⟨EmitsRdf.pervasive.expandInstance library, ?_, ?_⟩
  · intro root state last triples ended
    exact isRdf_of_expandRoot ended
  · intro σ _ options random roots sink
    let mapping : Mapping := { library, options, random }
    obtain ⟨deliveries, delivered, isRdf⟩ :=
      MappingProgress.deliveries_isRdf library roots (mapping.start sink)
    refine ⟨deliveries, delivered, ?_⟩
    intro delivery member triple tripleMember
    have tripleRdf := isRdf delivery member triple tripleMember
    exact ⟨tripleRdf, tripleRdf.kind_of_mem_terms⟩

end RdfTemplates
