import RdfTemplates.Proofs.Direct.Walk
import RdfTemplates.Proofs.Origins.Terms
import RdfTemplates.Proofs.Repetitions

/-!
# Origins of the labels of a run

If the labels of the arguments and of the defaults are given, then all labels of
the triples of a run are given or have been handed out in this run.
-/

namespace RdfTemplates

/-- All labels of a triple are allowed. -/
def Triple.LabelsIn (allowed : String → Prop) (triple : Triple) : Prop :=
  ∀ term ∈ triple.terms, term.LabelsIn allowed

/-- The labels that occur in the defaults of a library. -/
def Library.HasDefaultLabel (library : Library) (label : String) : Prop :=
  ∃ template ∈ library.templates, ∃ parameter ∈ template.signature.parameters,
    ∃ value, parameter.default = some value ∧ label ∈ value.blankNames

namespace Direct

/-- A label is accounted for when a run has come so far. -/
def Trail.Accounts (trail : Trail) (stem : String) (given : String → Prop)
    (first : Nat) (label : String) : Prop :=
  LabelSource.Accounts ⟨stem, trail.allocated⟩ given first label

/-- What is asked of a run: the labels of its triples are accounted for. -/
def accounting (stem : String) (given : String → Prop) (first : Nat) :
    Course Trail where
  states trail :=
    first ≤ trail.allocated ∧
      ∀ triple ∈ trail.triples,
        triple.LabelsIn (trail.Accounts stem given first)
  failures _ _ := True
  later earlier trail := earlier.allocated ≤ trail.allocated
  refl _ := Nat.le_refl _
  trans := Nat.le_trans

section Emission

variable {stem : String} {given : String → Prop} {first : Nat}
  {calls : List Instance} {origin trail : Trail}

theorem Trail.Accounts.later {label : String}
    (accounts : origin.Accounts stem given first label)
    (later : origin.allocated ≤ trail.allocated) :
    trail.Accounts stem given first label :=
  LabelSource.Accounts.later accounts ⟨rfl, later⟩

theorem labelsIn_later {term : Term}
    (within : term.LabelsIn (origin.Accounts stem given first))
    (later : origin.allocated ≤ trail.allocated) :
    term.LabelsIn (trail.Accounts stem given first) :=
  within.imp fun _ accounts => accounts.later later

/-- The triples that have been put out stay accounted for when labels are handed
out. -/
theorem accounting_states {allocated : Nat}
    (states : (accounting stem given first).states trail)
    (later : trail.allocated ≤ allocated) :
    (accounting stem given first).states { trail with allocated } := by
  obtain ⟨enough, within⟩ := states
  refine ⟨Nat.le_trans enough later, ?_⟩
  intro triple member term position
  exact labelsIn_later (within triple member term position) later

theorem accounting_fail {α : Type} {values : Trail → α → Prop} (fault : Fault) :
    (accounting stem given first).MetFrom origin values (fail calls fault) :=
  fun _ _ _ => trivial

theorem accounting_bindCheck {α β : Type} {values : Trail → β → Prop}
    {checked : Except Fault α} {rest : α → Run β}
    (continues : ∀ value, checked = .ok value →
      (accounting stem given first).MetFrom origin values (rest value)) :
    (accounting stem given first).MetFrom origin values
      (check calls checked >>= rest) := by
  cases result : checked with
  | error fault => exact fun _ _ _ => trivial
  | ok value => exact continues value result

theorem accounting_emit {triple : Triple}
    (within : triple.LabelsIn (origin.Accounts stem given first)) :
    (accounting stem given first).MetFrom origin (fun _ _ => True)
      (emit triple) := by
  intro trail states later
  obtain ⟨enough, before⟩ := states
  refine ⟨trivial, ⟨enough, ?_⟩, Nat.le_refl _⟩
  intro other member
  rcases List.mem_append.mp member with earlier | new
  · exact before other earlier
  · rw [List.mem_singleton.mp new]
    intro term position
    exact labelsIn_later (within term position) later

theorem labelsIn_triple {allowed : String → Prop}
    {subject predicate object : Term} (subjectWithin : subject.LabelsIn allowed)
    (predicateWithin : predicate.LabelsIn allowed)
    (objectWithin : object.LabelsIn allowed) :
    Triple.LabelsIn allowed ⟨subject, predicate, object⟩ := by
  simp [Triple.LabelsIn, Triple.terms, subjectWithin, predicateWithin,
    objectWithin]

theorem labelsIn_iri {allowed : String → Prop} (name : String) :
    (Term.iri name).LabelsIn allowed :=
  fun _ none => (List.not_mem_nil none).elim

theorem accounting_freshBlanks (count : Nat) :
    (accounting stem given first).MetFrom origin (fun last nodes =>
      ∀ node ∈ nodes, node.LabelsIn (last.Accounts stem given first))
      (freshBlanks stem count) := by
  have freshBlank (origin : Trail) :
      (accounting stem given first).MetFrom origin
        (fun last node => node.LabelsIn (last.Accounts stem given first))
        (freshBlank stem) := by
    intro trail states later
    have next := Nat.le_succ trail.allocated
    refine ⟨?_, accounting_states states next, next⟩
    intro label occurs
    cases List.mem_singleton.mp occurs
    have enough :
        first ≤ LabelSource.allocated ⟨stem, trail.allocated⟩ := states.1
    exact LabelSource.accounts_fresh enough
  induction count generalizing origin with
  | zero =>
      apply Course.MetFrom.pure
      intro _ _
      exact List.forall_mem_nil _
  | succ count induction =>
      simp only [freshBlanks]
      apply (freshBlank origin).bind
      intro second node _ nodeWithin
      apply induction.bind
      intro third nodes thirdLater nodesWithin
      apply Course.MetFrom.pure
      intro last lastLater
      have nodeLasts :=
        labelsIn_later nodeWithin (Nat.le_trans thirdLater lastLater)
      have nodesLast :
          ∀ node ∈ nodes, node.LabelsIn (last.Accounts stem given first) :=
        fun node member => labelsIn_later (nodesWithin node member) lastLater
      exact List.forall_mem_cons.mpr ⟨nodeLasts, nodesLast⟩

theorem labelsIn_listNode {allowed : String → Prop} {cells : List Term}
    (within : ∀ cell ∈ cells, cell.LabelsIn allowed) :
    (Expansion.listNode cells).LabelsIn allowed := by
  cases cells with
  | nil => exact labelsIn_iri _
  | cons cell cells => exact within cell List.mem_cons_self

mutual

theorem accounting_itemValue {origin : Trail} : ∀ item : Term,
    item.LabelsIn (origin.Accounts stem given first) →
      (accounting stem given first).MetFrom origin
        (fun last value => value.LabelsIn (last.Accounts stem given first))
        (itemValue stem calls item)
  | .list items, within => by
      simp only [itemValue]
      apply (accounting_freshBlanks items.length).bind
      intro second cells secondLater cellsWithin
      have itemsWithin :
          ∀ item ∈ items, item.LabelsIn (second.Accounts stem given first) :=
        fun item member =>
          labelsIn_later (Term.labelsIn_list.mp within item member) secondLater
      apply (accounting_writeCells items cells itemsWithin cellsWithin).bind
      intro third _ thirdLater _
      apply Course.MetFrom.pure
      intro last lastLater
      exact labelsIn_later (labelsIn_listNode cellsWithin)
        (Nat.le_trans thirdLater lastLater)
  | .none, _ => accounting_fail _
  | .var _, _ => accounting_fail _
  | .iri name, within | .literal value, within | .blank label, within => by
      apply Course.MetFrom.pure
      intro last lastLater
      exact labelsIn_later within lastLater

theorem accounting_writeCells {origin : Trail} : ∀ items cells : List Term,
    (∀ item ∈ items, item.LabelsIn (origin.Accounts stem given first)) →
    (∀ cell ∈ cells, cell.LabelsIn (origin.Accounts stem given first)) →
      (accounting stem given first).MetFrom origin (fun _ _ => True)
        (writeCells stem calls items cells)
  | [], _, _, _ => by
      simp only [writeCells]
      exact .pure fun _ _ => trivial
  | _ :: _, [], _, _ => by
      simp only [writeCells]
      exact .pure fun _ _ => trivial
  | item :: items, cell :: cells, itemsWithin, cellsWithin => by
      obtain ⟨itemWithin, restWithin⟩ := List.forall_mem_cons.mp itemsWithin
      obtain ⟨cellWithin, laterWithin⟩ := List.forall_mem_cons.mp cellsWithin
      simp only [writeCells]
      apply (accounting_itemValue item itemWithin).bind
      intro second value secondLater valueWithin
      have cellLasts := labelsIn_later cellWithin secondLater
      apply (accounting_emit
        (labelsIn_triple cellLasts (labelsIn_iri _) valueWithin)).bind
      intro third _ thirdLater _
      -- The cells were allocated before the items, so they are still accounted
      -- for.
      have later := Nat.le_trans secondLater thirdLater
      have nextLasts := labelsIn_later (labelsIn_listNode laterWithin) later
      have cellStill := labelsIn_later cellWithin later
      apply (accounting_emit
        (labelsIn_triple cellStill (labelsIn_iri _) nextLasts)).bind
      intro fourth _ fourthLater _
      have last := Nat.le_trans later fourthLater
      apply accounting_writeCells items cells
      · intro other member
        exact labelsIn_later (restWithin other member) last
      · intro other member
        exact labelsIn_later (laterWithin other member) last

end

theorem accounting_objectValue {object : Term}
    (within : object.LabelsIn (origin.Accounts stem given first)) :
    (accounting stem given first).MetFrom origin
      (fun last value => value.LabelsIn (last.Accounts stem given first))
      (objectValue stem calls object) := by
  cases object with
  | list items => exact accounting_itemValue (.list items) within
  | var name => exact accounting_fail _
  | iri | literal | blank | none =>
      apply Course.MetFrom.pure
      intro last lastLater
      exact labelsIn_later within lastLater

theorem accounting_checkPosition (position : String) (term : Term)
    (objection : Option String) :
    (accounting stem given first).MetFrom origin (fun _ _ => True)
      (checkPosition calls position term objection) := by
  cases objection with
  | none => exact .pure fun _ _ => trivial
  | some reason => exact accounting_fail _

theorem accounting_writeTriple {subject predicate object : Term}
    (subjectWithin : subject.LabelsIn (origin.Accounts stem given first))
    (predicateWithin : predicate.LabelsIn (origin.Accounts stem given first))
    (objectWithin : object.LabelsIn (origin.Accounts stem given first)) :
    (accounting stem given first).MetFrom origin (fun _ _ => True)
      (writeTriple stem calls subject predicate object) := by
  simp only [writeTriple]
  split
  · exact .pure fun _ _ => trivial
  · apply (accounting_checkPosition _ _ _).bind
    intro second _ secondLater _
    apply (accounting_checkPosition _ _ _).bind
    intro third _ thirdLater _
    have later := Nat.le_trans secondLater thirdLater
    apply (accounting_objectValue (labelsIn_later objectWithin later)).bind
    intro fourth value fourthLater valueWithin
    have last := Nat.le_trans later fourthLater
    apply accounting_emit
    exact labelsIn_triple (labelsIn_later subjectWithin last)
      (labelsIn_later predicateWithin last) valueWithin

theorem accounting_writeTripleInstance {arguments : List Term}
    (within : ∀ argument ∈ arguments,
      argument.LabelsIn (origin.Accounts stem given first)) :
    (accounting stem given first).MetFrom origin (fun _ _ => True)
      (writeTripleInstance stem calls arguments) := by
  match arguments with
  | [subject, predicate, object] =>
      exact accounting_writeTriple (within _ (by simp)) (within _ (by simp))
        (within _ (by simp))
  | [] | [_] | [_, _] | _ :: _ :: _ :: _ :: _ => exact accounting_fail _

end Emission

section Calls

variable {stem : String} {given : String → Prop} {first : Nat}
  {calls : List Instance} {origin trail : Trail}

/-- The value of a body term has the labels of the values put in, and labels
handed out for its placeholders. -/
theorem accounting_bodyTerm {values : String → Option Term}
    {placeholders : Placeholders}
    (valuesWithin : ∀ name value, values name = some value →
      value.LabelsIn (origin.Accounts stem given first))
    (known : placeholders.LabelsIn (origin.Accounts stem given first))
    (term : Term) :
    (accounting stem given first).MetFrom origin
      (fun last result => result.1.LabelsIn (last.Accounts stem given first) ∧
        result.2.LabelsIn (last.Accounts stem given first))
      (bodyTerm stem calls values placeholders term) := by
  intro trail states later
  have knownStill : placeholders.LabelsIn (trail.Accounts stem given first) :=
    known.imp fun _ accounts => accounts.later later
  have further := placeholders.goesTo_localize ⟨stem, trail.allocated⟩ term
  have enough :
      first ≤ LabelSource.allocated ⟨stem, trail.allocated⟩ := states.1
  obtain ⟨localWithin, localKnown⟩ :=
    Placeholders.accounts_localize enough knownStill term
  simp only [bodyTerm]
  -- The labels are handed out even if the substitution fails after that.
  rcases localized : placeholders.localize ⟨stem, trail.allocated⟩ term with
    ⟨localTerm, met, labels⟩
  simp only [localized] at further localWithin localKnown
  obtain ⟨_, allocated⟩ := labels
  obtain ⟨rfl, handedOut⟩ := further
  simp only
  split
  · rename_i value done
    refine ⟨⟨?_, localKnown⟩, accounting_states states handedOut, handedOut⟩
    apply Term.labelsIn_substitute _ localWithin done
    intro name bound found
    show bound.LabelsIn (Trail.Accounts { trail with allocated } _ given first)
    exact labelsIn_later (valuesWithin name bound found)
      (Nat.le_trans later handedOut)
  · trivial

/-- An instance can be expanded once the labels of its arguments are accounted
for. -/
def AccountsFor (stem : String) (given : String → Prop) (first : Nat)
    (inst : Instance) (run : Run Unit) : Prop :=
  ∀ origin : Trail, (∀ argument ∈ inst.arguments,
    argument.LabelsIn (origin.Accounts stem given first)) →
    (accounting stem given first).MetFrom origin (fun _ _ => True) run

variable {expand : Instance → Run Unit}
  (nested : ∀ callee, AccountsFor stem given first callee (expand callee))

include nested

theorem accounting_walks {values : String → Option Term}
    (valuesWithin : ∀ name value, values name = some value →
      value.LabelsIn (origin.Accounts stem given first)) (names : List String) :
    Walks (accounting stem given first) origin stem calls expand values names
      (fun trail term => term.LabelsIn (trail.Accounts stem given first))
      (fun trail placeholders =>
        placeholders.LabelsIn (trail.Accounts stem given first)) where
  lasts later within := labelsIn_later within later
  knownLasts later known := known.imp fun _ accounts => accounts.later later
  unused := List.forall_mem_nil _
  absent _ := fun _ none => (List.not_mem_nil none).elim
  bodyTerm term reached known := by
    apply accounting_bodyTerm _ known term
    intro name value found
    exact labelsIn_later (valuesWithin name value found) reached
  writeTriple _ subjectWithin predicateWithin objectWithin :=
    accounting_writeTriple subjectWithin predicateWithin objectWithin
  nested _ _ argumentsWithin := nested _ _ argumentsWithin

theorem accounting_expandEachRow {template : Template} {rows : List (List Term)}
    (rowsWithin : ∀ row ∈ rows,
      ∀ value ∈ Expansion.fillRow template.signature.parameters row,
        value.LabelsIn (origin.Accounts stem given first)) :
    (accounting stem given first).MetFrom origin (fun _ _ => True)
      (expandEachRow stem calls expand template rows) := by
  apply metFrom_expandEachRow
  intro row member
  apply metFrom_expandRow
  apply accounting_walks nested
  intro name value found
  simp only [rowValue, Option.map_eq_some_iff] at found
  obtain ⟨⟨parameter, item⟩, isFound, rfl⟩ := found
  have position := List.of_mem_zip (List.mem_of_find?_eq_some isFound)
  exact rowsWithin row member item position.2

end Calls

section Instances

variable {setting : Setting} {given : String → Prop} {first : Nat}
  (defaults : ∀ label, setting.library.HasDefaultLabel label → given label)

include defaults

theorem accounting_expandCall {calls : List Instance} {call : Instance}
    {expand : Instance → Run Unit}
    (nested : ∀ callee,
      AccountsFor setting.stem given first callee (expand callee)) :
    AccountsFor setting.stem given first call
      (expandCall setting calls expand call) := by
  intro origin argumentsWithin
  rw [expandCall]
  apply accounting_bindCheck
  intro template found
  apply accounting_bindCheck
  intro filled bound
  cases filled with
  | none => exact .pure fun _ _ => trivial
  | some values =>
      apply accounting_bindCheck
      intro _ accepted
      apply accounting_bindCheck
      intro rows expanded
      apply accounting_expandEachRow nested
      intro row member
      have hasRow : call.HasRow template.signature setting.checkTypes row :=
        ⟨values, rows, bound, accepted, expanded, member⟩
      apply hasRow.forall_mem_fillRow _ (fun _ => Term.labelsIn_list) _
        argumentsWithin
      · intro label occurs
        cases occurs
      · intro parameter declared value isDefault label occurs
        have defined := Library.mem_templates_of_lookup found
        exact Or.inl (defaults label
          ⟨template, defined, parameter, declared, value, isDefault, occurs⟩)

theorem accounting_expandWithin (room : Nat) (calls : List Instance)
    (inst : Instance) (bounded : room + calls.length = setting.maxDepth) :
    AccountsFor setting.stem given first inst
      (expandWithin setting room calls inst) := by
  apply expandWithin_induction
    (motive := fun _ inst run => AccountsFor setting.stem given first inst run)
  · intro calls inst _ origin argumentsWithin
    exact accounting_writeTripleInstance argumentsWithin
  · intro calls inst _ origin _
    exact accounting_fail _
  · intro calls inst _ origin _
    exact accounting_fail _
  · intro calls inst expand _ nested
    exact accounting_expandCall defaults nested
  · exact bounded

end Instances

/-- The labels of the triples of a root come from its arguments or from
defaults, or have been handed out in the run. -/
theorem accounts_of_expandRoot {setting : Setting} {root : Instance}
    {allocated : Nat} {last : Trail}
    (ended : expandRoot setting root { allocated } = .ok () last) :
    ∀ triple ∈ last.triples, triple.LabelsIn (last.Accounts setting.stem
      (fun label => label ∈ Term.listBlankNames root.arguments ∨
        setting.library.HasDefaultLabel label) allocated) := by
  cases resolved : setting.library.resolveRoot root.template with
  | error fault =>
      rw [expandRoot_unresolved resolved] at ended
      cases ended
  | ok name =>
      cases isOpen : Term.firstVariableIn? root.arguments with
      | some variableName =>
          rw [expandRoot_open resolved isOpen] at ended
          cases ended
      | none =>
          rw [expandRoot_ground resolved isOpen] at ended
          let given : String → Prop := fun label =>
            label ∈ Term.listBlankNames root.arguments ∨
              setting.library.HasDefaultLabel label
          have accountsFor : AccountsFor setting.stem given allocated
              { root with template := name } (expandWithin setting
                setting.maxDepth [] { root with template := name }) :=
            accounting_expandWithin (fun _ isDefault => Or.inr isDefault)
              setting.maxDepth [] _ rfl
          have argumentsWithin : ∀ argument ∈ root.arguments, argument.LabelsIn
              (Trail.Accounts { allocated } setting.stem given allocated) := by
            intro argument member label occurs
            exact Or.inl
              (Or.inl (Term.mem_listBlankNames.mpr ⟨argument, member, occurs⟩))
          have result := accountsFor { allocated } argumentsWithin { allocated }
            ⟨Nat.le_refl _, List.forall_mem_nil _⟩ (Nat.le_refl _)
          rw [ended] at result
          exact result.2.1.2

end Direct

end RdfTemplates
