import RdfTemplates.Proofs.Contract
import RdfTemplates.Proofs.Labels.Renaming
import RdfTemplates.Proofs.Pervasive

/-!
# Lists as collections

A list that is written out takes one cell for each of its elements, at every
depth.  The cells are fresh nodes, and each has one first item and one rest.
Following the rests from the head, one meets the elements in order.  An element
that is a list itself is met as the head of its own collection.
-/

namespace RdfTemplates

/-! ## Collections -/

namespace Term

mutual

/-- The elements of a list at every depth; a term that is no list has none. -/
def elements : Term → List Term
  | .list items => listElements items
  | .iri _ | .literal _ | .blank _ | .var _ | .none => []

def listElements : List Term → List Term
  | [] => []
  | item :: items => item :: item.elements ++ listElements items

end

/-- An element that a collection can have: neither a variable nor the absent
value. -/
def IsDefinite (term : Term) : Prop :=
  term.kind ≠ .none ∧ term.kind ≠ .var

theorem isDefinite_list {items : List Term}
    (definite : ∀ element ∈ listElements items, element.IsDefinite) :
    ∀ element ∈ list items :: (list items).elements, element.IsDefinite := by
  have isList : (list items).IsDefinite := by
    constructor <;> simp [kind]
  rw [elements]
  exact List.forall_mem_cons.mpr ⟨isList, definite⟩

theorem isDefinite_of_kind {term : Term} (notNone : term.kind ≠ .none)
    (notVar : term.kind ≠ .var) (noElements : term.elements = []) :
    ∀ element ∈ term :: term.elements, element.IsDefinite := by
  intro element member
  rw [noElements, List.mem_singleton] at member
  subst member
  exact ⟨notNone, notVar⟩

theorem length_listElements (items : List Term) : (listElements items).length =
    items.length + (items.flatMap elements).length := by
  induction items with
  | nil => rfl
  | cons item items induction =>
      simp only [listElements, List.length_cons, List.length_append,
        List.flatMap_cons, List.cons_append, induction]
      omega

end Term

mutual

/-- The node stands for a term in some triples.  A list is stood for by the head
of its collection, and any other term by itself. -/
def Represents (triples : List Triple) : Term → Term → Prop
  | node, .list items => IsCollection triples node items
  | node, .iri name => node = .iri name
  | node, .literal value => node = .literal value
  | node, .blank label => node = .blank label
  | node, .var name => node = .var name
  | node, .none => node = .none

/-- The node is the head of a collection of the items: there is one cell for
each item, and the rest of the last one is nil. -/
def IsCollection (triples : List Triple) : Term → List Term → Prop
  | node, [] => node = .iri Vocabulary.rdfNil
  | node, item :: items => ∃ value next,
      ⟨node, .iri Vocabulary.rdfFirst, value⟩ ∈ triples ∧
        ⟨node, .iri Vocabulary.rdfRest, next⟩ ∈ triples ∧
          Represents triples value item ∧ IsCollection triples next items

end

/-- How often something is stated of a node. -/
def statedCount (triples : List Triple) (node : Term) (predicate : String) :
    Nat :=
  triples.countP fun triple => triple.subject = node ∧
    triple.predicate = .iri predicate

/-- Some triples state one first item and one rest of each of the cells, which
are distinct, and nothing else. -/
structure AreCells (cells : List Term) (triples : List Triple) : Prop where
  distinct : cells.Nodup
  first : ∀ cell ∈ cells, statedCount triples cell Vocabulary.rdfFirst = 1
  rest : ∀ cell ∈ cells, statedCount triples cell Vocabulary.rdfRest = 1
  nothingElse : ∀ triple ∈ triples, triple.subject ∈ cells ∧
    (triple.predicate = .iri Vocabulary.rdfFirst ∨
      triple.predicate = .iri Vocabulary.rdfRest)

mutual

theorem Represents.mono {triples others : List Triple} (more : triples ⊆ others)
    {node : Term} :
    ∀ {term : Term}, Represents triples node term → Represents others node term
  | .list _, represents => by
      rw [Represents] at represents ⊢
      exact represents.mono more
  | .iri _, represents | .literal _, represents | .blank _, represents | .var _,
      represents
  | .none, represents => by
      rw [Represents] at represents ⊢
      exact represents

theorem IsCollection.mono {triples others : List Triple}
    (more : triples ⊆ others) {node : Term} :
    ∀ {items : List Term}, IsCollection triples node items →
      IsCollection others node items
  | [], isCollection => by
      rw [IsCollection] at isCollection ⊢
      exact isCollection
  | _ :: _, isCollection => by
      rw [IsCollection] at isCollection ⊢
      obtain ⟨value, next, isFirst, isRest, represents, nextCollection⟩ :=
        isCollection
      exact ⟨value, next, more isFirst, more isRest, represents.mono more,
        nextCollection.mono more⟩

end

/-! ## Cells -/

theorem statedCount_append (triples others : List Triple) (node : Term)
    (predicate : String) :
    statedCount (triples ++ others) node predicate =
      statedCount triples node predicate + statedCount others node predicate :=
  List.countP_append

/-- Nothing is stated of a node that is no subject. -/
theorem statedCount_eq_zero {triples : List Triple} {node : Term}
    (absent : ∀ triple ∈ triples, triple.subject ≠ node) (predicate : String) :
    statedCount triples node predicate = 0 := by
  apply List.countP_eq_zero.mpr
  intro triple member
  simp [absent triple member]

namespace AreCells

theorem nil : AreCells [] [] where
  distinct := List.nodup_nil
  first := by simp
  rest := by simp
  nothingElse := by simp

theorem single (cell value next : Term) :
    AreCells [cell] [⟨cell, .iri Vocabulary.rdfFirst, value⟩,
      ⟨cell, .iri Vocabulary.rdfRest, next⟩] where
  distinct := List.nodup_singleton cell
  first := by simp [statedCount, Vocabulary.rdfFirst, Vocabulary.rdfRest]
  rest := by simp [statedCount, Vocabulary.rdfFirst, Vocabulary.rdfRest]
  nothingElse := by simp

theorem append {cells others : List Term} {triples later : List Triple}
    (areCells : AreCells cells triples) (areOthers : AreCells others later)
    (distinct : (cells ++ others).Nodup) :
    AreCells (cells ++ others) (triples ++ later) := by
  have disjoint : ∀ cell ∈ cells, cell ∉ others := by
    intro cell member otherMember
    exact (List.nodup_append.mp distinct).2.2 cell member cell otherMember rfl
  have once {predicate : String}
      (here : ∀ cell ∈ cells, statedCount triples cell predicate = 1)
      (there : ∀ cell ∈ others, statedCount later cell predicate = 1) :
      ∀ cell ∈ cells ++ others, statedCount (triples ++ later) cell predicate =
        1 := by
    intro cell member
    rw [statedCount_append]
    rcases List.mem_append.mp member with early | late
    · have absent : ∀ triple ∈ later, triple.subject ≠ cell := by
        intro triple laterMember same
        exact disjoint cell early
          (same ▸ (areOthers.nothingElse triple laterMember).1)
      rw [here cell early, statedCount_eq_zero absent]
    · have absent : ∀ triple ∈ triples, triple.subject ≠ cell := by
        intro triple earlierMember same
        exact disjoint cell
          (same ▸ (areCells.nothingElse triple earlierMember).1) late
      rw [there cell late, statedCount_eq_zero absent]
  constructor
  · exact distinct
  · exact once areCells.first areOthers.first
  · exact once areCells.rest areOthers.rest
  · intro triple member
    rcases List.mem_append.mp member with early | late
    · obtain ⟨isCell, link⟩ := areCells.nothingElse triple early
      exact ⟨List.mem_append_left others isCell, link⟩
    · obtain ⟨isCell, link⟩ := areOthers.nothingElse triple late
      exact ⟨List.mem_append_right cells isCell, link⟩

theorem perm {cells others : List Term} {triples : List Triple}
    (areCells : AreCells cells triples) (same : cells.Perm others) :
    AreCells others triples where
  distinct := same.nodup_iff.mp areCells.distinct
  first cell member := areCells.first cell (same.mem_iff.mpr member)
  rest cell member := areCells.rest cell (same.mem_iff.mpr member)
  nothingElse triple member :=
    ⟨same.mem_iff.mp (areCells.nothingElse triple member).1,
      (areCells.nothingElse triple member).2⟩

end AreCells

/-! ## Fresh nodes -/

/-- The nodes that are handed out when some labels have been used. -/
def freshNodes (labels : LabelSource) (count : Nat) : List Term :=
  (List.range' labels.allocated count).map fun number =>
    .blank (LabelSource.label labels.stem number)

theorem nodup_freshNodes (labels : LabelSource) (count : Nat) :
    (freshNodes labels count).Nodup := by
  apply List.Nodup.map
  · intro left right same
    exact LabelSource.label_injective (Term.blank.inj same)
  · exact List.nodup_range'

theorem freshNodes_append (labels : LabelSource) (count more : Nat) :
    freshNodes labels count ++
        freshNodes { labels with allocated := labels.allocated + count } more =
      freshNodes labels (count + more) := by
  rw [freshNodes, freshNodes, freshNodes, ← List.map_append,
    List.range'_append_1]

/-! ## Writing -/

/-- The state after some labels have been used and some triples put out. -/
def ExpansionState.wrote (state : ExpansionState) (count : Nat)
    (triples : List Triple) : ExpansionState where
  context :=
    { state.context with
      labels :=
        { state.context.labels with
          allocated := state.context.labels.allocated + count } }
  output := state.output ++ triples.toArray
  events := state.events ++ (triples.map Event.tripleEmitted).toArray

namespace Expansion

/-- The step succeeds, uses some labels and puts out some triples. -/
def Writes {α : Type} (step : Expansion α) (state : ExpansionState) (value : α)
    (count : Nat) (triples : List Triple) : Prop :=
  step state = .ok value (state.wrote count triples)

namespace Writes

variable {state : ExpansionState}

theorem pure {α : Type} (value : α) :
    Writes (Pure.pure value) state value 0 [] := by
  show EStateM.Result.ok value state = _
  simp [ExpansionState.wrote]

theorem bind {α β : Type} {step : Expansion α} {rest : α → Expansion β}
    {value : α} {result : β} {count more : Nat} {triples others : List Triple}
    (first : Writes step state value count triples)
    (continues :
      Writes (rest value) (state.wrote count triples) result more others) :
    Writes (step >>= rest) state result (count + more) (triples ++ others) := by
  have both : (state.wrote count triples).wrote more others =
      state.wrote (count + more) (triples ++ others) := by
    simp [ExpansionState.wrote, Nat.add_assoc]
  unfold Writes at first continues ⊢
  show EStateM.bind step rest state = _
  rw [EStateM.bind, first, ← both]
  exact continues

/-- The labels and triples may be counted in another way. -/
theorem cast {α : Type} {step : Expansion α} {value : α} {count other : Nat}
    {triples others : List Triple}
    (written : Writes step state value count triples)
    (sameCount : count = other) (sameTriples : triples = others) :
    Writes step state value other others := by
  subst sameCount sameTriples
  exact written

theorem emit (triple : Triple) : Writes (emit triple) state () 0 [triple] := by
  simp [Writes, Expansion.emit, ExpansionState.wrote]

theorem freshBlanks (count : Nat) :
    Writes (freshBlanks count) state (freshNodes state.context.labels count)
      count [] := by
  induction count generalizing state with
  | zero => exact pure []
  | succ count induction =>
      have freshBlank : Writes freshBlank state (.blank (LabelSource.label
          state.context.labels.stem state.context.labels.allocated))
          1 [] := by
        simp [Writes, Expansion.freshBlank, ExpansionState.wrote,
          LabelSource.fresh]
      have nodes : freshNodes state.context.labels (count + 1) =
          .blank (LabelSource.label state.context.labels.stem
            state.context.labels.allocated) ::
            freshNodes (state.wrote 1 []).context.labels count := by
        simp [freshNodes, ExpansionState.wrote, List.range'_succ]
      rw [nodes, Expansion.freshBlanks]
      refine cast (bind freshBlank (bind induction (pure _))) ?_ rfl
      omega

end Writes

/-- A cell is written between the nodes of its own item and the cells and nodes
after it. -/
theorem perm_cell (cell : Term) (inner cells later : List Term) :
    (inner ++ [cell] ++ (cells ++ later)).Perm (cell :: cells ++
      (inner ++ later)) :=
  calc inner ++ [cell] ++ (cells ++ later)
    _ = inner ++ ([cell] ++ (cells ++ later)) := List.append_assoc ..
    List.Perm _ ([cell] ++ (inner ++ (cells ++ later))) :=
      List.perm_append_comm_assoc ..
    List.Perm _ ([cell] ++ (cells ++ (inner ++ later))) :=
      (List.perm_append_comm_assoc ..).append_left [cell]

mutual

theorem writes_itemValue :
    ∀ (item : Term) (state : ExpansionState),
      (∀ element ∈ item :: item.elements, element.IsDefinite) →
        ∃ value triples,
          Writes (itemValue item) state value item.elements.length triples ∧
            Represents triples value item ∧
            AreCells (freshNodes state.context.labels item.elements.length)
              triples
  | .list items, state, definite => by
      let cells := freshNodes state.context.labels items.length
      let used := state.wrote items.length []
      let inner := (items.flatMap Term.elements).length
      have elements : (Term.list items).elements = Term.listElements items := by
        rw [Term.elements]
      have total :
          (Term.list items).elements.length = items.length + inner := by
        rw [elements, Term.length_listElements]
      have allNodes : cells ++ freshNodes used.context.labels inner =
          freshNodes state.context.labels (items.length + inner) :=
        freshNodes_append state.context.labels items.length inner
      have itemsDefinite :
          ∀ element ∈ Term.listElements items, element.IsDefinite := by
        intro element member
        exact definite element (List.mem_cons_of_mem _ (elements ▸ member))
      have distinct :
          (cells ++ freshNodes used.context.labels inner).Nodup := by
        rw [allNodes]
        exact nodup_freshNodes state.context.labels (items.length + inner)
      obtain ⟨triples, written, isCollection, areCells⟩ :=
        writes_writeCells items cells used (by simp [cells, freshNodes])
          itemsDefinite distinct
      refine ⟨listNode cells, triples, ?_, ?_, ?_⟩
      · rw [total, itemValue]
        refine .cast
          (.bind (.freshBlanks items.length) (.bind written (.pure _))) rfl ?_
        simp
      · rw [Represents]
        exact isCollection
      · rw [total, ← allNodes]
        exact areCells
  | .none, _, definite => by
      have kinds := definite .none List.mem_cons_self
      exact absurd rfl kinds.1
  | .var name, _, definite => by
      have kinds := definite (.var name) List.mem_cons_self
      exact absurd rfl kinds.2
  | .iri name, state, _ => by
      refine ⟨.iri name, [], Writes.pure _, ?_, .nil⟩
      rw [Represents]
  | .literal value, state, _ => by
      refine ⟨.literal value, [], Writes.pure _, ?_, .nil⟩
      rw [Represents]
  | .blank label, state, _ => by
      refine ⟨.blank label, [], Writes.pure _, ?_, .nil⟩
      rw [Represents]

/-- Items are written into cells of their own, and the lists among them into
fresh ones. -/
theorem writes_writeCells :
    ∀ (items cells : List Term) (state : ExpansionState), cells.length =
      items.length →
      (∀ element ∈ Term.listElements items, element.IsDefinite) →
      (cells ++ freshNodes state.context.labels
        (items.flatMap Term.elements).length).Nodup →
      ∃ triples, Writes (writeCells items cells) state ()
        (items.flatMap Term.elements).length triples ∧
        IsCollection triples (listNode cells) items ∧
        AreCells (cells ++
          freshNodes state.context.labels (items.flatMap Term.elements).length)
          triples
  | [], [], state, _, _, _ => by
      refine ⟨[], ?_, ?_, .nil⟩
      · simp only [writeCells]
        exact Writes.pure ()
      · rw [IsCollection]
        rfl
  | item :: items, cell :: cells, state, lengths, definite, distinct => by
      let first := item.elements.length
      let later := (items.flatMap Term.elements).length
      have total :
          ((item :: items).flatMap Term.elements).length = first + later := by
        rw [List.flatMap_cons, List.length_append]
      have itemDefinite :
          ∀ element ∈ item :: item.elements, element.IsDefinite := by
        intro element member
        exact definite element (List.mem_append_left _ member)
      have itemsDefinite :
          ∀ element ∈ Term.listElements items, element.IsDefinite := by
        intro element member
        exact definite element (List.mem_append_right _ member)
      obtain ⟨value, triples, itemWritten, represents, areInner⟩ :=
        writes_itemValue item state itemDefinite
      let holds : Triple := ⟨cell, .iri Vocabulary.rdfFirst, value⟩
      let links : Triple := ⟨cell, .iri Vocabulary.rdfRest, listNode cells⟩
      let linked :=
        ((state.wrote first triples).wrote 0 [holds]).wrote 0 [links]
      have order : (freshNodes state.context.labels first ++ [cell] ++
          (cells ++ freshNodes linked.context.labels later)).Perm
          (cell :: cells ++
            freshNodes state.context.labels (first + later)) := by
        rw [← freshNodes_append]
        exact perm_cell cell _ cells _
      rw [total] at distinct ⊢
      have allDistinct := order.nodup_iff.mpr distinct
      obtain ⟨others, restWritten, isCollection, areRest⟩ :=
        writes_writeCells items cells linked (Nat.succ.inj lengths)
          itemsDefinite allDistinct.of_append_right
      have areCell :
          AreCells [cell] [holds, links] := .single cell value (listNode cells)
      refine ⟨triples ++ [holds, links] ++ others, ?_, ?_, ?_⟩
      · rw [writeCells]
        refine .cast (.bind itemWritten
          (.bind (.emit holds) (.bind (.emit links) restWritten))) ?_ ?_
        · omega
        · simp
      · rw [IsCollection]
        refine ⟨value, listNode cells, ?_, ?_, represents.mono ?_,
          isCollection.mono ?_⟩
        · simp [listNode, holds]
        · simp [listNode, links]
        · exact fun triple member => by simp [member]
        · exact fun triple member => by simp [member]
      · exact ((areInner.append areCell allDistinct.of_append_left).append
          areRest allDistinct).perm order

end

/-! ## Refused elements -/

theorem length_freshBlanks (count : Nat) :
    (Contract.ofValues ExpansionState).MetBy (fun nodes => nodes.length = count)
      (freshBlanks count) := by
  intro state _
  have written : Writes (freshBlanks count) state _ count [] :=
    .freshBlanks count
  rw [Writes] at written
  rw [written]
  exact ⟨by simp [freshNodes], trivial⟩

mutual

/-- An item is written only if it is definite, and its elements are. -/
theorem definite_itemValue :
    ∀ item : Term, (Contract.ofValues ExpansionState).MetBy
      (fun _ => ∀ element ∈ item :: item.elements, element.IsDefinite)
      (itemValue item)
  | .list items => by
      simp only [itemValue]
      apply (length_freshBlanks items.length).bind
      intro cells lengths
      apply (definite_writeCells items cells lengths).bind
      intro _ definite
      exact Contract.MetBy.pure (Term.isDefinite_list definite)
  | .none | .var _ => fun _ _ => trivial
  | .iri _ | .literal _ | .blank _ => by
      apply Contract.MetBy.pure
      apply Term.isDefinite_of_kind <;> simp [Term.kind, Term.elements]

theorem definite_writeCells :
    ∀ items cells : List Term, cells.length = items.length →
      (Contract.ofValues ExpansionState).MetBy
        (fun _ => ∀ element ∈ Term.listElements items, element.IsDefinite)
        (writeCells items cells)
  | [], [], _ => by
      simp only [writeCells]
      apply Contract.MetBy.pure
      simp [Term.listElements]
  | item :: items, cell :: cells, lengths => by
      simp only [writeCells]
      apply (definite_itemValue item).bind
      intro value itemDefinite
      apply (Contract.metBy_ofValues _).bind
      intro _ _
      apply (Contract.metBy_ofValues _).bind
      intro _ _
      apply (definite_writeCells items cells (Nat.succ.inj lengths)).weaken
      intro _ restDefinite element member
      rcases List.mem_append.mp member with first | later
      · exact itemDefinite element first
      · exact restDefinite element later

end

end Expansion

/-- A list can be written out if neither a variable nor the absent value is in
it at any depth.  What is put out then is a collection of it, in fresh cells:
one for each element at every depth, and nothing is said of anything else. -/
theorem Expansion.writeCollection_faithful (items : List Term)
    (state : ExpansionState) :
    ((∃ head last, writeCollection items state = .ok head last) ↔
      ∀ element ∈ Term.listElements items, element.kind ≠ .none ∧
        element.kind ≠ .var) ∧
      ∀ head last, writeCollection items state = .ok head last →
        ∃ triples cells, last = state.wrote cells.length triples ∧ cells =
          freshNodes state.context.labels (Term.listElements items).length ∧
          AreCells cells triples ∧ IsCollection triples head items ∧
          (items = [] → head = .iri Vocabulary.rdfNil ∧ triples = []) := by
  have writes
      (definite : ∀ element ∈ Term.listElements items, element.IsDefinite) :
      ∃ head triples, Writes (writeCollection items) state head
        (Term.listElements items).length triples ∧
        IsCollection triples head items ∧
        AreCells
          (freshNodes state.context.labels (Term.listElements items).length)
          triples := by
    obtain ⟨head, triples, written, represents, areCells⟩ :=
      writes_itemValue (.list items) state (Term.isDefinite_list definite)
    rw [Represents] at represents
    rw [Term.elements] at written areCells
    exact ⟨head, triples, written, represents, areCells⟩
  have definite {head : Term} {last : ExpansionState}
      (succeeded : writeCollection items state = .ok head last) :
      ∀ element ∈ Term.listElements items, element.IsDefinite := by
    have result := definite_itemValue (.list items) state trivial
    rw [writeCollection] at succeeded
    rw [succeeded] at result
    intro element member
    apply result.1 element
    rw [Term.elements]
    exact List.mem_cons_of_mem _ member
  constructor
  · constructor
    · intro succeeds
      obtain ⟨head, last, succeeded⟩ := succeeds
      exact definite succeeded
    · intro allDefinite
      obtain ⟨head, triples, written, _⟩ := writes allDefinite
      exact ⟨head, _, written⟩
  · intro head last succeeded
    obtain ⟨other, triples, written, isCollection, areCells⟩ :=
      writes (definite succeeded)
    rw [Writes, succeeded] at written
    cases written
    refine ⟨triples, _, ?_, rfl, areCells, isCollection, ?_⟩
    · simp [freshNodes]
    · intro empty
      subst empty
      rw [IsCollection] at isCollection
      refine ⟨isCollection, List.eq_nil_iff_forall_not_mem.mpr ?_⟩
      intro triple member
      cases (areCells.nothingElse triple member).1

/-- A list with an empty list in it, and one of a node that was handed out
before. -/
def mixedItems : List Term :=
  [.iri "a", .list [], .list [.blank "b_4"]]

theorem Expansion.writeCollection_mixed :
    (∀ element ∈ Term.listElements mixedItems, element.kind ≠ .none ∧
      element.kind ≠ .var) ∧
      (∃ head triples cells,
        writeCollection mixedItems { context := { labels := ⟨"b", 5⟩ } } =
          .ok head (ExpansionState.wrote { context := { labels := ⟨"b", 5⟩ } }
            cells.length triples) ∧
          AreCells cells triples ∧ IsCollection triples head mixedItems) ∧
      (final (writeCollection mixedItems
        { context := { labels := ⟨"b", 5⟩ } })).output.toList =
        [ ⟨.blank "b_5", .iri Vocabulary.rdfFirst, .iri "a"⟩,
          ⟨.blank "b_5", .iri Vocabulary.rdfRest, .blank "b_6"⟩,
          ⟨.blank "b_6", .iri Vocabulary.rdfFirst, .iri Vocabulary.rdfNil⟩,
          ⟨.blank "b_6", .iri Vocabulary.rdfRest, .blank "b_7"⟩,
          ⟨.blank "b_8", .iri Vocabulary.rdfFirst, .blank "b_4"⟩,
          ⟨.blank "b_8", .iri Vocabulary.rdfRest, .iri Vocabulary.rdfNil⟩,
          ⟨.blank "b_7", .iri Vocabulary.rdfFirst, .blank "b_8"⟩,
          ⟨.blank "b_7", .iri Vocabulary.rdfRest, .iri Vocabulary.rdfNil⟩ ] ∧
      ¬∃ head last, writeCollection [.iri "a", .list [.none]]
        { context := { labels := ⟨"b", 5⟩ } } = .ok head last := by
  have definite : ∀ element ∈ Term.listElements mixedItems,
      element.kind ≠ .none ∧ element.kind ≠ .var := by
    decide
  obtain ⟨succeeds, represents⟩ :=
    writeCollection_faithful mixedItems { context := { labels := ⟨"b", 5⟩ } }
  obtain ⟨head, last, succeeded⟩ := succeeds.mpr definite
  obtain ⟨triples, cells, rfl, _, areCells, isCollection, _⟩ :=
    represents head last succeeded
  refine ⟨definite, ⟨head, triples, cells, succeeded, areCells, isCollection⟩,
    by decide +kernel, ?_⟩
  intro nestedSucceeds
  have nestedDefinite := (writeCollection_faithful [.iri "a", .list [.none]]
    { context := { labels := ⟨"b", 5⟩ } }).1.mp nestedSucceeds
  exact (nestedDefinite .none (by decide)).1 rfl

end RdfTemplates
