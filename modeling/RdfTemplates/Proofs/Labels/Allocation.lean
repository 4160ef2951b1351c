import RdfTemplates.Proofs.Labels.Demands

/-!
# Allocation of labels

Any number of scopes of placeholders may share one source of labels, and fresh
labels may be taken from it in between.  However such requests follow each
other, each of them settles what it demands and leaves all earlier labels to
whom they have been given.
-/

namespace RdfTemplates

/-! ## Requests -/

/-- What may be asked of a source of labels and the scopes that share it. -/
inductive LabelRequest where
  | freshLabel
  | freshNode
  /-- A new scope of placeholders. -/
  | openScope
  /-- A term, with its placeholders replaced in a scope. -/
  | localize (scope : Nat) (term : Term)
  deriving DecidableEq

inductive LabelAnswer where
  | freshLabel (text : String)
  | freshNode (node : Term)
  | opened (scope : Nat)
  | localized (term : Term)
  /-- There is no scope of that number. -/
  | noScope
  deriving DecidableEq

/-- The label that is handed out on a request for a fresh one. -/
def LabelAnswer.freshLabel? : LabelAnswer → Option String
  | .freshLabel text => some text
  | .freshNode node => node.blankLabel?
  | .opened _ | .localized _ | .noScope => none

def freshLabels (answers : List LabelAnswer) : List String :=
  answers.filterMap LabelAnswer.freshLabel?

/-- A source of labels with the scopes that share it, numbered in the order in
which they have been opened. -/
structure Allocation where
  source : LabelSource
  scopes : List Placeholders := []

namespace LabelRequest

/-- Whether a fresh label is asked for, alone or as a node. -/
def isFresh : LabelRequest → Bool
  | .freshLabel | .freshNode => true
  | .openScope | .localize _ _ => false

/-- What a request demands when so many scopes are open. -/
def demands (opened : Nat) : LabelRequest → List Demand
  | .freshLabel | .freshNode => [.fresh]
  | .openScope => []
  | .localize scope term =>
      if scope < opened then term.blankNames.map (.placeholder scope) else []

/-- The number of open scopes after a request. -/
def openedAfter (opened : Nat) : LabelRequest → Nat
  | .openScope => opened + 1
  | .freshLabel | .freshNode | .localize _ _ => opened

/-- What requests demand, one after the other. -/
def allDemands (opened : Nat) : List LabelRequest → List Demand
  | [] => []
  | request :: requests =>
      request.demands opened ++ allDemands (request.openedAfter opened) requests

/-- The placeholders that requests meet, each with its scope. -/
def placeholders (requests : List LabelRequest) : List (Nat × String) :=
  (allDemands 0 requests).filterMap Demand.placeholder?

end LabelRequest

namespace Allocation

open Demand (settle settleAll freshCounts)
open LabelSource (label)

def ofStem (stem : String) : Allocation :=
  { source := { stem } }

def perform (allocation : Allocation) : LabelRequest → LabelAnswer × Allocation
  | .freshLabel =>
      let (text, source) := allocation.source.fresh
      (.freshLabel text, { allocation with source })
  | .freshNode =>
      let (text, source) := allocation.source.fresh
      (.freshNode (.blank text), { allocation with source })
  | .openScope =>
      (.opened allocation.scopes.length,
        { allocation with scopes := allocation.scopes ++ [{}] })
  | .localize scope term =>
      match allocation.scopes[scope]? with
      | none => (.noScope, allocation)
      | some placeholders =>
          let (term, placeholders, source) :=
            placeholders.localize allocation.source term
          (.localized term,
            { source, scopes := allocation.scopes.set scope placeholders })

/-- The answers to requests, and what they leave behind. -/
def performAll (allocation : Allocation) :
    List LabelRequest → List LabelAnswer × Allocation
  | [] => ([], allocation)
  | request :: requests =>
      let (answer, next) := allocation.perform request
      let (answers, last) := next.performAll requests
      (answer :: answers, last)

/-- The label of a placeholder that has been met in a scope. -/
def labelOf? (allocation : Allocation) (scope : Nat) (name : String) :
    Option String :=
  allocation.scopes[scope]?.bind (·.labels.lookup name)

/-! ## Steps -/

/-- The labels of all scopes are those that the settled demands give them. -/
structure Records (allocation : Allocation) (stem : String)
    (settled : List Demand) : Prop where
  source : allocation.source = ⟨stem, settled.length⟩
  labels : ∀ scope name, allocation.labelOf? scope name =
    (settled.idxOf? (.placeholder scope name)).map (label stem)

theorem records_ofStem (stem : String) : (ofStem stem).Records stem [] :=
  ⟨rfl, fun _ _ => rfl⟩

theorem labelOf?_of_getElem? {allocation : Allocation} {scope : Nat}
    {placeholders : Placeholders}
    (isOpen : allocation.scopes[scope]? = some placeholders) (name : String) :
    allocation.labelOf? scope name = placeholders.labels.lookup name := by
  rw [labelOf?, isOpen, Option.bind_some]

theorem length_scopes_perform (allocation : Allocation)
    (request : LabelRequest) :
    (allocation.perform request).2.scopes.length =
      request.openedAfter allocation.scopes.length := by
  cases request with
  | freshLabel => rfl
  | freshNode => rfl
  | openScope => simp [perform, LabelRequest.openedAfter]
  | localize scope term =>
      simp only [perform, LabelRequest.openedAfter]
      split
      · rfl
      · simp

variable {allocation : Allocation} {stem : String} {settled : List Demand}

theorem Records.fresh (records : allocation.Records stem settled) :
    Records { allocation with source := allocation.source.fresh.2 } stem
      (settled ++ [.fresh]) := by
  constructor
  · simp [records.source, LabelSource.fresh]
  · intro scope name
    rw [Demand.idxOf?_append_other (by simp)]
    exact records.labels scope name

theorem Records.openScope (records : allocation.Records stem settled) :
    Records { allocation with scopes := allocation.scopes ++ [{}] } stem
      settled := by
  refine ⟨records.source, ?_⟩
  intro scope name
  rw [← records.labels]
  simp only [labelOf?, List.getElem?_append]
  split
  · rfl
  · rename_i notOpen
    rw [List.getElem?_eq_none (Nat.le_of_not_lt notOpen)]
    cases last : [({} : Placeholders)][scope - allocation.scopes.length]? with
    | none => rfl
    | some placeholders =>
        cases List.mem_singleton.mp (List.mem_of_getElem? last)
        rfl

theorem Records.localize (records : allocation.Records stem settled)
    {scope : Nat} {placeholders : Placeholders}
    (isOpen : allocation.scopes[scope]? = some placeholders) (term : Term) :
    Records
      { source := (placeholders.localize allocation.source term).2.2
        scopes := allocation.scopes.set scope
          (placeholders.localize allocation.source term).2.1 }
      stem (settleAll settled (term.blankNames.map (.placeholder scope))) := by
  have table : placeholders.Records allocation.source stem scope settled := by
    refine ⟨records.source, ?_⟩
    intro name
    rw [← labelOf?_of_getElem? isOpen, records.labels]
  have localized := table.localize term
  refine ⟨localized.source, ?_⟩
  intro other name
  have bound := (List.getElem?_eq_some_iff.mp isOpen).1
  by_cases same : scope = other
  · subst same
    rw [← localized.labels name]
    exact labelOf?_of_getElem? (by simp [bound]) name
  · have apart : ∀ demand ∈ term.blankNames.map (Demand.placeholder scope),
        .placeholder other name ≠ demand := by
      intro demand member
      obtain ⟨placeholder, _, rfl⟩ := List.mem_map.mp member
      simp [Ne.symm same]
    rw [Demand.idxOf?_settleAll_other apart, ← records.labels]
    simp [labelOf?, same]

theorem Records.perform (records : allocation.Records stem settled)
    (request : LabelRequest) :
    (allocation.perform request).2.Records stem
      (settleAll settled (request.demands allocation.scopes.length)) := by
  cases request with
  | freshLabel | freshNode =>
      show Records _ stem (settle settled .fresh)
      rw [Demand.settle_fresh]
      exact records.fresh
  | openScope => exact records.openScope
  | localize scope term =>
      simp only [Allocation.perform, LabelRequest.demands]
      split
      · rename_i absent
        rw [if_neg (Nat.not_lt.mpr (List.getElem?_eq_none_iff.mp absent))]
        exact records
      · rename_i placeholders isOpen
        rw [if_pos (List.getElem?_eq_some_iff.mp isOpen).1]
        exact records.localize isOpen term

/-- The fresh label in an answer is the one that its demand is given. -/
theorem Records.freshLabel_perform (records : allocation.Records stem settled)
    (request : LabelRequest) :
    (freshCounts settled).map (label stem) ++
      freshLabels [(allocation.perform request).1] =
      (freshCounts
        (settleAll settled (request.demands allocation.scopes.length))).map
        (label stem) := by
  have fresh :
      (freshCounts settled).map (label stem) ++ [allocation.source.fresh.1] =
        (freshCounts (settleAll settled [.fresh])).map (label stem) := by
    simp [settleAll, Demand.freshCounts_fresh, LabelSource.fresh,
      records.source]
  have localized (scope : Nat) (names : List String) (settled : List Demand) :
      freshCounts (settleAll settled (names.map (.placeholder scope))) =
        freshCounts settled := by
    induction names generalizing settled with
    | nil => rfl
    | cons name names induction =>
        exact (induction _).trans
          (Demand.freshCounts_settle_placeholder scope name)
  cases request with
  | freshLabel => exact fresh
  | freshNode => exact fresh
  | openScope => simp [Allocation.perform, freshLabels, LabelAnswer.freshLabel?,
      LabelRequest.demands, settleAll]
  | localize scope term =>
      have noLabel :
          freshLabels [(allocation.perform (.localize scope term)).1] = [] := by
        simp only [Allocation.perform]
        split <;> rfl
      rw [noLabel, List.append_nil, LabelRequest.demands]
      split
      · rw [localized]
      · rfl

/-! ## Runs -/

theorem performAll_append (earlier later : List LabelRequest) :
    (allocation.performAll (earlier ++ later)).1 =
        (allocation.performAll earlier).1 ++
          ((allocation.performAll earlier).2.performAll later).1 ∧
      (allocation.performAll (earlier ++ later)).2 =
        ((allocation.performAll earlier).2.performAll later).2 := by
  induction earlier generalizing allocation with
  | nil => exact ⟨rfl, rfl⟩
  | cons request earlier induction =>
      obtain ⟨answers, last⟩ := @induction (allocation.perform request).2
      simp only [List.cons_append, performAll, answers, last]
      exact ⟨trivial, trivial⟩

theorem length_performAll (requests : List LabelRequest) :
    (allocation.performAll requests).1.length = requests.length := by
  induction requests generalizing allocation with
  | nil => rfl
  | cons request requests induction => simp [performAll, induction]

theorem length_scopes_performAll (requests : List LabelRequest) :
    (allocation.performAll requests).2.scopes.length =
      allocation.scopes.length + requests.count .openScope := by
  induction requests generalizing allocation with
  | nil => rfl
  | cons request requests induction =>
      rw [performAll, induction, length_scopes_perform, List.count_cons]
      cases request with
      | openScope =>
          simp only [LabelRequest.openedAfter, beq_self_eq_true, if_true]
          omega
      | freshLabel => rfl
      | freshNode => rfl
      | localize scope term => rfl

/-- A run settles what its requests demand. -/
theorem Records.performAll (records : allocation.Records stem settled)
    (requests : List LabelRequest) :
    (allocation.performAll requests).2.Records stem (settleAll settled
      (LabelRequest.allDemands allocation.scopes.length requests)) := by
  induction requests generalizing allocation settled with
  | nil => exact records
  | cons request requests induction =>
      have rest := induction (records.perform request)
      rw [length_scopes_perform] at rest
      simp only [LabelRequest.allDemands, settleAll, List.foldl_append]
      exact rest

theorem Records.freshLabels_performAll
    (records : allocation.Records stem settled) (requests : List LabelRequest) :
    (freshCounts settled).map (label stem) ++
      freshLabels (allocation.performAll requests).1 =
      (freshCounts (settleAll settled
        (LabelRequest.allDemands allocation.scopes.length requests))).map
        (label stem) := by
  induction requests generalizing allocation settled with
  | nil => simp [Allocation.performAll, freshLabels, LabelRequest.allDemands,
      settleAll]
  | cons request requests induction =>
      have rest := induction (records.perform request)
      have first := records.freshLabel_perform request
      rw [length_scopes_perform, ← first] at rest
      have split : freshLabels (allocation.performAll (request :: requests)).1 =
          freshLabels [(allocation.perform request).1] ++ freshLabels
            ((allocation.perform request).2.performAll requests).1 := by
        rw [freshLabels, freshLabels, freshLabels, ← List.filterMap_append]
        rfl
      rw [split, ← List.append_assoc, rest]
      simp only [LabelRequest.allDemands, settleAll, List.foldl_append]

theorem Records.labelOf?_performAll (records : allocation.Records stem settled)
    (requests : List LabelRequest) {scope : Nat} {name text : String}
    (labelled : allocation.labelOf? scope name = some text) :
    (allocation.performAll requests).2.labelOf? scope name = some text := by
  rw [records.labels] at labelled
  obtain ⟨count, found, rfl⟩ := Option.map_eq_some_iff.mp labelled
  rw [(records.performAll requests).labels,
    Demand.idxOf?_of_prefix Demand.prefix_settleAll found, Option.map_some]

/-- A label of a placeholder is counted by the demand that it settles. -/
theorem Records.settled_of_labelOf? (records : allocation.Records stem settled)
    {scope : Nat} {name text : String}
    (labelled : allocation.labelOf? scope name = some text) :
    ∃ count, settled[count]? = some (.placeholder scope name) ∧
      text = label stem count := by
  rw [records.labels] at labelled
  obtain ⟨count, found, rfl⟩ := Option.map_eq_some_iff.mp labelled
  exact ⟨count, Demand.getElem?_of_idxOf? found, rfl⟩

theorem Records.isSome_labelOf?_iff (records : allocation.Records stem settled)
    {scope : Nat} {name : String} :
    (allocation.labelOf? scope name).isSome = true ↔
      .placeholder scope name ∈ settled := by
  rw [records.labels, Option.isSome_map, List.isSome_idxOf?]

/-! ## Answers -/

theorem count_fresh_allDemands (opened : Nat) (requests : List LabelRequest) :
    (LabelRequest.allDemands opened requests).count .fresh =
      requests.countP LabelRequest.isFresh := by
  induction requests generalizing opened with
  | nil => rfl
  | cons request requests induction =>
      have single : (request.demands opened).count .fresh =
          if request.isFresh then 1 else 0 := by
        cases request with
        | localize scope term =>
            rw [List.count_eq_zero.mpr]
            · rfl
            · simp only [LabelRequest.demands]
              split
              · simp
              · exact List.not_mem_nil
        | freshLabel | freshNode | openScope => rfl
      rw [LabelRequest.allDemands, List.count_append, induction, single,
        List.countP_cons]
      omega

/-- A term is answered with its blank nodes renamed to the labels that they have
in the end. -/
theorem Records.answer_localize (records : allocation.Records stem settled)
    {scope : Nat} (isOpen : scope < allocation.scopes.length) (term : Term)
    (later : List LabelRequest) :
    let last :=
      ((allocation.perform (.localize scope term)).2.performAll later).2
    (∀ name ∈ term.blankNames, (last.labelOf? scope name).isSome = true) ∧
      (allocation.perform (.localize scope term)).1 =
        .localized (term.relabel fun name =>
          (last.labelOf? scope name).getD name) := by
  intro last
  have found : allocation.scopes[scope]? = some allocation.scopes[scope] :=
    List.getElem?_eq_getElem isOpen
  let localized := allocation.scopes[scope].localize allocation.source term
  have ends : allocation.perform (.localize scope term) =
      (.localized localized.1,
        ⟨localized.2.2, allocation.scopes.set scope localized.2.1⟩) := by
    simp only [Allocation.perform, found]
    rfl
  have kept : ∀ name text, localized.2.1.labels.lookup name = some text →
      last.labelOf? scope name = some text := by
    intro name text labelled
    apply (records.perform (.localize scope term)).labelOf?_performAll later
    rw [ends]
    rw [← labelled]
    exact labelOf?_of_getElem? (by simp [isOpen]) name
  obtain ⟨renamed, known⟩ := Placeholders.localize_eq_relabel term kept
  rw [ends]
  exact ⟨known, congrArg LabelAnswer.localized renamed⟩

theorem labelOf?_performAll_append {stem : String} {earlier : List LabelRequest}
    (later : List LabelRequest) {scope : Nat} {name text : String}
    (labelled : ((ofStem stem).performAll earlier).2.labelOf? scope name =
      some text) :
    ((ofStem stem).performAll (earlier ++ later)).2.labelOf? scope name =
      some text := by
  rw [(performAll_append earlier later).2]
  exact ((records_ofStem stem).performAll earlier).labelOf?_performAll
    later labelled

/-- The label is handed out in answer to one of the requests. -/
def HandsOut (stem : String) (requests : List LabelRequest)
    (text : String) : Prop :=
  text ∈ freshLabels ((ofStem stem).performAll requests).1 ∨
    ∃ scope name, ((ofStem stem).performAll requests).2.labelOf? scope name =
      some text

theorem HandsOut.eq_label {stem : String} {requests : List LabelRequest}
    {text : String} (handsOut : HandsOut stem requests text) :
    ∃ count, text = label stem count := by
  rcases handsOut with fresh | labelled
  · have all := (records_ofStem stem).freshLabels_performAll requests
    rw [show freshCounts [] = [] from rfl, List.map_nil, List.nil_append] at all
    rw [all] at fresh
    obtain ⟨count, _, rfl⟩ := List.mem_map.mp fresh
    exact ⟨count, rfl⟩
  · obtain ⟨scope, name, labelled⟩ := labelled
    obtain ⟨count, _, same⟩ :=
      ((records_ofStem stem).performAll requests).settled_of_labelOf? labelled
    exact ⟨count, same⟩

/-- Whatever is asked of a source and of the scopes that share it, and in
whatever order: a placeholder keeps its label, no two placeholders share one,
and neither does a fresh label with any other.  As many labels are handed out as
fresh ones are asked for and placeholders are met, terms are changed in nothing
but the labels of their blank nodes, and sources with different stems have no
label in common. -/
theorem performAll_collisionFree (stem : String)
    (requests : List LabelRequest) :
    let answers := ((ofStem stem).performAll requests).1
    let last := ((ofStem stem).performAll requests).2
    (∀ earlier later, requests = earlier ++ later → ∀ scope name text,
      ((ofStem stem).performAll earlier).2.labelOf? scope name = some text →
        last.labelOf? scope name = some text) ∧
    (∀ scope name otherScope otherName text,
      last.labelOf? scope name = some text →
        last.labelOf? otherScope otherName = some text →
        scope = otherScope ∧ name = otherName) ∧
    (freshLabels answers).length = requests.countP LabelRequest.isFresh ∧
    (freshLabels answers).Nodup ∧
    (∀ text ∈ freshLabels answers, ∀ scope name, last.labelOf? scope name ≠
      some text) ∧
    last.source.allocated = requests.countP LabelRequest.isFresh +
      (LabelRequest.placeholders requests).toFinset.card ∧
    (∀ scope name, (last.labelOf? scope name).isSome = true ↔
      (scope, name) ∈ LabelRequest.placeholders requests) ∧
    (∀ earlier scope term later,
      requests = earlier ++ .localize scope term :: later →
        scope < earlier.count .openScope →
        (∀ name ∈ term.blankNames, (last.labelOf? scope name).isSome = true) ∧
          answers[earlier.length]? = some (.localized
            (term.relabel fun name => (last.labelOf? scope name).getD name))) ∧
    ∀ otherStem otherRequests text, HandsOut stem requests text →
      HandsOut otherStem otherRequests text → stem = otherStem := by
  intro answers last
  let settled := settleAll [] (LabelRequest.allDemands 0 requests)
  have records :
      last.Records stem settled := (records_ofStem stem).performAll requests
  have fresh : freshLabels answers = (freshCounts settled).map (label stem) :=
    (records_ofStem stem).freshLabels_performAll requests
  refine ⟨?_, ?_, ?_, ?_, ?_, ?_, ?_, ?_, ?_⟩
  · intro earlier later split scope name text labelled
    subst split
    exact labelOf?_performAll_append later labelled
  · intro scope name otherScope otherName text labelled otherLabelled
    obtain ⟨count, settledAt, rfl⟩ := records.settled_of_labelOf? labelled
    obtain ⟨otherCount, otherSettledAt, same⟩ :=
      records.settled_of_labelOf? otherLabelled
    rw [← LabelSource.label_injective same, settledAt] at otherSettledAt
    cases otherSettledAt
    exact ⟨rfl, rfl⟩
  · rw [fresh, List.length_map, Demand.length_freshCounts_settleAll,
      count_fresh_allDemands]
    exact Nat.zero_add _
  · rw [fresh]
    exact (Demand.nodup_freshCounts settled).map
      fun _ _ same => LabelSource.label_injective same
  · intro text isFresh scope name labelled
    rw [fresh] at isFresh
    obtain ⟨count, isCount, rfl⟩ := List.mem_map.mp isFresh
    obtain ⟨otherCount, settledAt, same⟩ := records.settled_of_labelOf? labelled
    have freshAt := Demand.getElem?_of_mem_freshCounts isCount
    rw [LabelSource.label_injective same, settledAt] at freshAt
    cases freshAt
  · rw [records.source, Demand.length_settleAll, count_fresh_allDemands]
    rfl
  · intro scope name
    rw [records.isSome_labelOf?_iff, Demand.mem_settleAll,
      LabelRequest.placeholders, Demand.mem_filterMap_placeholder?]
    simp
  · intro earlier scope term later split isOpen
    subst split
    have before := (records_ofStem stem).performAll earlier
    have opened :
        scope < ((ofStem stem).performAll earlier).2.scopes.length := by
      rw [length_scopes_performAll]
      exact Nat.lt_of_lt_of_le isOpen (Nat.le_add_left _ _)
    obtain ⟨known, answer⟩ := before.answer_localize opened term later
    obtain ⟨allAnswers, ends⟩ :=
      @performAll_append (ofStem stem) earlier (.localize scope term :: later)
    refine ⟨?_, ?_⟩
    · intro name member
      have labelled := known name member
      rwa [show last = _ from ends]
    · rw [show answers = _ from allAnswers, show last = _ from ends,
        List.getElem?_append_right (length_performAll earlier).le,
        length_performAll, Nat.sub_self]
      exact congrArg some answer
  · intro otherStem otherRequests text handsOut otherHandsOut
    obtain ⟨count, same⟩ := handsOut.eq_label
    obtain ⟨otherCount, otherSame⟩ := otherHandsOut.eq_label
    exact LabelSource.stem_eq_of_label_eq (same.symm.trans otherSame)

/-- A placeholder that two scopes share, of a source whose stem looks like a
label of another. -/
theorem performAll_twoScopes :
    let requests : List LabelRequest := [.openScope,
      .localize 0 (.list [.blank "x", .var "v", .blank "x"]), .freshLabel,
        .openScope,
      .localize 1 (.blank "x"), .localize 2 (.blank "x")]
    let last := ((ofStem "a_1").performAll requests).2
    ((ofStem "a_1").performAll requests).1 =
      [.opened 0, .localized (.list [.blank "a_1_0", .var "v", .blank "a_1_0"]),
        .freshLabel "a_1_1", .opened 1, .localized (.blank "a_1_2"), .noScope] ∧
    last.labelOf? 0 "x" = some "a_1_0" ∧ last.labelOf? 1 "x" ≠ some "a_1_0" ∧
      last.source.allocated = 3 ∧ ¬ HandsOut "a" requests "a_1_0" := by
  intro requests last
  obtain ⟨kept, apart, _, _, _, allocated, _, _, _⟩ :=
    performAll_collisionFree "a_1" requests
  obtain ⟨_, _, _, _, _, _, _, _, ofOneStem⟩ :=
    performAll_collisionFree "a" requests
  have first : last.labelOf? 0 "x" = some "a_1_0" :=
    kept (requests.take 2) (requests.drop 2)
      (List.take_append_drop 2 requests).symm 0 "x" "a_1_0" (by decide +kernel)
  have other : HandsOut "a_1" requests "a_1_0" := Or.inr ⟨0, "x", first⟩
  refine ⟨by decide +kernel, first, ?_, ?_, ?_⟩
  · intro second
    cases (apart 0 "x" 1 "x" "a_1_0" first second).1
  · rw [allocated]
    decide +kernel
  · intro handsOut
    exact absurd (ofOneStem "a_1" requests "a_1_0" handsOut other) (by decide)

end Allocation

end RdfTemplates
