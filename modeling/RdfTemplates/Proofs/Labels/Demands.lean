import Mathlib.Data.Finset.Card
import RdfTemplates.Proofs.Labels.Renaming
import RdfTemplates.Proofs.Placeholders

/-!
# Demands for labels

A label is handed out for each fresh one that is asked for, and for each
placeholder when it is first met in its scope.  The count of a label is the
number of demands that were settled before its own, so that the list of settled
demands tells all there is to know of the labels.
-/

namespace RdfTemplates

/-! ## Demands -/

/-- What a label may be handed out for. -/
inductive Demand where
  /-- A fresh label is asked for. -/
  | fresh
  /-- A placeholder is met in a scope. -/
  | placeholder (scope : Nat) (name : String)
  deriving DecidableEq

namespace Demand

/-- The placeholder that is met, with its scope. -/
def placeholder? : Demand → Option (Nat × String)
  | .fresh => none
  | .placeholder scope name => some (scope, name)

/-- The demands that have been given labels, in order.  A placeholder that has
been met before in its scope is given no other one. -/
def settle (settled : List Demand) (demand : Demand) : List Demand :=
  if demand ≠ .fresh ∧ demand ∈ settled then settled else settled ++ [demand]

def settleAll (settled demands : List Demand) : List Demand :=
  demands.foldl settle settled

/-- The counts of the labels that are given to those who ask for fresh ones. -/
def freshCounts (settled : List Demand) : List Nat :=
  (settled.zipIdx.filter (·.1 = .fresh)).map Prod.snd

section Settling

variable {settled demands : List Demand} {demand : Demand}

@[simp] theorem settle_fresh : settle settled .fresh = settled ++ [.fresh] := by
  simp [settle]

theorem settle_of_mem {scope : Nat} {name : String}
    (met : .placeholder scope name ∈ settled) :
    settle settled (.placeholder scope name) = settled := by
  simp [settle, met]

theorem settle_of_not_mem (new : demand ∉ settled) :
    settle settled demand = settled ++ [demand] := by
  simp [settle, new]

theorem prefix_settle : settled <+: settle settled demand := by
  unfold settle
  split
  · exact List.prefix_rfl
  · exact List.prefix_append settled [demand]

theorem prefix_settleAll : settled <+: settleAll settled demands := by
  induction demands generalizing settled with
  | nil => exact List.prefix_rfl
  | cons demand demands induction => exact prefix_settle.trans induction

theorem mem_settle {other : Demand} :
    other ∈ settle settled demand ↔ other ∈ settled ∨ other = demand := by
  by_cases kept : demand ≠ .fresh ∧ demand ∈ settled
  · rw [settle, if_pos kept]
    constructor
    · exact Or.inl
    · intro either
      rcases either with member | rfl
      · exact member
      · exact kept.2
  · rw [settle, if_neg kept]
    simp

theorem mem_settleAll {other : Demand} :
    other ∈ settleAll settled demands ↔ other ∈ settled ∨ other ∈ demands := by
  induction demands generalizing settled with
  | nil => simp [settleAll]
  | cons demand demands induction =>
      have rest : other ∈ settleAll (settle settled demand) demands ↔ _ :=
        induction
      rw [settleAll, List.foldl_cons, ← settleAll, rest, mem_settle,
        List.mem_cons, or_assoc]

theorem mem_filterMap_placeholder? {scope : Nat} {name : String} :
    (scope, name) ∈ demands.filterMap placeholder? ↔
      .placeholder scope name ∈ demands := by
  rw [List.mem_filterMap]
  constructor
  · intro met
    obtain ⟨demand, member, isPair⟩ := met
    cases demand with
    | fresh => cases isPair
    | placeholder other otherName =>
        cases isPair
        exact member
  · intro member
    exact ⟨_, member, rfl⟩

/-- All demands for fresh labels are settled, and each placeholder once. -/
theorem length_settleAll (demands : List Demand) :
    (settleAll [] demands).length =
      demands.count .fresh +
        (demands.filterMap placeholder?).toFinset.card := by
  induction demands using List.reverseRecOn with
  | nil => rfl
  | append_singleton demands demand induction =>
      have last : settleAll [] (demands ++ [demand]) =
          settle (settleAll [] demands) demand := by
        simp [settleAll]
      rw [last, List.filterMap_append, List.toFinset_append, List.count_append]
      cases demand with
      | fresh =>
          have noPair : [fresh].filterMap placeholder? = [] := rfl
          have once : [fresh].count fresh = 1 := rfl
          rw [settle_fresh, List.length_append, induction, noPair, once,
            List.toFinset_nil, Finset.union_empty, List.length_singleton]
          omega
      | placeholder scope name =>
          have isPair : [placeholder scope name].filterMap placeholder? =
              [(scope, name)] := rfl
          have notFresh : [placeholder scope name].count fresh = 0 := rfl
          have settledIff : .placeholder scope name ∈ settleAll [] demands ↔
              (scope, name) ∈ (demands.filterMap placeholder?).toFinset := by
            rw [mem_settleAll, List.mem_toFinset, mem_filterMap_placeholder?]
            simp
          rw [isPair, notFresh]
          by_cases met : .placeholder scope name ∈ settleAll [] demands
          · have known := List.mem_toFinset.mp (settledIff.mp met)
            rw [settle_of_mem met, induction]
            simp [known]
          · have unknown := mt settledIff.mpr met
            rw [settle_of_not_mem met, List.length_append, induction]
            simp [Finset.card_insert_of_notMem unknown]
            omega

/-! ## Counts -/

theorem idxOf?_append_of_mem {more : List Demand} (member : demand ∈ settled) :
    (settled ++ more).idxOf? demand = settled.idxOf? demand := by
  obtain ⟨count, found⟩ :=
    Option.isSome_iff_exists.mp (List.isSome_idxOf?.mpr member)
  rw [List.idxOf?, List.findIdx?_append, ← List.idxOf?, found]
  rfl

theorem idxOf?_append_self (new : demand ∉ settled) :
    (settled ++ [demand]).idxOf? demand = some settled.length := by
  rw [List.idxOf?, List.findIdx?_append, ← List.idxOf?,
    List.idxOf?_eq_none_iff.mpr new]
  simp

theorem idxOf?_append_other {other : Demand} (different : demand ≠ other) :
    (settled ++ [other]).idxOf? demand = settled.idxOf? demand := by
  rw [List.idxOf?, List.findIdx?_append, ← List.idxOf?]
  simp [Ne.symm different]

theorem idxOf?_settle_other {other : Demand} (different : demand ≠ other) :
    (settle settled other).idxOf? demand = settled.idxOf? demand := by
  unfold settle
  split
  · rfl
  · exact idxOf?_append_other different

theorem idxOf?_settleAll_other (apart : ∀ other ∈ demands, demand ≠ other) :
    (settleAll settled demands).idxOf? demand = settled.idxOf? demand := by
  induction demands generalizing settled with
  | nil => rfl
  | cons other demands induction =>
      obtain ⟨different, rest⟩ := List.forall_mem_cons.mp apart
      have later : (settleAll (settle settled other) demands).idxOf? demand =
          _ := induction rest
      rw [settleAll, List.foldl_cons, ← settleAll, later,
        idxOf?_settle_other different]

theorem getElem?_of_idxOf? {count : Nat}
    (found : settled.idxOf? demand = some count) :
    settled[count]? = some demand := by
  obtain ⟨bound, same, _⟩ := List.idxOf?_eq_some_iff.mp found
  rw [List.getElem?_eq_getElem bound, same]

/-- A demand keeps its count whatever is demanded later. -/
theorem idxOf?_of_prefix {later : List Demand} {count : Nat}
    (grown : settled <+: later) (found : settled.idxOf? demand = some count) :
    later.idxOf? demand = some count := by
  obtain ⟨more, rfl⟩ := grown
  have member : demand ∈ settled := List.isSome_idxOf?.mp (by simp [found])
  rw [idxOf?_append_of_mem member, found]

theorem getElem?_of_mem_freshCounts {count : Nat}
    (member : count ∈ freshCounts settled) : settled[count]? = some .fresh := by
  obtain ⟨⟨demand, position⟩, kept, rfl⟩ := List.mem_map.mp member
  obtain ⟨inside, isFresh⟩ := List.mem_filter.mp kept
  have found := List.mem_zipIdx_iff_getElem?.mp inside
  simp only [decide_eq_true_eq] at isFresh
  rw [found, isFresh]

theorem nodup_freshCounts (settled : List Demand) :
    (freshCounts settled).Nodup := by
  have sublist : (freshCounts settled).Sublist (settled.zipIdx.map Prod.snd) :=
    List.filter_sublist.map Prod.snd
  rw [List.zipIdx_map_snd] at sublist
  have distinct : (List.range' 0 settled.length).Nodup := List.nodup_range'
  exact distinct.sublist sublist

theorem freshCounts_fresh :
    freshCounts (settled ++ [.fresh]) =
      freshCounts settled ++ [settled.length] := by
  simp [freshCounts, List.zipIdx_append]

theorem freshCounts_settle_placeholder (scope : Nat) (name : String) :
    freshCounts (settle settled (.placeholder scope name)) =
      freshCounts settled := by
  by_cases met : .placeholder scope name ∈ settled
  · rw [settle_of_mem met]
  · rw [settle_of_not_mem met]
    simp [freshCounts, List.zipIdx_append]

theorem length_freshCounts_settleAll (demands : List Demand) :
    (freshCounts (settleAll settled demands)).length =
      (freshCounts settled).length + demands.count .fresh := by
  induction demands generalizing settled with
  | nil => rfl
  | cons demand demands induction =>
      have rest :
          (freshCounts (settleAll (settle settled demand) demands)).length =
            _ := induction
      rw [settleAll, List.foldl_cons, ← settleAll, rest]
      cases demand with
      | fresh =>
          rw [settle_fresh, freshCounts_fresh, List.length_append,
            List.length_singleton, List.count_cons_self]
          omega
      | placeholder scope name =>
          rw [freshCounts_settle_placeholder, List.count_cons_of_ne (by simp)]

end Settling

end Demand

/-! ## Stems -/

namespace LabelSource

/-- What stands before the last underscore of a text. -/
def stemOf (text : String) : String :=
  String.ofList ((text.toList.reverse.dropWhile (· != '_')).drop 1).reverse

theorem stemOf_label (stem : String) (count : Nat) :
    stemOf (label stem count) = stem := by
  have split : (label stem count).toList.reverse =
      (Nat.toDigits 10 count).reverse ++ '_' :: stem.toList.reverse := by
    simp [label, Nat.repr]
  have digits :
      ∀ char ∈ (Nat.toDigits 10 count).reverse, (char != '_') = true := by
    intro char member
    have isDigit := Nat.isDigit_of_mem_toDigits (by decide) (by decide)
      (List.mem_reverse.mp member)
    rw [bne_iff_ne]
    rintro rfl
    cases isDigit
  rw [stemOf, split, List.dropWhile_append_of_pos digits]
  simp

/-- Labels of sources with different stems are different, whatever the stems
look like. -/
theorem stem_eq_of_label_eq {stem other : String} {count otherCount : Nat}
    (same : label stem count = label other otherCount) : stem = other := by
  have stems := congrArg stemOf same
  rwa [stemOf_label, stemOf_label] at stems

end LabelSource

/-! ## One scope -/

namespace Placeholders

open Demand (settle settleAll)
open LabelSource (label)

/-- The placeholders of a scope have the labels that the settled demands give
them, and as many labels have been handed out as demands have been settled. -/
structure Records (placeholders : Placeholders) (source : LabelSource)
    (stem : String) (scope : Nat) (settled : List Demand) : Prop where
  source : source = ⟨stem, settled.length⟩
  labels : ∀ name, placeholders.labels.lookup name =
    (settled.idxOf? (.placeholder scope name)).map (label stem)

variable {placeholders : Placeholders} {source : LabelSource} {stem : String}
  {scope : Nat} {settled : List Demand}

theorem Records.labelFor
    (records : placeholders.Records source stem scope settled) (name : String) :
    (placeholders.labelFor source name).2.1.Records
      (placeholders.labelFor source name).2.2 stem
      scope (settle settled (.placeholder scope name)) := by
  by_cases met : .placeholder scope name ∈ settled
  · obtain ⟨count, found⟩ :=
      Option.isSome_iff_exists.mp (List.isSome_idxOf?.mpr met)
    have labelled :
        placeholders.labels.lookup name = some (label stem count) := by
      rw [records.labels, found, Option.map_some]
    rw [labelFor_of_lookup labelled, Demand.settle_of_mem met]
    exact records
  · have unmet : placeholders.labels.lookup name = none := by
      rw [records.labels, List.idxOf?_eq_none_iff.mpr met, Option.map_none]
    rw [Demand.settle_of_not_mem met]
    simp only [Placeholders.labelFor, unmet, LabelSource.fresh, records.source]
    constructor
    · simp
    · intro other
      by_cases same : other = name
      · subst same
        rw [Demand.idxOf?_append_self met]
        simp
      · have different : (other == name) = false := beq_false_of_ne same
        have apart :
            Demand.placeholder scope other ≠ .placeholder scope name := by
          simpa using same
        rw [Demand.idxOf?_append_other apart, List.lookup_cons, different]
        exact records.labels other

mutual

/-- Localization settles the demands of the blank nodes of a term, depth
first. -/
theorem Records.localize {placeholders : Placeholders} {source : LabelSource}
    {settled : List Demand}
    (records : placeholders.Records source stem scope settled) :
    ∀ term : Term, (placeholders.localize source term).2.1.Records
      (placeholders.localize source term).2.2 stem scope
      (settleAll settled (term.blankNames.map (.placeholder scope)))
  | .blank name => records.labelFor name
  | .list items => records.localizeList items
  | .iri _ | .literal _ | .var _ | .none => records

theorem Records.localizeList {placeholders : Placeholders}
    {source : LabelSource} {settled : List Demand}
    (records : placeholders.Records source stem scope settled) :
    ∀ items : List Term, (placeholders.localizeList source items).2.1.Records
      (placeholders.localizeList source items).2.2 stem scope
      (settleAll settled ((Term.listBlankNames items).map (.placeholder scope)))
  | [] => records
  | item :: items => by
      have rest := (records.localize item).localizeList items
      simp only [Term.listBlankNames, List.map_append, settleAll,
        List.foldl_append]
      exact rest

end

mutual

/-- Localization renames the blank nodes of a term to labels that are known from
then on, and leaves everything else as it is. -/
theorem localize_eq_relabel {placeholders : Placeholders} {source : LabelSource}
    {labels : String → Option String} :
    ∀ term, (∀ name text,
      (placeholders.localize source term).2.1.labels.lookup name = some text →
        labels name = some text) →
      (placeholders.localize source term).1 =
        term.relabel (fun name => (labels name).getD name) ∧
        ∀ name ∈ term.blankNames, (labels name).isSome = true
  | .blank name, known => by
      have found := known _ _ (lookup_labelFor placeholders source name)
      simp only [localize, Term.relabel, Term.blankNames,
        List.forall_mem_singleton, found]
      exact ⟨rfl, rfl⟩
  | .list items, known => by
      obtain ⟨renamed, allKnown⟩ := localizeList_eq_relabelList items known
      simp only [localize, Term.relabel, renamed]
      exact ⟨trivial, allKnown⟩
  | .iri _, _ | .literal _, _ | .var _, _ | .none, _ =>
      ⟨rfl, List.forall_mem_nil _⟩

theorem localizeList_eq_relabelList {placeholders : Placeholders}
    {source : LabelSource} {labels : String → Option String} :
    ∀ items, (∀ name text,
      (placeholders.localizeList source items).2.1.labels.lookup name =
        some text → labels name = some text) →
      (placeholders.localizeList source items).1 =
        Term.relabelList (fun name => (labels name).getD name) items ∧
        ∀ name ∈ Term.listBlankNames items, (labels name).isSome = true
  | [], _ => ⟨rfl, List.forall_mem_nil _⟩
  | item :: items, known => by
      have kept := keptIn_localizeList (placeholders.localize source item).2.1
        (placeholders.localize source item).2.2 items
      obtain ⟨itemRenamed, itemKnown⟩ :=
        localize_eq_relabel item fun name text found =>
        known name text (kept name text found)
      obtain ⟨itemsRenamed, itemsKnown⟩ :=
        localizeList_eq_relabelList items known
      simp only [localizeList, Term.relabelList, Term.listBlankNames,
        itemRenamed, itemsRenamed]
      exact ⟨trivial, List.forall_mem_append.mpr ⟨itemKnown, itemsKnown⟩⟩

end

end Placeholders

end RdfTemplates
