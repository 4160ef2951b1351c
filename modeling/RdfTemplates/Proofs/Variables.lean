import RdfTemplates.BlankNode
import RdfTemplates.Term.Substitution

/-!
# Variables of body terms

Localization leaves the variables of a term alone.  Substitution fails at the
first of them without a value, and otherwise leaves no variables but those of
the values.  A term without variables is ground.
-/

namespace RdfTemplates

namespace Placeholders

mutual

theorem variableNames_localize (placeholders : Placeholders)
    (source : LabelSource) :
    ∀ term, (placeholders.localize source term).1.variableNames =
      term.variableNames
  | .blank _ => rfl
  | .list items => variableNames_localizeList placeholders source items
  | .iri _ | .literal _ | .var _ | .none => rfl

theorem variableNames_localizeList (placeholders : Placeholders)
    (source : LabelSource) :
    ∀ items, Term.listVariableNames (placeholders.localizeList source items).1 =
      Term.listVariableNames items
  | [] => rfl
  | item :: items => by
      simp only [localizeList, Term.listVariableNames]
      rw [variableNames_localize placeholders source item,
        variableNames_localizeList _ _ items]

end

end Placeholders

namespace Term

variable {lookup : String → Option Term}

mutual

/-- Substitution fails at the first variable, depth first, that has no value. -/
theorem substitute_eq_error_iff {name : String} : ∀ term : Term,
    term.substitute lookup = .error name ↔
      term.variableNames.find? (fun name => (lookup name).isNone) = some name
  | .var other => by
      cases found : lookup other <;> simp [substitute, variableNames, found]
  | .list items => by
      simp only [substitute, variableNames]
      rw [← substituteList_eq_error_iff items]
      cases substituteList lookup items <;> simp
  | .iri _ | .literal _ | .blank _ | .none =>
      by simp [substitute, variableNames]

theorem substituteList_eq_error_iff {name : String} :
    ∀ items : List Term, substituteList lookup items = .error name ↔
      (listVariableNames items).find? (fun name => (lookup name).isNone) =
        some name
  | [] => by simp [substituteList, listVariableNames]
  | item :: items => by
      simp only [substituteList, listVariableNames, List.find?_append]
      cases replaced : item.substitute lookup with
      | error first =>
          have found := (substitute_eq_error_iff item).mp replaced
          simp [found]
      | ok value =>
          have absent :
              item.variableNames.find? (fun name => (lookup name).isNone) =
                Option.none := by
            cases found :
              item.variableNames.find? (fun name => (lookup name).isNone) with
            | none => rfl
            | some first =>
                rw [(substitute_eq_error_iff item).mpr found] at replaced
                cases replaced
          rw [absent, Option.none_or, ← substituteList_eq_error_iff items]
          cases substituteList lookup items <;> simp

end

theorem unbound_of_substitute {term : Term} {name : String}
    (failed : term.substitute lookup = .error name) :
    name ∈ term.variableNames ∧ lookup name = Option.none := by
  have found := (substitute_eq_error_iff term).mp failed
  have unbound := List.find?_some found
  exact ⟨List.mem_of_find?_eq_some found, Option.isNone_iff_eq_none.mp unbound⟩

mutual

/-- The variables that substitution leaves are those of values put in. -/
theorem mem_variableNames_of_substitute {name : String} :
    ∀ {term value : Term}, term.substitute lookup = .ok value →
      name ∈ value.variableNames →
      ∃ replaced bound, lookup replaced = some bound ∧
        name ∈ bound.variableNames
  | .var replaced, value, done, occurs => by
      simp only [substitute] at done
      split at done
      · rename_i found
        cases done
        exact ⟨replaced, value, found, occurs⟩
      · cases done
  | .list items, value, done, occurs => by
      simp only [substitute] at done
      split at done
      · rename_i values itemsDone
        cases done
        exact mem_listVariableNames_of_substitute itemsDone occurs
      · cases done
  | .iri _, _, .refl _, occurs | .literal _, _, .refl _, occurs | .blank _, _,
      .refl _, occurs
  | .none, _, .refl _, occurs => by cases occurs

theorem mem_listVariableNames_of_substitute {name : String} :
    ∀ {items values : List Term}, substituteList lookup items = .ok values →
      name ∈ listVariableNames values →
      ∃ replaced bound, lookup replaced = some bound ∧
        name ∈ bound.variableNames
  | [], _, .refl _, occurs => by cases occurs
  | item :: items, values, done, occurs => by
      simp only [substituteList] at done
      split at done
      · cases done
      · rename_i head headDone
        split at done
        · rename_i tail tailDone
          cases done
          rcases List.mem_append.mp occurs with inHead | inTail
          · exact mem_variableNames_of_substitute headDone inHead
          · exact mem_listVariableNames_of_substitute tailDone inTail
        · cases done

end

theorem mem_listVariableNames {name : String} {items : List Term} :
    name ∈ listVariableNames items ↔
      ∃ item ∈ items, name ∈ item.variableNames := by
  induction items with
  | nil => simp [listVariableNames]
  | cons item items induction => simp [listVariableNames, induction]

mutual

theorem firstVariable?_eq_head? :
    ∀ term : Term, term.firstVariable? = term.variableNames.head?
  | .var _ => rfl
  | .list items => firstVariableIn?_eq_head? items
  | .iri _ | .literal _ | .blank _ | .none => rfl

theorem firstVariableIn?_eq_head? :
    ∀ items : List Term, firstVariableIn? items =
      (listVariableNames items).head?
  | [] => rfl
  | item :: items => by
      simp only [firstVariableIn?, listVariableNames, List.head?_append]
      rw [firstVariable?_eq_head? item, firstVariableIn?_eq_head? items]
      cases item.variableNames.head? <;> rfl

end

mutual

theorem isGround_iff :
    ∀ term : Term, term.isGround = true ↔ term.variableNames = []
  | .var _ => by simp [isGround, variableNames]
  | .list items => areGround_iff items
  | .iri _ | .literal _ | .blank _ | .none => by simp [isGround, variableNames]

theorem areGround_iff :
    ∀ items : List Term, areGround items = true ↔ listVariableNames items = []
  | [] => by simp [areGround, listVariableNames]
  | item :: items => by
      simp [areGround, listVariableNames, isGround_iff item,
        areGround_iff items]

end

end Term

end RdfTemplates
