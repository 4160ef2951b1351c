import RdfTemplates.Expansion.Engine

/-!
# Shape of rows

Binding gives one value to each parameter, and every row has one value for each
value that it is made from.
-/

namespace RdfTemplates

theorem length_of_bindValues {parameters : List Parameter}
    {arguments values : List Term}
    (bound : bindValues parameters arguments = some values) :
    values.length = parameters.length := by
  induction parameters generalizing arguments values with
  | nil =>
      simp only [bindValues, Option.some.injEq] at bound
      simp [← bound]
  | cons parameter parameters induction =>
      simp only [bindValues] at bound
      split at bound
      · cases bound
      · obtain ⟨rest, restBound, rfl⟩ := Option.map_eq_some_iff.mp bound
        simp [induction restBound]

theorem length_of_bindArguments {signature : Signature}
    {arguments values : List Term}
    (bound : bindArguments signature arguments = .ok (some values)) :
    values.length = signature.parameters.length := by
  unfold bindArguments at bound
  split at bound
  · simp only [Except.ok.injEq] at bound
    exact length_of_bindValues bound
  · cases bound

theorem Column.length_ofValues (parameters : List Parameter)
    (values : List Term) :
    (Column.ofValues parameters values).length = values.length := by
  induction parameters generalizing values with
  | nil => simp [Column.ofValues]
  | cons parameter parameters induction =>
      cases values with
      | nil => simp [Column.ofValues]
      | cons value values => simp [Column.ofValues, induction]

theorem length_of_mem_rowsAt {position : Nat} {columns : List Column}
    {row : List Term} (member : row ∈ rowsAt position columns) :
    row.length = columns.length := by
  induction columns generalizing row with
  | nil =>
      simp only [rowsAt, List.mem_singleton] at member
      simp [member]
  | cons column columns induction =>
      cases column with
      | fixed value =>
          obtain ⟨rest, restMember, rfl⟩ := List.mem_map.mp member
          simp [induction restMember]
      | zipped parameter modifier items =>
          obtain ⟨rest, restMember, rfl⟩ := List.mem_map.mp member
          simp [induction restMember]
      | crossed items =>
          obtain ⟨item, _, itemMember⟩ := List.mem_flatMap.mp member
          obtain ⟨rest, restMember, rfl⟩ := List.mem_map.mp itemMember
          simp [induction restMember]

theorem length_of_mem_expandRows {template : String}
    {parameters : List Parameter} {values row : List Term}
    {rows : List (List Term)}
    (expanded : expandRows template parameters values = .ok rows)
    (member : row ∈ rows) : row.length = values.length := by
  simp only [expandRows] at expanded
  split at expanded
  · cases expanded
    obtain ⟨position, _, atPosition⟩ := List.mem_flatMap.mp member
    rw [length_of_mem_rowsAt atPosition, Column.length_ofValues]
  · cases expanded

theorem Expansion.length_fillRow {parameters : List Parameter} {row : List Term}
    (lengths : row.length = parameters.length) :
    (fillRow parameters row).length = parameters.length := by
  simp [fillRow, lengths]

end RdfTemplates
