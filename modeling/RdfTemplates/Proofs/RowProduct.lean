import Mathlib.Algebra.BigOperators.Group.List.Lemmas
import RdfTemplates.Proofs.Rows

/-!
# Rows as a product

The rows of an instance have a closed form.  There is one row for each position
of the zipped lists and each choice from the crossed ones, and the rows are in
the order of positions first.  The choices are counted in a mixed radix: each
crossed list has a digit, its base is the length of the list, and the first list
has the most significant one.
-/

namespace RdfTemplates

/-! ## Zipped and crossed lists -/

/-- The value of a parameter as a list to be zipped. -/
def zippedMember? (parameter : Parameter) (value : Term) : Option ZipMember :=
  match parameter.modifier, value with
  | some modifier, .list items =>
      if modifier.isZip then
        some { parameter := parameter.name, modifier, length := items.length }
      else none
  | _, _ => none

/-- The length of the value of a parameter as a list to be crossed. -/
def crossedLength? (parameter : Parameter) (value : Term) : Option Nat :=
  match parameter.modifier, value with
  | some .cross, .list items => some items.length
  | _, _ => none

/-- The lists that are zipped, in order. -/
def zippedMembers (parameters : List Parameter) (values : List Term) :
    List ZipMember :=
  (parameters.zip values).filterMap
    fun (parameter, value) => zippedMember? parameter value

/-- The number of choices of one item from each crossed list. -/
def crossedChoices (parameters : List Parameter) (values : List Term) : Nat :=
  ((parameters.zip values).filterMap fun (parameter, value) =>
    crossedLength? parameter value).prod

/-- The number of positions of lists that are zipped: the longest list decides
if one of them is to be filled up, else the shortest one. -/
def zippedPositions (members : List ZipMember) : Nat :=
  let lengths := members.map (·.length)
  (if members.any (·.modifier = .zipMax) then lengths.max?
    else lengths.min?).getD 1

/-- Lists of different lengths cannot be zipped if one of them has to be
strictly. -/
structure Unzippable (members : List ZipMember) : Prop where
  uneven : ∃ left ∈ members, ∃ right ∈ members, left.length ≠ right.length
  strict : ∃ member ∈ members, member.modifier = .zip

instance (members : List ZipMember) : Decidable (Unzippable members) :=
  decidable_of_iff
    ((∃ left ∈ members, ∃ right ∈ members, left.length ≠ right.length) ∧
      ∃ member ∈ members, member.modifier = .zip)
    ⟨fun both => ⟨both.1, both.2⟩,
      fun unzippable => ⟨unzippable.uneven, unzippable.strict⟩⟩

/-- The row for a position of the zipped lists and a choice from the crossed
ones. -/
structure IsProductRow (parameters : List Parameter) (values : List Term)
    (position choice : Nat) (row : List Term) : Prop where
  length : row.length = values.length
  zipped : ∀ {index : Nat} {parameter : Parameter} {modifier : Modifier}
    {items : List Term}, parameters[index]? = some parameter →
      values[index]? = some (.list items) → parameter.modifier = some modifier →
      modifier.isZip = true → row[index]? = some (items.getD position .none)
  /-- The digit of a list is found by leaving out the digits of all later
  lists. -/
  crossed : ∀ {index : Nat} {parameter : Parameter} {items : List Term},
    parameters[index]? = some parameter → values[index]? = some (.list items) →
      parameter.modifier = some .cross →
      row[index]? = items[choice /
        crossedChoices (parameters.drop (index + 1)) (values.drop (index + 1)) %
        items.length]?
  kept : ∀ {index : Nat} {value : Term}, values[index]? = some value →
    (∀ parameter, parameters[index]? = some parameter →
      parameter.modifier = none ∨ value.items? = none) →
        row[index]? = some value

/-! ## Columns -/

namespace Column

/-- The number of choices that a column offers. -/
def width : Column → Nat
  | .crossed items => items.length
  | .fixed _ | .zipped .. => 1

/-- The item of a column for a position of the zipped lists and a digit of its
own. -/
def item (position digit : Nat) : Column → Term
  | .fixed value => value
  | .zipped _ _ items => items.getD position .none
  | .crossed items => items.getD digit .none

/-- The number of choices that some columns offer together. -/
def choices (columns : List Column) : Nat :=
  (columns.map width).prod

theorem choices_cons (column : Column) (columns : List Column) :
    choices (column :: columns) = column.width * choices columns := by
  simp [choices]

/-- The row for a position of the zipped lists and a choice from the crossed
ones. -/
def productRow (position choice : Nat) : List Column → List Term
  | [] => []
  | column :: columns =>
      column.item position (choice / choices columns % column.width) ::
        productRow position choice columns

theorem length_productRow (position choice : Nat) (columns : List Column) :
    (productRow position choice columns).length = columns.length := by
  induction columns with
  | nil => rfl
  | cons column columns induction => simp [productRow, induction]

theorem getElem?_productRow (position choice : Nat) (columns : List Column)
    (index : Nat) :
    (productRow position choice columns)[index]? =
      columns[index]?.map fun column =>
        column.item position
          (choice / choices (columns.drop (index + 1)) % column.width) := by
  induction columns generalizing index with
  | nil => rfl
  | cons column columns induction =>
      cases index with
      | zero => rfl
      | succ index => exact induction index

/-- The digits of the later columns do not depend on the earlier ones. -/
theorem productRow_mod (position choice : Nat) (columns : List Column) :
    productRow position (choice % choices columns) columns =
      productRow position choice columns := by
  induction columns generalizing choice with
  | nil => rfl
  | cons column columns induction =>
      have sameDigit : choice % (column.width * choices columns) /
          choices columns % column.width =
          choice / choices columns % column.width := by
        rw [Nat.mod_mul_left_div_self, Nat.mod_mod]
      have sameChoice :
          choice % (column.width * choices columns) % choices columns =
            choice % choices columns :=
        Nat.mod_mod_of_dvd choice (Nat.dvd_mul_left _ _)
      rw [choices_cons, productRow, productRow, sameDigit, ← induction,
        sameChoice, induction]

end Column

/-! ## Rows of columns -/

/-- The line and the column of a number in a table that is read line by line. -/
theorem div_and_mod_number {width column : Nat} (within : column < width)
    (line : Nat) :
    (line * width + column) / width = line ∧
      (line * width + column) % width = column := by
  have positive : 0 < width := by omega
  constructor
  · rw [Nat.mul_comm, Nat.mul_add_div positive, Nat.div_eq_of_lt within,
      Nat.add_zero]
  · rw [Nat.mul_comm, Nat.mul_add_mod, Nat.mod_eq_of_lt within]

theorem flatMap_range_map {α : Type} (f : Nat → Nat → α) (height width : Nat) :
    (List.range height).flatMap (fun line => (List.range width).map (f line)) =
      (List.range (height * width)).map fun number =>
        f (number / width) (number % width) := by
  induction height with
  | zero => simp
  | succ height induction =>
      have lastLine : (List.range width).map (f height) =
          ((List.range width).map (height * width + ·)).map
            fun number => f (number / width) (number % width) := by
        rw [List.map_map]
        apply List.map_congr_left
        intro column member
        obtain ⟨isLine, isColumn⟩ :=
          div_and_mod_number (List.mem_range.mp member) height
        rw [Function.comp_apply, isLine, isColumn]
      rw [List.range_succ, List.flatMap_append, induction,
        List.flatMap_singleton, Nat.succ_mul,
        List.range_add, List.map_append, lastLine]

theorem flatMap_eq_range {β : Type} (items : List Term) (f : Term → List β) :
    items.flatMap f =
      (List.range items.length).flatMap fun i => f (items.getD i .none) := by
  have indexed :
      (List.range items.length).map (items.getD · .none) = items := by
    apply List.ext_getElem
    · simp
    · intro i _ within
      simp [within]
  conv => lhs; rw [← indexed]
  rw [List.flatMap_map]

theorem rowsAt_eq (position : Nat) (columns : List Column) :
    rowsAt position columns =
      (List.range (Column.choices columns)).map
        (Column.productRow position · columns) := by
  induction columns with
  | nil => rfl
  | cons column columns induction =>
      rw [Column.choices_cons]
      cases column with
      | fixed value =>
          simp [rowsAt, induction, Column.width, Column.productRow, Column.item,
            Function.comp_def]
      | zipped parameter modifier items =>
          simp [rowsAt, induction, Column.width, Column.productRow, Column.item,
            Function.comp_def]
      | crossed items =>
          rw [rowsAt, flatMap_eq_range]
          simp only [induction, List.map_map]
          rw [Column.width]
          refine (flatMap_range_map (fun i j =>
            items.getD i .none :: Column.productRow position j columns)
            items.length (Column.choices columns)).trans
            ?_
          apply List.map_congr_left
          intro choice member
          have within : choice / Column.choices columns < items.length :=
            Nat.div_lt_of_lt_mul (Nat.mul_comm _ _ ▸ List.mem_range.mp member)
          rw [Column.productRow, Column.item, Column.width,
            Nat.mod_eq_of_lt within, Column.productRow_mod]

/-! ## Columns of values -/

namespace Column

theorem ofValues_nil (values : List Term) :
    ofValues [] values = values.map .fixed := by
  cases values <;> rfl

theorem drop_ofValues (parameters : List Parameter) (values : List Term)
    (count : Nat) :
    (ofValues parameters values).drop count =
      ofValues (parameters.drop count) (values.drop count) := by
  induction parameters generalizing values count with
  | nil => rw [ofValues_nil, List.drop_nil, ofValues_nil, List.map_drop]
  | cons parameter parameters induction =>
      cases values with
      | nil => cases count <;> simp [ofValues]
      | cons value values =>
          cases count with
          | zero => rfl
          | succ count => exact induction values count

theorem getElem?_ofValues (parameters : List Parameter) (values : List Term)
    (index : Nat) :
    (ofValues parameters values)[index]? = values[index]?.map fun value =>
        (parameters[index]?.map (ofValue · value)).getD (.fixed value) := by
  induction parameters generalizing values index with
  | nil => simp [ofValues_nil]
  | cons parameter parameters induction =>
      cases values with
      | nil => rfl
      | cons value values =>
          cases index with
          | zero => rfl
          | succ index => exact induction values index

theorem zipMembers_ofValues (parameters : List Parameter) (values : List Term) :
    zipMembers (ofValues parameters values) =
      zippedMembers parameters values := by
  induction parameters generalizing values with
  | nil => simp [ofValues_nil, zipMembers, zippedMembers]
  | cons parameter parameters induction =>
      cases values with
      | nil => rfl
      | cons value values =>
          have rest := induction values
          simp only [zipMembers, zippedMembers] at rest ⊢
          rw [ofValues, List.zip_cons_cons, List.filterMap_cons,
            List.filterMap_cons, rest]
          cases modified : parameter.modifier with
          | none => cases value <;> simp [ofValue, zippedMember?, modified]
          | some modifier =>
              cases modifier <;> cases value <;>
                simp [ofValue, zippedMember?, modified, Modifier.isZip]

theorem choices_ofValues (parameters : List Parameter) (values : List Term) :
    choices (ofValues parameters values) =
      crossedChoices parameters values := by
  induction parameters generalizing values with
  | nil =>
      have widths :
          values.map (width ∘ fixed) = List.replicate values.length 1 :=
        List.map_const'
      simp [ofValues_nil, choices, crossedChoices, widths]
  | cons parameter parameters induction =>
      cases values with
      | nil => rfl
      | cons value values =>
          have rest := induction values
          simp only [crossedChoices] at rest ⊢
          rw [ofValues, choices_cons, rest, List.zip_cons_cons,
            List.filterMap_cons]
          cases modified : parameter.modifier with
          | none =>
              cases value <;> simp [ofValue, crossedLength?, modified, width]
          | some modifier =>
              cases modifier <;> cases value <;>
                simp [ofValue, crossedLength?, modified, width]

theorem ofValue_eq_fixed {parameter : Parameter} {value : Term}
    (unspread : parameter.modifier = none ∨ value.items? = none) :
    ofValue parameter value = .fixed value := by
  cases value with
  | list items =>
      have unmodified : parameter.modifier = none := by
        simpa [Term.items?] using unspread
      simp [ofValue, unmodified]
  | iri | literal | blank | var | none => rfl

theorem width_dvd_choices {columns : List Column} {index : Nat}
    {column : Column} (found : columns[index]? = some column) :
    column.width ∣ choices columns :=
  List.dvd_prod (List.mem_map_of_mem (List.mem_of_getElem? found))

end Column

theorem isProductRow_productRow {parameters : List Parameter}
    {values : List Term} {choice : Nat}
    (within : choice < crossedChoices parameters values) (position : Nat) :
    IsProductRow parameters values position choice (Column.productRow position
      choice (Column.ofValues parameters values)) where
  length := by rw [Column.length_productRow, Column.length_ofValues]
  zipped := by
    intro index parameter modifier items declared given modified isZip
    rw [Column.getElem?_productRow, Column.getElem?_ofValues, given, declared]
    cases modifier with
    | cross => cases isZip
    | zip | zipMin | zipMax => simp [Column.ofValue, modified, Column.item]
  crossed := by
    intro index parameter items declared given modified
    have found : (Column.ofValues parameters values)[index]? =
        some (.crossed items) := by
      rw [Column.getElem?_ofValues, given, declared]
      simp [Column.ofValue, modified]
    -- An empty list would leave no choice at all.
    have positive : 0 < items.length := by
      have divides := Column.width_dvd_choices found
      rw [Column.choices_ofValues] at divides
      exact Nat.pos_of_dvd_of_pos divides (Nat.zero_lt_of_lt within)
    rw [Column.getElem?_productRow, found, Column.drop_ofValues,
      Column.choices_ofValues]
    have inList := Nat.mod_lt (choice /
      crossedChoices (parameters.drop (index + 1)) (values.drop (index + 1)))
      positive
    simp [Column.item, Column.width, inList]
  kept := by
    intro index value given unspread
    rw [Column.getElem?_productRow, Column.getElem?_ofValues, given]
    cases declared : parameters[index]? with
    | none => simp [Column.item]
    | some parameter =>
        simp [Column.ofValue_eq_fixed (unspread parameter declared),
          Column.item]

/-! ## Positions -/

section Lengths

variable (first : ZipMember) (rest : List ZipMember)

theorem min?_lengths : ((first :: rest).map (·.length)).min? =
    some ((rest.map (·.length)).foldl min first.length) :=
  List.min?_cons'

theorem max?_lengths : ((first :: rest).map (·.length)).max? =
    some ((rest.map (·.length)).foldl max first.length) :=
  List.max?_cons'

/-- Lists have different lengths if the shortest and the longest of them
have. -/
theorem uneven_iff :
    (∃ left ∈ first :: rest, ∃ right ∈ first :: rest, left.length ≠
      right.length) ↔
      (rest.map (·.length)).foldl min first.length ≠
        (rest.map (·.length)).foldl max first.length := by
  obtain ⟨shortestMember, least⟩ :=
    List.min?_eq_some_iff.mp (min?_lengths first rest)
  obtain ⟨longestMember, greatest⟩ :=
    List.max?_eq_some_iff.mp (max?_lengths first rest)
  constructor
  · intro uneven
    obtain ⟨left, leftMember, right, rightMember, different⟩ := uneven
    have leftLength := List.mem_map_of_mem (f := ZipMember.length) leftMember
    have rightLength := List.mem_map_of_mem (f := ZipMember.length) rightMember
    have leftLeast := least _ leftLength
    have leftGreatest := greatest _ leftLength
    have rightLeast := least _ rightLength
    have rightGreatest := greatest _ rightLength
    omega
  · intro different
    obtain ⟨left, leftMember, isShortest⟩ := List.mem_map.mp shortestMember
    obtain ⟨right, rightMember, isLongest⟩ := List.mem_map.mp longestMember
    refine ⟨left, leftMember, right, rightMember, ?_⟩
    rw [isShortest, isLongest]
    exact different

end Lengths

theorem zipLength_eq_error {members : List ZipMember}
    (unzippable : Unzippable members) (template : String) :
    zipLength template members =
      .error (.listLengthMismatch template
        (members.map fun member => (member.parameter, member.length))) := by
  cases members with
  | nil =>
      obtain ⟨left, leftMember, _⟩ := unzippable.uneven
      cases leftMember
  | cons first rest =>
      have uneven := (uneven_iff first rest).mp unzippable.uneven
      have strict : (first :: rest).any (·.modifier = .zip) = true := by
        simpa using unzippable.strict
      rw [zipLength]
      simp only [uneven, strict, ↓reduceIte]

theorem zipLength_eq_ok {members : List ZipMember}
    (zippable : ¬Unzippable members) (template : String) :
    zipLength template members = .ok (zippedPositions members) := by
  cases members with
  | nil => rfl
  | cons first rest =>
      simp only [zipLength, zippedPositions, min?_lengths, max?_lengths]
      by_cases even : (rest.map (·.length)).foldl min first.length =
          (rest.map (·.length)).foldl max first.length
      · simp [even]
      · have notStrict : (first :: rest).any (·.modifier = .zip) = false := by
          apply Bool.eq_false_iff.mpr
          intro strict
          exact zippable
            ⟨(uneven_iff first rest).mpr even, by simpa using strict⟩
        rw [if_neg even, notStrict]
        cases filledUp : (first :: rest).any (·.modifier = .zipMax) <;>
          simp only [Bool.false_eq_true, ↓reduceIte, Option.getD_some]

/-- The rows of an instance are the product of the positions of its zipped lists
and the choices from its crossed ones, and they are refused only if lists of
different lengths are to be zipped strictly. -/
theorem expandRows_product (template : String) (parameters : List Parameter)
    (values : List Term) :
    (Unzippable (zippedMembers parameters values) →
      expandRows template parameters values =
        .error (.listLengthMismatch template
          ((zippedMembers parameters values).map fun member =>
            (member.parameter, member.length)))) ∧
    (¬Unzippable (zippedMembers parameters values) →
      ∃ rows, expandRows template parameters values = .ok rows ∧
        rows.length = zippedPositions (zippedMembers parameters values) *
          crossedChoices parameters values ∧
        ∀ position < zippedPositions (zippedMembers parameters values),
          ∀ choice < crossedChoices parameters values, ∃ row,
            rows[position * crossedChoices parameters values + choice]? =
              some row ∧
              IsProductRow parameters values position choice row) := by
  constructor
  · intro unzippable
    simp only [expandRows, Column.zipMembers_ofValues,
      zipLength_eq_error unzippable]
  · intro zippable
    simp only [expandRows, Column.zipMembers_ofValues, zipLength_eq_ok zippable,
      rowsAt_eq, Column.choices_ofValues, flatMap_range_map]
    refine ⟨_, rfl, by simp, ?_⟩
    intro position positionWithin choice choiceWithin
    refine ⟨_, ?_, isProductRow_productRow choiceWithin position⟩
    obtain ⟨isPosition, isChoice⟩ := div_and_mod_number choiceWithin position
    have within : position * crossedChoices parameters values + choice <
        zippedPositions (zippedMembers parameters values) *
          crossedChoices parameters values :=
      calc position * crossedChoices parameters values + choice
        _ < (position + 1) * crossedChoices parameters values := by
            rw [Nat.succ_mul]
            omega
        _ ≤ _ := Nat.mul_le_mul_right _ positionWithin
    rw [List.getElem?_map, List.getElem?_range within, Option.map_some,
      isPosition, isChoice]

/-- Every guest on every evening, with a dish as long as there are any. -/
def dinnerParameters (pairing : Modifier) : List Parameter :=
  [ { name := "evening", modifier := some .cross },
    { name := "guest", modifier := some pairing },
    { name := "dish", modifier := some .zipMax } ]

def dinnerValues : List Term :=
  [ .list [.string "Monday", .string "Tuesday"],
    .list [.iri "ann", .iri "bob"],
    .list [.string "soup"],
    .iri "surplus" ]

theorem expandRows_dinner :
    ¬Unzippable (zippedMembers (dinnerParameters .zipMin) dinnerValues) ∧
      expandRows "Dinner" (dinnerParameters .zipMin) dinnerValues =
        .ok
          [ [.string "Monday", .iri "ann", .string "soup", .iri "surplus"],
            [.string "Tuesday", .iri "ann", .string "soup", .iri "surplus"],
            [.string "Monday", .iri "bob", .none, .iri "surplus"],
            [.string "Tuesday", .iri "bob", .none, .iri "surplus"] ] ∧
      IsProductRow (dinnerParameters .zipMin) dinnerValues 1 0
        [.string "Monday", .iri "bob", .none, .iri "surplus"] ∧
      Unzippable (zippedMembers (dinnerParameters .zip) dinnerValues) ∧
      expandRows "Dinner" (dinnerParameters .zip) dinnerValues =
        .error (.listLengthMismatch "Dinner" [("guest", 2), ("dish", 1)]) := by
  have zippable :
      ¬Unzippable (zippedMembers (dinnerParameters .zipMin) dinnerValues) := by
    decide
  have unzippable :
      Unzippable (zippedMembers (dinnerParameters .zip) dinnerValues) := by
    decide
  obtain ⟨rows, expanded, count, each⟩ :=
    (expandRows_product "Dinner" (dinnerParameters .zipMin) dinnerValues).2
      zippable
  obtain ⟨row, found, isRow⟩ := each 1 (by decide) 0 (by decide)
  cases expanded
  cases found
  exact ⟨zippable, rfl, isRow, unzippable, (expandRows_product "Dinner"
    (dinnerParameters .zip) dinnerValues).1 unzippable⟩

end RdfTemplates
