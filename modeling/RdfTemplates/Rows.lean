import RdfTemplates.Signature

/-!
# Rows

The repetitions of an instance.  Every list given to a parameter with a modifier
is spread over rows: zipped lists advance together, crossed lists take every
combination with the first parameter slowest, and each position of the zipped
lists is combined with every choice of the crossed ones.  All other values are
the same in every row.
-/

namespace RdfTemplates

/-- How one value takes part in the rows. -/
inductive Column where
  /-- The same value in every row. -/
  | fixed (value : Term)
  /-- One item for each position of the zipped lists. -/
  | zipped (parameter : String) (modifier : Modifier) (items : List Term)
  /-- Every item. -/
  | crossed (items : List Term)

namespace Column

/-- The column of a value given to a parameter. -/
def ofValue (parameter : Parameter) : Term → Column
  | .list items =>
      match parameter.modifier with
      | none => .fixed (.list items)
      | some .cross => .crossed items
      | some modifier => .zipped parameter.name modifier items
  | value => .fixed value

/-- The columns of values paired with parameters.  Values that are left over
stay as they are. -/
def ofValues : List Parameter → List Term → List Column
  | parameter :: parameters, value :: values =>
      ofValue parameter value :: ofValues parameters values
  | _, values => values.map .fixed

end Column

/-- A list to be zipped: the parameter it is given to, how, and its length. -/
structure ZipMember where
  parameter : String
  modifier : Modifier
  length : Nat

/-- The zipped columns, in order. -/
def zipMembers (columns : List Column) : List ZipMember :=
  columns.filterMap fun
    | .zipped parameter modifier items =>
        some { parameter, modifier, length := items.length }
    | _ => none

/-- The number of positions of the zipped lists; without zipped lists there is
one.  Lists of different lengths cannot be zipped strictly. -/
def zipLength (template : String) (members : List ZipMember) :
    Except Fault Nat :=
  match members with
  | [] => .ok 1
  | first :: rest =>
      let lengths := rest.map (·.length)
      let shortest := lengths.foldl min first.length
      let longest := lengths.foldl max first.length
      if shortest = longest then .ok longest
      else if members.any (·.modifier = .zip) then
        .error (.listLengthMismatch template
          (members.map fun member => (member.parameter, member.length)))
      else if members.any (·.modifier = .zipMax) then .ok longest
      else .ok shortest

/-- The rows for one position of the zipped lists. -/
def rowsAt (position : Nat) : List Column → List (List Term)
  | [] => [[]]
  | .fixed value :: columns => (rowsAt position columns).map (value :: ·)
  | .zipped _ _ items :: columns =>
      (rowsAt position columns).map (items.getD position .none :: ·)
  | .crossed items :: columns =>
      items.flatMap fun item => (rowsAt position columns).map (item :: ·)

/-- The rows of values given to the parameters of a template. -/
def expandRows (template : String) (parameters : List Parameter)
    (values : List Term) : Except Fault (List (List Term)) :=
  let columns := Column.ofValues parameters values
  match zipLength template (zipMembers columns) with
  | .ok length =>
      .ok ((List.range length).flatMap fun position => rowsAt position columns)
  | .error fault => .error fault

end RdfTemplates
