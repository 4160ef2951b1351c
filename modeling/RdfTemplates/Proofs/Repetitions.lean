import Mathlib.Data.List.Forall2
import Mathlib.Data.List.GetD
import RdfTemplates.Proofs.Checks
import RdfTemplates.Proofs.Direct.Semantics
import RdfTemplates.Proofs.Rows

/-!
# Values in repetitions

A parameter has a value in every repetition: the value given to it, an item of
it if it is a list that is spread over rows, or its default where the item is
absent or the list is too short.  The declaration of a parameter is checked on
the value given to it, so what is put in for an absent item has not been
checked.
-/

namespace RdfTemplates

namespace Parameter

/-- The value of a parameter in a repetition, for the item that a row has for
it. -/
def filled (parameter : Parameter) (item : Term) : Term :=
  if item.isNone then parameter.default.getD item else item

/-- What a row can have for a parameter that a value is given to. -/
inductive Spreads (parameter : Parameter) : Term → Term → Prop where
  /-- The value itself, unless it is a list to be spread. -/
  | whole {value : Term}
      (kept : parameter.modifier = none ∨ value.items? = none) :
      Spreads parameter value value
  | item {items : List Term} {item : Term}
      (spread : parameter.modifier.isSome = true) (member : item ∈ items) :
      Spreads parameter (.list items) item
  /-- Nothing, where other lists are longer. -/
  | padding {items : List Term} (spread : parameter.modifier.isSome = true) :
      Spreads parameter (.list items) .none

/-- What the declaration of a parameter asks of its value in a repetition: no
blank node if they are refused, and, when types are checked, the declared type
of an item. -/
structure Admits (parameter : Parameter) (checkTypes : Bool) (value : Term) :
    Prop where
  nonBlank : parameter.nonBlank = true → value.hasBlank = false
  type : checkTypes = true → parameter.variadic = false →
    ∀ type, parameter.type = some type → type.isList = false →
      type.accepts value = true

/-- The row has nothing for the parameter, which takes items of a list, and so
the value is its default. -/
structure IsPutIn (parameter : Parameter) (item value : Term) : Prop where
  absent : item = .none
  spread : parameter.modifier.isSome = true
  default : parameter.default = some value

/-- The value for an item is as declared, or has been put in without a check. -/
def PassesWith (parameter : Parameter) (checkTypes : Bool)
    (item : Term) : Prop :=
  parameter.Admits checkTypes (parameter.filled item) ∨
    parameter.IsPutIn item (parameter.filled item)

end Parameter

/-! ## Rows -/

/-- A row has something for each of the values given to parameters. -/
inductive Spread : List Parameter → List Term → List Term → Prop where
  | nil : Spread [] [] []
  | cons {parameter : Parameter} {parameters : List Parameter}
      {value item : Term} {values row : List Term} :
      parameter.Spreads value item → Spread parameters values row →
        Spread (parameter :: parameters) (value :: values) (item :: row)

/-- What a row can have from a column. -/
def Column.Gives : Column → Term → Prop
  | .fixed value, item => item = value
  | .zipped _ _ items, item | .crossed items, item =>
      item ∈ items ∨ item = .none

theorem gives_of_mem_rowsAt {position : Nat} {columns : List Column}
    {row : List Term} (member : row ∈ rowsAt position columns) :
    List.Forall₂ Column.Gives columns row := by
  induction columns generalizing row with
  | nil =>
      simp only [rowsAt, List.mem_singleton] at member
      subst member
      exact .nil
  | cons column columns induction =>
      cases column with
      | fixed value =>
          obtain ⟨rest, restMember, rfl⟩ := List.mem_map.mp member
          exact .cons rfl (induction restMember)
      | zipped parameter modifier items =>
          obtain ⟨rest, restMember, rfl⟩ := List.mem_map.mp member
          refine .cons ?_ (induction restMember)
          by_cases within : position < items.length
          · rw [List.getD_eq_getElem items .none within]
            exact Or.inl (List.getElem_mem within)
          · rw [List.getD_eq_default items .none (Nat.le_of_not_lt within)]
            exact Or.inr rfl
      | crossed items =>
          obtain ⟨item, itemMember, inner⟩ := List.mem_flatMap.mp member
          obtain ⟨rest, restMember, rfl⟩ := List.mem_map.mp inner
          exact .cons (Or.inl itemMember) (induction restMember)

theorem spreads_of_gives {parameter : Parameter} {value item : Term}
    (gives : (Column.ofValue parameter value).Gives item) :
    parameter.Spreads value item := by
  have spread_of_gives {items : List Term}
      (spread : parameter.modifier.isSome = true)
      (gives : item ∈ items ∨ item = .none) :
      parameter.Spreads (.list items) item := by
    rcases gives with member | rfl
    · exact .item spread member
    · exact .padding spread
  unfold Column.ofValue at gives
  split at gives
  · split at gives
    · rename_i noModifier
      cases gives
      exact .whole (Or.inl noModifier)
    · rename_i crossed
      exact spread_of_gives (by simp [crossed]) gives
    · rename_i modifier _ zipped
      exact spread_of_gives (by simp [zipped]) gives
  · rename_i notList
    cases gives
    apply Parameter.Spreads.whole
    right
    cases value with
    | list items => exact absurd rfl (notList items)
    | iri | literal | blank | var | none => rfl

theorem spread_of_gives {parameters : List Parameter} {values row : List Term}
    (lengths : values.length = parameters.length)
    (gives : List.Forall₂ Column.Gives
      (Column.ofValues parameters values) row) :
    Spread parameters values row := by
  induction parameters generalizing values row with
  | nil =>
      obtain rfl := List.eq_nil_of_length_eq_zero lengths
      cases gives
      exact .nil
  | cons parameter parameters induction =>
      cases values with
      | nil => cases lengths
      | cons value values =>
          cases gives with
          | cons first rest =>
              exact .cons (spreads_of_gives first)
                (induction (Nat.succ.inj lengths) rest)

theorem spread_of_mem_expandRows {template : String}
    {parameters : List Parameter} {values row : List Term}
    {rows : List (List Term)} (lengths : values.length = parameters.length)
    (expanded : expandRows template parameters values = .ok rows)
    (member : row ∈ rows) : Spread parameters values row := by
  simp only [expandRows] at expanded
  split at expanded
  · cases expanded
    obtain ⟨position, _, atPosition⟩ := List.mem_flatMap.mp member
    exact spread_of_gives lengths (gives_of_mem_rowsAt atPosition)
  · cases expanded

theorem Spread.forall₂ {given holds : Parameter → Term → Prop}
    {parameters : List Parameter} {values row : List Term}
    (spread : Spread parameters values row)
    (allGiven : List.Forall₂ given parameters values)
    (each : ∀ parameter value item, given parameter value →
      parameter.Spreads value item → holds parameter item) :
    List.Forall₂ holds parameters row := by
  induction spread with
  | nil => exact .nil
  | cons spreads _ induction =>
      cases allGiven with
      | cons first rest =>
          exact .cons (each _ _ _ first spreads) (induction rest)

theorem Direct.rowValue_of_forall₂ {holds : Parameter → Term → Prop}
    {parameters : List Parameter} {row : List Term}
    (distinct : (parameters.map (·.name)).Nodup)
    (all : List.Forall₂ holds parameters row) :
    ∀ parameter ∈ parameters, ∃ item,
      rowValue parameters row parameter.name = some item ∧
        rowValue parameters (Expansion.fillRow parameters row) parameter.name =
          some (parameter.filled item) ∧
        holds parameter item := by
  induction all with
  | nil => simp
  | @cons first item parameters row head _ induction =>
      obtain ⟨fresh, restDistinct⟩ := List.nodup_cons.mp distinct
      have filledRow : Expansion.fillRow (first :: parameters) (item :: row) =
          first.filled item :: Expansion.fillRow parameters row := rfl
      intro parameter member
      rcases List.mem_cons.mp member with rfl | later
      · exact ⟨item, by simp [rowValue], by simp [rowValue, filledRow], head⟩
      · have different : (first.name == parameter.name) = false := by
          have notSame : first.name ≠ parameter.name := by
            intro same
            exact fresh (List.mem_map.mpr ⟨parameter, later, same.symm⟩)
          simpa using notSame
        obtain ⟨other, found, filled, otherHolds⟩ :=
          induction restDistinct parameter later
        refine ⟨other, ?_, ?_, otherHolds⟩
        · rw [← found]
          simp [rowValue, different]
        · rw [← filled, filledRow]
          simp [rowValue, different]

theorem Expansion.forall_mem_fillRow {holds : Term → Prop}
    {parameters : List Parameter} {row : List Term}
    (all : List.Forall₂ (fun parameter item => holds (parameter.filled item))
      parameters row) :
    ∀ value ∈ fillRow parameters row, holds value := by
  induction all with
  | nil => simp [fillRow]
  | cons first _ induction => exact List.forall_mem_cons.mpr ⟨first, induction⟩

/-! ## Bound values -/

/-- What the binding of arguments makes of arguments of some kind. -/
theorem forall₂_bindValues (kind : Term → Prop)
    {holds : Parameter → Term → Prop} {parameters : List Parameter}
    {arguments values : List Term}
    (bound : bindValues parameters arguments = some values)
    (lists : ∀ items, (∀ item ∈ items, kind item) → kind (.list items))
    (given : ∀ argument ∈ arguments, kind argument)
    (each : ∀ parameter ∈ parameters, ∀ argument value,
      (∀ term, argument = some term → kind term) →
        parameter.valueFor argument = some value → holds parameter value) :
    List.Forall₂ holds parameters values := by
  induction parameters generalizing arguments values with
  | nil =>
      simp only [bindValues, Option.some.injEq] at bound
      subst bound
      exact .nil
  | cons parameter parameters induction =>
      simp only [bindValues] at bound
      split at bound
      · cases bound
      · rename_i value valued
        obtain ⟨rest, restBound, rfl⟩ := Option.map_eq_some_iff.mp bound
        refine .cons (each parameter List.mem_cons_self _ value ?_ valued) ?_
        · intro term isGiven
          split at isGiven
          · cases isGiven
            exact lists arguments given
          · exact given term (List.mem_of_mem_head? isGiven)
        · apply induction restBound
          · intro argument member
            exact given argument (List.mem_of_mem_tail member)
          · intro other member
            exact each other (List.mem_cons_of_mem _ member)

theorem bindValues_of_bindArguments {signature : Signature}
    {arguments values : List Term}
    (bound : bindArguments signature arguments = .ok (some values)) :
    bindValues signature.parameters arguments = some values := by
  unfold bindArguments at bound
  split at bound
  · exact Except.ok.inj bound
  · cases bound

namespace Parameter

theorem valueFor_of_lacking {argument : Option Term}
    (lacking : argument = none ∨ argument = some .none)
    (parameter : Parameter) :
    parameter.valueFor argument =
      parameter.default.or (if parameter.optional then some .none
        else none) := by
  rcases lacking with rfl | rfl <;> cases default : parameter.default <;>
    simp [valueFor, default]

theorem valueFor_of_present {value : Term} (present : value ≠ .none)
    (parameter : Parameter) : parameter.valueFor (some value) = some value := by
  cases value with
  | none => exact absurd rfl present
  | iri | literal | blank | var | list => rfl

theorem valueFor_eq_none_iff {parameter : Parameter} {argument : Option Term} :
    parameter.valueFor argument = none ↔
      (argument = none ∨ argument = some .none) ∧ parameter.default = none ∧
        parameter.optional = false := by
  by_cases lacking : argument = none ∨ argument = some .none
  · simp [valueFor_of_lacking lacking, lacking]
  · obtain ⟨value, rfl⟩ := Option.ne_none_iff_exists'.mp (not_or.mp lacking).1
    have present : value ≠ .none := by simpa using lacking
    simp [valueFor_of_present present, present]

end Parameter

theorem Parameter.valueFor_eq_some {parameter : Parameter}
    {argument : Option Term} {value : Term}
    (valued : parameter.valueFor argument = some value) :
    parameter.default = some value ∨
      (parameter.default = none ∧ value = .none) ∨
      (argument = some value ∧ value.isNone = false) := by
  by_cases lacking : argument = none ∨ argument = some .none
  · rw [valueFor_of_lacking lacking] at valued
    cases default : parameter.default with
    | some other =>
        rw [default, Option.some_or] at valued
        exact Or.inl valued
    | none =>
        rw [default, Option.none_or, Option.ite_none_right_eq_some] at valued
        exact Or.inr (Or.inl ⟨rfl, (Option.some.inj valued.2).symm⟩)
  · obtain ⟨given, rfl⟩ := Option.ne_none_iff_exists'.mp (not_or.mp lacking).1
    have present : given ≠ .none := by simpa using lacking
    rw [valueFor_of_present present] at valued
    cases valued
    refine Or.inr (Or.inr ⟨rfl, ?_⟩)
    cases value with
    | none => exact absurd rfl present
    | iri | literal | blank | var | list => rfl

/-- A bound value leaves no default to be put in. -/
theorem Parameter.filled_of_valueFor {parameter : Parameter}
    {argument : Option Term} {value : Term}
    (valued : parameter.valueFor argument = some value) :
    parameter.filled value = value := by
  rcases valueFor_eq_some valued with hasDefault | ⟨noDefault, _⟩ | ⟨_, present⟩
  · simp [filled, hasDefault]
  · simp [filled, noDefault]
  · simp [filled, present]

/-! ## Declarations -/

theorem Term.hasBlank_eq_false_of_mem {items : List Term} {item : Term}
    (none : Term.anyHasBlank items = false) (member : item ∈ items) :
    item.hasBlank = false := by
  induction items with
  | nil => cases member
  | cons first rest induction =>
      simp only [anyHasBlank, Bool.or_eq_false_iff] at none
      rcases List.mem_cons.mp member with rfl | later
      · exact none.1
      · exact induction none.2 later

theorem checkArgument_eq_ok {template : String} {parameter : Parameter}
    {checkTypes : Bool} {value : Term}
    (accepted : checkArgument template parameter checkTypes value = .ok ()) :
    (parameter.nonBlank = true → value.hasBlank = false) ∧
      (checkTypes = true → ∀ type, parameter.type = some type →
        parameter.offending? type value = none) := by
  unfold checkArgument at accepted
  split at accepted
  · cases accepted
  · rename_i noBlank
    refine ⟨by simpa using noBlank, ?_⟩
    rintro rfl type declared
    simp only [declared, ↓reduceIte] at accepted
    split at accepted
    · cases accepted
    · assumption

theorem forall₂_checkArguments {template : String} {checkTypes : Bool}
    {parameters : List Parameter} {values : List Term}
    (lengths : values.length = parameters.length)
    (accepted : checkArguments template checkTypes parameters values = .ok ()) :
    List.Forall₂ (fun parameter value =>
      checkArgument template parameter checkTypes value = .ok ())
      parameters values := by
  induction parameters generalizing values with
  | nil =>
      obtain rfl := List.eq_nil_of_length_eq_zero lengths
      exact .nil
  | cons parameter parameters induction =>
      cases values with
      | nil => cases lengths
      | cons value values =>
          simp only [checkArguments] at accepted
          split at accepted
          · rename_i first
            exact .cons first (induction (Nat.succ.inj lengths) accepted)
          · cases accepted

namespace Parameter

variable {parameter : Parameter} {checkTypes : Bool} {template : String}

theorem admits_none : parameter.Admits checkTypes .none where
  nonBlank _ := rfl
  type _ _ type _ _ := by cases type <;> rfl

/-- What stands in the place of an absent item has not been checked. -/
theorem passesWith_none (spread : parameter.modifier.isSome = true) :
    parameter.PassesWith checkTypes .none := by
  cases hasDefault : parameter.default with
  | none =>
      have stays : parameter.filled .none = .none := by
        simp [filled, hasDefault]
      left
      rw [stays]
      exact admits_none
  | some value =>
      have isDefault : parameter.filled .none = value := by
        simp [filled, Term.isNone, hasDefault]
      right
      rw [isDefault]
      exact ⟨rfl, spread, hasDefault⟩

theorem admits_whole {value : Term}
    (accepted : checkArgument template parameter checkTypes value = .ok ())
    (kept : parameter.modifier = none ∨ value.items? = none) :
    parameter.Admits checkTypes value := by
  obtain ⟨noBlank, typed⟩ := checkArgument_eq_ok accepted
  refine ⟨noBlank, ?_⟩
  intro checked notVariadic type declared notList
  have inoffensive := typed checked type declared
  unfold offending? at inoffensive
  rcases kept with noModifier | notItems
  · simpa [noModifier, notVariadic] using inoffensive
  · cases value <;> simp_all [Term.items?]

theorem admits_item {items : List Term} {item : Term}
    (accepted : checkArgument template parameter checkTypes (.list items) =
      .ok ()) (spread : parameter.modifier.isSome = true)
    (member : item ∈ items) : parameter.Admits checkTypes item := by
  obtain ⟨noBlank, typed⟩ := checkArgument_eq_ok accepted
  constructor
  · intro refused
    exact Term.hasBlank_eq_false_of_mem (noBlank refused) member
  · intro checked _ type declared notList
    have inoffensive := typed checked type declared
    simp only [offending?, spread, notList, Bool.true_or, Bool.not_false,
      Bool.and_self, List.find?_eq_none] at inoffensive
    simpa using inoffensive item member

/-- The value for an item is as declared, or is a default in the place of the
item. -/
theorem passesWith_of_spreads {value item : Term}
    (accepted : checkArgument template parameter checkTypes value = .ok ())
    (final : parameter.filled value = value)
    (spreads : parameter.Spreads value item) :
    parameter.PassesWith checkTypes item := by
  cases spreads with
  | whole kept =>
      left
      rw [final]
      exact admits_whole accepted kept
  | @item items item spread member =>
      cases absent : item.isNone with
      | true =>
          have isNone : item = .none := by cases item <;> simp_all [Term.isNone]
          rw [isNone]
          exact passesWith_none spread
      | false =>
          have kept : parameter.filled item = item := by simp [filled, absent]
          left
          rw [kept]
          exact admits_item accepted spread member
  | padding spread => exact passesWith_none spread

end Parameter

/-- The values of an instance have passed the checks, and the row is one of
those over which they are spread. -/
def Instance.HasRow (call : Instance) (signature : Signature)
    (checkTypes : Bool) (row : List Term) : Prop :=
  ∃ values rows, bindArguments signature call.arguments = .ok (some values) ∧
    checkArguments call.template checkTypes signature.parameters values =
      .ok () ∧
    expandRows call.template signature.parameters values = .ok rows ∧ row ∈ rows

namespace Instance.HasRow

variable {call : Instance} {signature : Signature} {checkTypes : Bool}
  {row : List Term}

theorem length_eq (hasRow : call.HasRow signature checkTypes row) :
    row.length = signature.parameters.length := by
  obtain ⟨values, rows, bound, _, expanded, member⟩ := hasRow
  rw [length_of_mem_expandRows expanded member, length_of_bindArguments bound]

/-- In a repetition, each parameter has a value as declared, or its default in
the place of an absent item. -/
theorem passesWith (hasRow : call.HasRow signature checkTypes row) :
    List.Forall₂ (·.PassesWith checkTypes ·) signature.parameters row := by
  obtain ⟨values, rows, bound, accepted, expanded, member⟩ := hasRow
  have lengths := length_of_bindArguments bound
  have final :
      List.Forall₂ (fun parameter value => parameter.filled value = value)
        signature.parameters values := by
    apply forall₂_bindValues (fun _ => True) (bindValues_of_bindArguments bound)
    · exact fun _ _ => trivial
    · exact fun _ _ => trivial
    · intro parameter _ argument value _ valued
      exact Parameter.filled_of_valueFor valued
  have accepts := forall₂_checkArguments lengths accepted
  have given := List.Forall₂.mp
    (fun _ _ accepts final => And.intro accepts final) accepts final
  apply (spread_of_mem_expandRows lengths expanded member).forall₂ given
  rintro parameter value item ⟨accepts, final⟩ spreads
  exact Parameter.passesWith_of_spreads accepts final spreads

/-- The values in a repetition are of the kind of the arguments and defaults. -/
theorem forall_mem_fillRow {kind : Term → Prop}
    (hasRow : call.HasRow signature checkTypes row) (absent : kind .none)
    (list : ∀ items, kind (.list items) ↔ ∀ item ∈ items, kind item)
    (defaults : ∀ parameter ∈ signature.parameters, ∀ value,
      parameter.default = some value → kind value)
    (given : ∀ argument ∈ call.arguments, kind argument) :
    ∀ value ∈ Expansion.fillRow signature.parameters row, kind value := by
  obtain ⟨values, rows, bound, _, expanded, member⟩ := hasRow
  have boundKind : List.Forall₂ (fun parameter value =>
      (∀ default, parameter.default = some default → kind default) ∧ kind value)
      signature.parameters values := by
    apply forall₂_bindValues kind (bindValues_of_bindArguments bound)
      (fun _ => (list _).mpr) given
    intro parameter declared argument value given valued
    refine ⟨defaults parameter declared, ?_⟩
    rcases Parameter.valueFor_eq_some valued with hasDefault | ⟨_, rfl⟩ |
      ⟨isGiven, _⟩
    · exact defaults parameter declared value hasDefault
    · exact absent
    · exact given value isGiven
  have spread :=
    spread_of_mem_expandRows (length_of_bindArguments bound) expanded member
  apply Expansion.forall_mem_fillRow
  apply spread.forall₂ boundKind
  rintro parameter value item ⟨default, valueKind⟩ spreads
  have itemKind : kind item := by
    cases spreads with
    | whole _ => exact valueKind
    | item _ member => exact (list _).mp valueKind item member
    | padding _ => exact absent
  unfold Parameter.filled
  split
  · cases hasDefault : parameter.default with
    | none => exact itemKind
    | some value => exact default value hasDefault
  · exact itemKind

end Instance.HasRow

end RdfTemplates
