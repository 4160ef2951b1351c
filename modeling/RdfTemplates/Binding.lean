import RdfTemplates.Signature

/-!
# Argument binding

Arguments are lined up with parameters, absent ones are filled in, and the
values are checked against the declarations.
-/

namespace RdfTemplates

/-- The value of a parameter for the argument given to it, if any.  A parameter
without a value makes its instance be skipped. -/
def Parameter.valueFor (parameter : Parameter) (argument : Option Term) :
    Option Term :=
  match argument with
  | none | some .none =>
      match parameter.default with
      | some value => some value
      | none => if parameter.optional then some .none else none
  | some value => some value

/-- The values of parameters, or nothing if one has no value.  The last
parameter collects all remaining arguments if it is variadic. -/
def bindValues : List Parameter → List Term → Option (List Term)
  | [], _ => some []
  | parameter :: parameters, arguments =>
      let collects := parameter.variadic && parameters.isEmpty
      let argument :=
        if collects then some (.list arguments) else arguments.head?
      match parameter.valueFor argument with
      | none => none
      | some value => (bindValues parameters arguments.tail).map (value :: ·)

/-- Lines arguments up with the parameters of a signature; without values the
instance is to be skipped. -/
def bindArguments (signature : Signature) (arguments : List Term) :
    Except Fault (Option (List Term)) :=
  match signature.checkArity arguments.length with
  | .ok () => .ok (bindValues signature.parameters arguments)
  | .error fault => .error fault

/-- The part of a value that is not of a type.  A list that is spread over
repetitions, or collected from several arguments, is checked item by item unless
the type is a list type itself. -/
def Parameter.offending? (parameter : Parameter) (type : ParameterType)
    (value : Term) : Option Term :=
  let itemwise :=
    (parameter.modifier.isSome || parameter.variadic) && !type.isList
  match value, itemwise with
  | .list items, true => items.find? (!type.accepts ·)
  | _, _ => if type.accepts value then none else some value

/-- Checks a value against the declaration of its parameter. -/
def checkArgument (template : String) (parameter : Parameter)
    (checkTypes : Bool) (value : Term) : Except Fault Unit :=
  if parameter.nonBlank && value.hasBlank then
    .error (.blankNodeNotAllowed template parameter.name value)
  else
    match parameter.type with
    | some type =>
        match if checkTypes then parameter.offending? type value else none with
        | some actual =>
            .error (.typeMismatch template parameter.name type.text actual)
        | none => .ok ()
    | none => .ok ()

/-- Checks the values of all parameters, in order. -/
def checkArguments (template : String) (checkTypes : Bool) :
    List Parameter → List Term → Except Fault Unit
  | parameter :: parameters, value :: values =>
      match checkArgument template parameter checkTypes value with
      | .ok () => checkArguments template checkTypes parameters values
      | .error fault => .error fault
  | _, _ => .ok ()

end RdfTemplates
