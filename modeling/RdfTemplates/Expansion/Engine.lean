import RdfTemplates.Binding
import RdfTemplates.Expansion.Emission
import RdfTemplates.Library
import RdfTemplates.Rows

/-!
# Expansion of instances

An instance is expanded by binding its arguments, spreading them over rows, and
walking the body of its template once for each row.  Nested instances are
expanded in place, so the output follows the body and then the rows.

A call is refused when as many calls are active as the depth limit allows.  So
the recursion goes down on the room left, the number of further calls that may
become active, and everything inside one call is written for an arbitrary way of
expanding the instances nested in it.
-/

namespace RdfTemplates.Expansion

/-- A row with defaults in the place of absent values. -/
def fillRow (parameters : List Parameter) (row : List Term) : List Term :=
  List.zipWith (fun parameter value =>
    if value.isNone then parameter.default.getD value else value)
    parameters row

/-- The first parameter that must have a value in a row and has none. -/
def missingParameter? (parameters : List Parameter) (row : List Term) :
    Option Parameter :=
  ((parameters.zip row).find? fun (parameter, value) =>
    value.isNone && !parameter.optional).map (·.1)

/-- The defaults of the parameters that have one. -/
def defaultBindings (parameters : List Parameter) : List (String × Term) :=
  parameters.filterMap fun parameter =>
    parameter.default.map (parameter.name, ·)

/-- The values of a row that differ from the default of their parameter. -/
def rowBindings (parameters : List Parameter) (row : List Term) :
    List (String × Term) :=
  ((parameters.zip row).filter fun (parameter, value) =>
    parameter.default != some value).map fun (parameter, value) =>
      (parameter.name, value)

section Body

variable (expand : Instance → Expansion Unit) (scope : ScopeId)

mutual

/-- The value of an argument in a body.  A nested instance is expanded, and its
value is its own first argument, or absent if it has none. -/
def argumentValue (placeholders : Placeholders) :
    Argument → Expansion (Term × Placeholders)
  | .term term => bodyTerm scope placeholders term
  | .nested template arguments => do
      let (values, placeholders) ← argumentValues placeholders arguments
      expand { template, arguments := values }
      pure (values.head?.getD .none, placeholders)

def argumentValues (placeholders : Placeholders) :
    List Argument → Expansion (List Term × Placeholders)
  | [] => pure ([], placeholders)
  | argument :: arguments => do
      let (value, placeholders) ← argumentValue placeholders argument
      let (values, placeholders) ← argumentValues placeholders arguments
      pure (value :: values, placeholders)

end

/-- Expands one element of a body. -/
def walkPattern (placeholders : Placeholders) : Pattern → Expansion Placeholders
  | .triple triple => do
      let (subject, placeholders) ← bodyTerm scope placeholders triple.subject
      let (predicate, placeholders) ←
        bodyTerm scope placeholders triple.predicate
      let (object, placeholders) ← bodyTerm scope placeholders triple.object
      writeTriple subject predicate object
      pure placeholders
  | .nested template arguments => do
      let (_, placeholders) ←
        argumentValue expand scope placeholders (.nested template arguments)
      pure placeholders

/-- Expands the elements of a body in order. -/
def walkBody (placeholders : Placeholders) : List Pattern → Expansion Unit
  | [] => pure ()
  | pattern :: body => do
      let placeholders ← walkPattern expand scope placeholders pattern
      walkBody placeholders body

end Body

/-- Expands the body of a template for one row.  The scope of the row falls back
on the scope of the defaults. -/
def expandRow (expand : Instance → Expansion Unit) (template : Template)
    (defaults : ScopeId) (row : List Term) : Expansion Unit :=
  let parameters := template.signature.parameters
  let row := fillRow parameters row
  match missingParameter? parameters row with
  | some parameter => record (.repetitionSkipped template.name parameter.name)
  | none =>
      releasing do
        let scope ← pushScope (some defaults)
        bindNames scope (rowBindings parameters row)
        walkBody expand scope {} template.body

def expandEachRow (expand : Instance → Expansion Unit) (template : Template)
    (defaults : ScopeId) : List (List Term) → Expansion Unit
  | [] => pure ()
  | row :: rows => do
      expandRow expand template defaults row
      expandEachRow expand template defaults rows

/-- Expands an active call. -/
def expandCall (library : Library) (expand : Instance → Expansion Unit)
    (call : Instance) : Expansion Unit := do
  let template ← check (library.lookup call.template)
  let parameters := template.signature.parameters
  match ← check (bindArguments template.signature call.arguments) with
  | none => record (.instanceSkipped call.template)
  | some values => do
      let present ← context
      check (checkArguments call.template present.checkTypes parameters values)
      let rows ← check (expandRows call.template parameters values)
      record (.instanceExpanding call.template rows.length present.depth)
      releasing do
        let defaults ← pushScope none
        bindNames defaults (defaultBindings parameters)
        expandEachRow expand template defaults rows

/-- Expands an instance when `room` further calls may become active.  With no
room left every call is refused. -/
def expandWithin (library : Library) (room : Nat) (inst : Instance) :
    Expansion Unit :=
  if inst.template == Vocabulary.ottrTriple then
    writeTripleInstance inst.arguments
  else
    match room with
    | 0 => enter inst
    | room + 1 =>
        calling inst (expandCall library (expandWithin library room) inst)

/-- Expands an instance of exactly this template name with resolved
arguments. -/
def expandInstance (library : Library) (inst : Instance) : Expansion Unit := do
  let present ← context
  expandWithin library (present.maxDepth - present.depth) inst

/-- The triples of a root instance.  Its name may be abbreviated and its
arguments must be ground; blank nodes among them are kept. -/
def expandRoot (library : Library) (root : Instance) :
    Expansion (List Triple) := do
  let name ← check (library.resolveRoot root.template)
  match Term.firstVariableIn? root.arguments with
  | some variableName => fail (.unboundVariable variableName)
  | none => collecting (expandInstance library { root with template := name })

end RdfTemplates.Expansion
