import RdfTemplates.Proofs.Outcome

/-!
# Direct expansion

The meaning of an instance without scopes.  A row gives each parameter its
value, and every variable of the body is replaced by the value of the parameter
of that name, whatever the callers have bound.  A run only counts the labels it
has used and collects triples; the active calls are passed down with the
instances.
-/

namespace RdfTemplates.Direct

/-- What a run has done so far. -/
structure Trail where
  /-- The number of labels used. -/
  allocated : Nat := 0
  /-- The triples put out, in order. -/
  triples : List Triple := []

abbrev Run (α : Type) := EStateM Failure Trail α

/-- What stays the same throughout a run. -/
structure Setting where
  library : Library
  stem : String
  maxDepth : Nat := defaultMaxDepth
  checkTypes : Bool := true
  /-- Whether a call that is active already is refused. -/
  refusesRepeats : Bool := true

/-- The setting of a library and options, given random bits for an unset
stem. -/
def Setting.ofOptions (library : Library) (options : Options) (random : Nat) :
    Setting :=
  { library
    stem := (options.labels random).stem
    maxDepth := options.maxDepth
    checkTypes := options.checkTypes }

/-- Whether an instance is refused because it is active already. -/
def Setting.refuses (setting : Setting) (calls : List Instance)
    (inst : Instance) : Bool :=
  setting.refusesRepeats && calls.contains inst

/-- The setting in which only the depth limit ends a circular expansion. -/
def Setting.unguarded (setting : Setting) : Setting :=
  { setting with refusesRepeats := false }

/-- Fails inside the given calls. -/
def fail {α : Type} (calls : List Instance) (fault : Fault) : Run α :=
  throw { fault, calls }

/-- The result of a check, or failure with its fault inside the given calls. -/
def check {α : Type} (calls : List Instance) : Except Fault α → Run α
  | .ok value => pure value
  | .error fault => fail calls fault

section Checks

variable {α β : Type} {calls : List Instance}

theorem check_ok_bind (value : α) (rest : α → Run β) :
    check calls (.ok value) >>= rest = rest value :=
  rfl

theorem check_bind_congr {result : Except Fault α} {first second : α → Run β}
    (same : ∀ value, result = .ok value → first value = second value) :
    check calls result >>= first = check calls result >>= second := by
  cases result with
  | ok value => exact same value rfl
  | error fault => rfl

end Checks

/-- Appends a triple to the output. -/
def emit (triple : Triple) : Run Unit := fun trail =>
  .ok () { trail with triples := trail.triples ++ [triple] }

section Labels

variable (stem : String)

/-- A fresh blank node. -/
def freshBlank : Run Term := fun trail =>
  .ok (.blank (LabelSource.label stem trail.allocated))
    { trail with allocated := trail.allocated + 1 }

/-- A given number of fresh blank nodes, in order of allocation. -/
def freshBlanks : Nat → Run (List Term)
  | 0 => pure []
  | count + 1 => do
      let node ← freshBlank stem
      let nodes ← freshBlanks count
      pure (node :: nodes)

/-- A body term with its placeholders replaced by the nodes of the repetition
and then its variables by their values. -/
def bodyTerm (calls : List Instance) (values : String → Option Term)
    (placeholders : Placeholders) (term : Term) : Run (Term × Placeholders) :=
  fun trail =>
  let (term, placeholders, labels) :=
    placeholders.localize ⟨stem, trail.allocated⟩ term
  let trail := { trail with allocated := labels.allocated }
  match term.substitute values with
  | .ok value => .ok (value, placeholders) trail
  | .error name => .error { fault := .unboundVariable name, calls } trail

end Labels

section Emission

variable (stem : String) (calls : List Instance)

/-- Fails if there is an objection against a term in its position. -/
def checkPosition (position : String) (term : Term) : Option String → Run Unit
  | some reason => fail calls (.invalidTriple position term reason)
  | none => pure ()

mutual

/-- What a cell holds for an item; a list is written as a collection. -/
def itemValue : Term → Run Term
  | .list items => do
      let cells ← freshBlanks stem items.length
      writeCells items cells
      pure (Expansion.listNode cells)
  | .none =>
      fail calls (.invalidTriple "list element" .none
        "ottr:none cannot be a list element")
  | .var name =>
      fail calls
        (.invalidTriple "list element" (.var name) "not a ground RDF term")
  | .iri name => pure (.iri name)
  | .literal value => pure (.literal value)
  | .blank label => pure (.blank label)

/-- Writes items into cells. -/
def writeCells : List Term → List Term → Run Unit
  | item :: items, cell :: cells => do
      let value ← itemValue item
      emit ⟨cell, .iri Vocabulary.rdfFirst, value⟩
      emit ⟨cell, .iri Vocabulary.rdfRest, Expansion.listNode cells⟩
      writeCells items cells
  | _, _ => pure ()

end

/-- What the object position holds for a term. -/
def objectValue : Term → Run Term
  | .list items => itemValue stem calls (.list items)
  | .var name =>
      fail calls (.invalidTriple "object" (.var name) "not a ground RDF term")
  | term => pure term

/-- Checks a triple and puts it out; a triple with an absent position is
dropped. -/
def writeTriple (subject predicate object : Term) : Run Unit :=
  if subject.isNone || predicate.isNone || object.isNone then
    pure ()
  else do
    checkPosition calls "subject" subject (Expansion.subjectObjection? subject)
    checkPosition calls "predicate" predicate
      (Expansion.predicateObjection? predicate)
    let object ← objectValue stem calls object
    emit ⟨subject, predicate, object⟩

/-- An instance of the built-in triple template. -/
def writeTripleInstance : List Term → Run Unit
  | [subject, predicate, object] =>
      writeTriple stem calls subject predicate object
  | arguments => fail calls (.tripleArity arguments.length)

end Emission

section Body

variable (stem : String) (calls : List Instance) (expand : Instance → Run Unit)
  (values : String → Option Term)

mutual

/-- The value of an argument in a body; a nested instance is expanded and stands
for its own first argument. -/
def argumentValue (placeholders : Placeholders) :
    Argument → Run (Term × Placeholders)
  | .term term => bodyTerm stem calls values placeholders term
  | .nested template arguments => do
      let (terms, placeholders) ← argumentValues placeholders arguments
      expand { template, arguments := terms }
      pure (terms.head?.getD .none, placeholders)

def argumentValues (placeholders : Placeholders) :
    List Argument → Run (List Term × Placeholders)
  | [] => pure ([], placeholders)
  | argument :: arguments => do
      let (term, placeholders) ← argumentValue placeholders argument
      let (terms, placeholders) ← argumentValues placeholders arguments
      pure (term :: terms, placeholders)

end

/-- Expands one element of a body. -/
def walkPattern (placeholders : Placeholders) : Pattern → Run Placeholders
  | .triple triple => do
      let (subject, placeholders) ←
        bodyTerm stem calls values placeholders triple.subject
      let (predicate, placeholders) ←
        bodyTerm stem calls values placeholders triple.predicate
      let (object, placeholders) ←
        bodyTerm stem calls values placeholders triple.object
      writeTriple stem calls subject predicate object
      pure placeholders
  | .nested template arguments => do
      let (_, placeholders) ← argumentValue stem calls expand values
        placeholders (.nested template arguments)
      pure placeholders

/-- Expands the elements of a body in order. -/
def walkBody (placeholders : Placeholders) : List Pattern → Run Unit
  | [] => pure ()
  | pattern :: body => do
      let placeholders ←
        walkPattern stem calls expand values placeholders pattern
      walkBody placeholders body

end Body

/-- The value that a row gives to the parameter of a name. -/
def rowValue (parameters : List Parameter) (row : List Term) (name : String) :
    Option Term :=
  ((parameters.zip row).find? fun (parameter, _) => parameter.name == name).map
    (·.2)

section Calls

variable (stem : String) (calls : List Instance) (expand : Instance → Run Unit)
  (template : Template)

/-- Expands the body of a template for one row, after defaults have been put in
the place of absent values; without a value for a mandatory parameter there is
nothing to expand. -/
def expandRow (row : List Term) : Run Unit :=
  let parameters := template.signature.parameters
  let row := Expansion.fillRow parameters row
  match Expansion.missingParameter? parameters row with
  | some _ => pure ()
  | none =>
      walkBody stem calls expand (rowValue parameters row) {} template.body

def expandEachRow : List (List Term) → Run Unit
  | [] => pure ()
  | row :: rows => do
      expandRow stem calls expand template row
      expandEachRow rows

end Calls

section Instances

variable (setting : Setting)

/-- Expands an active call, which is the first of the calls. -/
def expandCall (calls : List Instance) (expand : Instance → Run Unit)
    (call : Instance) : Run Unit := do
  let template ← check calls (setting.library.lookup call.template)
  let parameters := template.signature.parameters
  match ← check calls (bindArguments template.signature call.arguments) with
  | none => pure ()
  | some values => do
      check calls
        (checkArguments call.template setting.checkTypes parameters values)
      let rows ← check calls (expandRows call.template parameters values)
      expandEachRow setting.stem calls expand template rows

/-- Expands an instance inside active calls when `room` further ones may become
active. -/
def expandWithin : Nat → List Instance → Instance → Run Unit
  | room, calls, inst =>
      if inst.template == Vocabulary.ottrTriple then
        writeTripleInstance setting.stem calls inst.arguments
      else if setting.refuses calls inst then
        fail calls (.cyclicExpansion inst)
      else
        match room with
        | 0 => fail calls (.depthExceeded setting.maxDepth)
        | room + 1 =>
            expandCall setting (inst :: calls)
              (expandWithin room (inst :: calls)) inst

section Cases

variable {setting} {calls : List Instance} {inst : Instance}

theorem expandWithin_triple (room : Nat)
    (isTriple : inst.template = Vocabulary.ottrTriple) :
    expandWithin setting room calls inst =
      writeTripleInstance setting.stem calls inst.arguments := by
  unfold expandWithin
  simp [isTriple]

theorem expandWithin_refused (room : Nat)
    (notTriple : inst.template ≠ Vocabulary.ottrTriple)
    (refused : setting.refuses calls inst = true) :
    expandWithin setting room calls inst =
      fail calls (.cyclicExpansion inst) := by
  unfold expandWithin
  simp [notTriple, refused]

theorem expandWithin_zero (notTriple : inst.template ≠ Vocabulary.ottrTriple)
    (accepted : setting.refuses calls inst = false) :
    expandWithin setting 0 calls inst =
      fail calls (.depthExceeded setting.maxDepth) := by
  unfold expandWithin
  simp [notTriple, accepted]

theorem expandWithin_succ (room : Nat)
    (notTriple : inst.template ≠ Vocabulary.ottrTriple)
    (accepted : setting.refuses calls inst = false) :
    expandWithin setting (room + 1) calls inst =
      expandCall setting (inst :: calls)
        (expandWithin setting room (inst :: calls)) inst := by
  rw [expandWithin]
  simp [notTriple, accepted]

end Cases

/-- Expands a root instance, with no call active. -/
def expandRoot (root : Instance) : Run Unit := do
  let name ← check [] (setting.library.resolveRoot root.template)
  match Term.firstVariableIn? root.arguments with
  | some variableName => fail [] (.unboundVariable variableName)
  | none =>
      expandWithin setting setting.maxDepth [] { root with template := name }

section Cases

variable {setting} {root : Instance}

theorem expandRoot_unresolved {fault : Fault}
    (unresolved : setting.library.resolveRoot root.template = .error fault) :
    expandRoot setting root = fail [] fault := by
  rw [expandRoot, unresolved]
  rfl

theorem expandRoot_open {name variableName : String}
    (resolved : setting.library.resolveRoot root.template = .ok name)
    (isOpen : Term.firstVariableIn? root.arguments = some variableName) :
    expandRoot setting root = fail [] (.unboundVariable variableName) := by
  rw [expandRoot, resolved, isOpen]
  rfl

theorem expandRoot_ground {name : String}
    (resolved : setting.library.resolveRoot root.template = .ok name)
    (ground : Term.firstVariableIn? root.arguments = none) :
    expandRoot setting root =
      expandWithin setting setting.maxDepth []
        { root with template := name } := by
  rw [expandRoot, resolved, ground]
  rfl

end Cases

/-- The outcome of a root when some labels have been used before. -/
def outcome (root : Instance) (allocated : Nat) : Outcome :=
  match expandRoot setting root { allocated } with
  | .ok () trail => ⟨.ok trail.triples, trail.allocated⟩
  | .error failure trail => ⟨.error failure, trail.allocated⟩

variable {setting}

theorem expandRoot_eq_error {root : Instance} {allocated : Nat}
    {failure : Failure}
    (failed : (outcome setting root allocated).result = .error failure) :
    ∃ last, expandRoot setting root { allocated } = .error failure last := by
  unfold outcome at failed
  cases ended : expandRoot setting root { allocated } with
  | ok value last =>
      rw [ended] at failed
      cases failed
  | error other last =>
      rw [ended] at failed
      cases failed
      exact ⟨last, rfl⟩

end Instances

end RdfTemplates.Direct
