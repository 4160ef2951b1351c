import RdfTemplates.Proofs.Direct.Evaluation
import RdfTemplates.Proofs.Library.Editing
import RdfTemplates.Proofs.Validation.Foresight

/-!
# Inline instances written out

An instance among the arguments of a pattern is expanded first, and then its own
first argument is passed in its place.  So the pattern can be written as two:
the instance, and then the pattern with that first argument.  What was evaluated
before the instance moves behind it, which nobody notices if it takes no labels;
and the first argument is evaluated twice, the second time without taking any.
-/

namespace RdfTemplates

/-- The term that an inline instance stands for, unless its first argument is an
instance again. -/
def Argument.anchor? : List Argument → Option Term
  | [] => some .none
  | .term anchor :: _ => some anchor
  | .nested _ _ :: _ => none

/-- In the second body some inline instances are patterns of their own.  An
instance may stand behind other arguments, if these are terms without blank
nodes. -/
inductive Pattern.Sequenced : List Pattern → List Pattern → Prop where
  | nil : Sequenced [] []
  | keep (pattern : Pattern) {body sequenced : List Pattern} :
      Sequenced body sequenced →
        Sequenced (pattern :: body) (pattern :: sequenced)
  | writeOut (template inlined : String) {terms : List Term}
      {arguments rest : List Argument} {anchor : Term}
      {body sequenced : List Pattern} :
      Term.anyHasBlank terms = false →
        Argument.anchor? arguments = some anchor → Sequenced body sequenced →
        Sequenced (.nested template
          (terms.map .term ++ .nested inlined arguments :: rest) :: body)
          (.nested inlined arguments ::
            .nested template (terms.map .term ++ .term anchor :: rest) ::
            sequenced)

theorem Pattern.Sequenced.refl (body : List Pattern) : Sequenced body body := by
  induction body with
  | nil => exact .nil
  | cons pattern body induction => exact .keep pattern induction

/-! ## Validation -/

namespace Library

theorem undeclared_anchor {library : Library} {owner : Signature}
    {arguments : List Argument} {anchor : Term}
    (stands : Argument.anchor? arguments = some anchor)
    (valid : library.argumentsFaults owner arguments = []) :
    owner.undeclared anchor = [] := by
  cases arguments with
  | nil =>
      cases stands
      rfl
  | cons first arguments =>
      cases first with
      | term =>
          cases stands
          simp only [argumentsFaults, argumentFaults, List.append_eq_nil_iff]
            at valid
          exact valid.1
      | nested => cases stands

/-- A body without faults has none when inline instances are written out. -/
theorem patternFaults_sequenced {library : Library} {owner : Signature}
    {body sequenced : List Pattern} (same : Pattern.Sequenced body sequenced)
    (valid : ∀ pattern ∈ body, library.patternFaults owner pattern = []) :
    ∀ pattern ∈ sequenced, library.patternFaults owner pattern = [] := by
  induction same with
  | nil => exact valid
  | keep pattern _ induction =>
      obtain ⟨first, others⟩ := List.forall_mem_cons.mp valid
      exact List.forall_mem_cons.mpr ⟨first, induction others⟩
  | writeOut template inlined _ stands _ induction =>
      obtain ⟨first, others⟩ := List.forall_mem_cons.mp valid
      simp only [patternFaults, argumentFaults, argumentsFaults_append,
        argumentsFaults, List.append_eq_nil_iff, List.length_append,
        List.length_map, List.length_cons] at first
      obtain ⟨⟨terms, ⟨instanceArguments, instanceCall⟩, rest⟩, call⟩ := first
      simp only [List.forall_mem_cons]
      refine ⟨?_, ?_, induction others⟩
      · simp [patternFaults, argumentFaults, instanceArguments, instanceCall]
      · simp [patternFaults, argumentFaults, argumentsFaults_append,
          argumentsFaults, terms,
          undeclared_anchor stands instanceArguments, rest, call]

end Library

namespace Library.Edited

variable {library sequenced : Library}

theorem problems_sequenced (same : library.Edited Pattern.Sequenced sequenced)
    (valid : library.problems = []) : sequenced.problems = [] := by
  rw [problems_eq_nil_iff] at valid ⊢
  refine same.forall_templates ?_ valid
  intro template other pair noFaults
  obtain ⟨noDuplicate, body⟩ := templateFaults_eq_nil_iff.mp noFaults
  rw [pair.signature] at noDuplicate body
  apply templateFaults_eq_nil_iff.mpr
  refine ⟨noDuplicate, ?_⟩
  simp only [← same.patternFaults_eq]
  exact patternFaults_sequenced pair.body body

end Library.Edited

namespace Direct

/-! ## Bodies -/

section Body

variable {library : Library} {owner : Signature} {stem : String}
  {calls : List Instance} {expand : Instance → Run Unit}
  {values : String → Option Term}

/-- Terms whose variables are declared have values. -/
theorem substituteList_of_undeclared
    (bound : ∀ name, values name = none → owner.declares name = false)
    {terms : List Term} (declared : owner.undeclared (.list terms) = []) :
    ∃ known, Term.substituteList values terms = .ok known := by
  cases substituted : Term.substituteList values terms with
  | ok known => exact ⟨known, rfl⟩
  | error name =>
      have failed : (Term.list terms).substitute values = .error name := by
        simp only [Term.substitute, substituted]
      obtain ⟨occurs, unbound⟩ := Term.unbound_of_substitute failed
      have faulty := Signature.mem_undeclared occurs (bound name unbound)
      rw [declared] at faulty
      cases faulty

/-- Once the arguments of an instance have been evaluated, what the instance
stands for is there to be evaluated again. -/
theorem anchor_settles {arguments : List Argument} {anchor : Term}
    (stands : Argument.anchor? arguments = some anchor)
    (placeholders : Placeholders) :
    (Contract.ofValues Trail).MetBy (fun result =>
        bodyTerm stem calls values result.2 anchor =
          pure (result.1.head?.getD .none, result.2))
      (argumentValues stem calls expand values placeholders arguments) := by
  cases arguments with
  | nil =>
      cases stands
      simp only [argumentValues]
      exact .pure rfl
  | cons first arguments =>
      cases first with
      | nested => cases stands
      | term =>
          cases stands
          simp only [argumentValues, argumentValue]
          apply (bodyTerm_settles placeholders anchor).bind
          intro first settles
          obtain ⟨value, next⟩ := first
          obtain ⟨_, settled⟩ := settles
          apply (argumentValues_keeps next arguments).bind
          intro rest kept
          obtain ⟨others, later⟩ := rest
          exact .pure (settled later kept)

/-- One inline instance can be written out before its pattern. -/
theorem walkBody_writeOut {terms known : List Term}
    (plain : Term.anyHasBlank terms = false)
    (substituted : Term.substituteList values terms = .ok known)
    {arguments : List Argument} {anchor : Term}
    (stands : Argument.anchor? arguments = some anchor)
    (placeholders : Placeholders) (template inlined : String)
    (rest : List Argument) (body : List Pattern) :
    walkBody stem calls expand values placeholders (.nested template
      (terms.map .term ++ .nested inlined arguments :: rest) :: body) =
      walkBody stem calls expand values placeholders
        (.nested inlined arguments ::
          .nested template (terms.map .term ++ .term anchor :: rest) ::
          body) := by
  simp only [walkBody, walkPattern, argumentValue, argumentValues,
    argumentValues_terms_append plain substituted, bind_assoc, pure_bind]
  -- Up to here both have evaluated the arguments of the instance, and the
  -- anchor among them.
  apply (anchor_settles stands placeholders).bind_congr
  intro evaluated settled
  obtain ⟨values, later⟩ := evaluated
  simp only [settled, pure_bind]

theorem walkBody_sequenced
    (bound : ∀ name, values name = none → owner.declares name = false)
    {body sequenced : List Pattern} (same : Pattern.Sequenced body sequenced)
    (valid : ∀ pattern ∈ body, library.patternFaults owner pattern = [])
    (placeholders : Placeholders) :
    walkBody stem calls expand values placeholders body =
      walkBody stem calls expand values placeholders sequenced := by
  induction same generalizing placeholders with
  | nil => rfl
  | keep pattern _ induction =>
      obtain ⟨_, others⟩ := List.forall_mem_cons.mp valid
      simp only [walkBody, fun later => induction others later]
  | @writeOut template inlined terms arguments rest _ _ _ plain stands _
      induction =>
      obtain ⟨first, others⟩ := List.forall_mem_cons.mp valid
      simp only [Library.patternFaults, Library.argumentFaults,
        Library.argumentsFaults_append,
        Library.argumentsFaults_terms, List.append_eq_nil_iff] at first
      -- The terms before the instance could fail only for want of a value.
      obtain ⟨⟨declared, _⟩, _⟩ := first
      obtain ⟨known, substituted⟩ := substituteList_of_undeclared bound declared
      rw [walkBody_writeOut plain substituted stands]
      simp only [walkBody, fun later => induction others later]

end Body

/-! ## Calls -/

section Calls

variable {library : Library} {template other : Template} {stem : String}
  {calls : List Instance} {expand : Instance → Run Unit}
  (pair : template.Edited Pattern.Sequenced other)
  (valid : ∀ pattern ∈ template.body,
    library.patternFaults template.signature pattern = [])

include pair valid

theorem expandRow_sequenced {row : List Term}
    (lengths : row.length = template.signature.parameters.length) :
    expandRow stem calls expand template row =
      expandRow stem calls expand other row := by
  have bound : ∀ name,
      rowValue template.signature.parameters
        (Expansion.fillRow template.signature.parameters row) name = none →
      template.signature.declares name = false :=
    fun _ => declares_eq_false_of_rowValue (Expansion.length_fillRow lengths)
  simp only [expandRow, ← pair.signature,
    walkBody_sequenced bound pair.body valid]

theorem expandEachRow_sequenced {rows : List (List Term)}
    (lengths : ∀ row ∈ rows, row.length =
      template.signature.parameters.length) :
    expandEachRow stem calls expand template rows =
      expandEachRow stem calls expand other rows := by
  induction rows with
  | nil => rfl
  | cons row rows induction =>
      obtain ⟨rowLength, restLengths⟩ := List.forall_mem_cons.mp lengths
      rw [expandEachRow, expandEachRow,
        expandRow_sequenced pair valid rowLength, induction restLengths]

end Calls

/-! ## Instances -/

section Instances

variable {setting : Setting} {sequenced : Library}
  (same : setting.library.Edited Pattern.Sequenced sequenced)
  (valid : setting.library.problems = [])

include same valid

theorem expandCall_sequenced (calls : List Instance)
    (expand : Instance → Run Unit) (call : Instance) :
    expandCall setting calls expand call =
      expandCall { setting with library := sequenced } calls expand call := by
  rcases same.find? call.template with
    ⟨template, other, found, foundOther, pair⟩ | ⟨absent, absentOther⟩
  · have defined := (Library.mem_and_name_of_find? found).1
    have noFaults := Library.templateFaults_eq_nil_iff.mp
      (Library.problems_eq_nil_iff.mp valid template defined)
    simp only [expandCall, Library.lookup, found, foundOther, check_ok_bind,
      ← pair.signature]
    apply check_bind_congr
    intro filled bound
    cases filled with
    | none => rfl
    | some values =>
        apply check_bind_congr
        intro _ _
        apply check_bind_congr
        intro rows expanded
        apply expandEachRow_sequenced pair noFaults.2
        intro row member
        rw [length_of_mem_expandRows expanded member,
          length_of_bindArguments bound]
  · simp only [expandCall, Library.lookup, absent, absentOther]

theorem expandWithin_sequenced (room : Nat) (calls : List Instance)
    (inst : Instance) :
    expandWithin setting room calls inst =
      expandWithin { setting with library := sequenced } room calls inst := by
  induction room generalizing calls inst with
  | zero =>
      rw [expandWithin, expandWithin]
      rfl
  | succ room induction =>
      have nested : expandWithin setting room (inst :: calls) =
          expandWithin { setting with library := sequenced } room
            (inst :: calls) :=
        funext fun callee => induction (inst :: calls) callee
      rw [expandWithin, expandWithin, nested, expandCall_sequenced same valid]
      rfl

theorem outcome_sequenced_from (root : Instance) (allocated : Nat) :
    outcome setting root allocated =
      outcome { setting with library := sequenced } root allocated := by
  have roots : expandRoot setting root =
      expandRoot { setting with library := sequenced } root := by
    simp only [expandRoot, same.resolveRoot_eq,
      expandWithin_sequenced same valid]
  rw [outcome, outcome, roots]

end Instances

end Direct

/-- In a validated library, writing out inline instances changes the outcome of
no root: the triples, their order and their labels stay the same, and so does
the failure with its trace.  The library is valid afterwards, so more instances
can be written out in it. -/
theorem Expansion.outcome_sequenced (library sequenced : Library)
    (built : library.Built) (valid : library.problems = [])
    (same : library.Edited Pattern.Sequenced sequenced) :
    (∀ (options : Options) (random : Nat) (root : Instance),
      outcome library (.ofOptions options random) root =
        outcome sequenced (.ofOptions options random) root) ∧
      sequenced.Built ∧ sequenced.problems = [] := by
  have sequencedBuilt := same.built built
  refine ⟨?_, sequencedBuilt, same.problems_sequenced valid⟩
  intro options random root
  have direct :=
    Direct.outcome_eq (.ofOptions library options random) built root 0
  have sequencedDirect :=
    Direct.outcome_eq (.ofOptions sequenced options random)
      sequencedBuilt root 0
  calc
    outcome library (.ofOptions options random) root =
        Direct.outcome (.ofOptions library options random) root 0 := direct
    _ = Direct.outcome (.ofOptions sequenced options random) root 0 :=
        Direct.outcome_sequenced_from same valid root 0
    _ = outcome sequenced (.ofOptions options random) root :=
      sequencedDirect.symm

/-- A twig ends in a leaf of its own, which gets a mark. -/
def twigTemplates : List Template :=
  [ { signature := { name := "Leaf", parameters := [{ name := "tip" }] }
      body := [.triple ⟨.blank "mark", .iri "marks", .var "tip"⟩] },
    { signature := { name := "Branch",
                     parameters := [{ name := "from" }, { name := "to" }] }
      body := [.triple ⟨.var "from", .iri "carries", .var "to"⟩] },
    { signature := { name := "Twig", parameters := [{ name := "on" }] }
      body :=
        [ .nested "Branch"
            [.term (.var "on"), .nested "Leaf" [.term (.blank "tip")]],
          .triple ⟨.blank "tip", .iri "kind", .string "tip"⟩ ] } ]

def twigLibrary : Library :=
  { templates := twigTemplates }

/-- The twigs with the leaf written out before its branch. -/
def sequencedTwigLibrary : Library where
  templates :=
    twigTemplates.modify 2 fun twig =>
      { twig with
        body :=
          [ .nested "Leaf" [.term (.blank "tip")],
            .nested "Branch" [.term (.var "on"), .term (.blank "tip")],
            .triple ⟨.blank "tip", .iri "kind", .string "tip"⟩ ] }

theorem twigLibrary_built : twigLibrary.Built := by
  have accepted : Library.ofTemplates twigTemplates = .ok twigLibrary := rfl
  exact Library.built_of_ofTemplates accepted

theorem twigLibrary_sequenced :
    twigLibrary.Edited Pattern.Sequenced sequencedTwigLibrary where
  prefixes := rfl
  templates := by
    refine .cons ⟨rfl, .refl _⟩ (.cons ⟨rfl, .refl _⟩ (.cons ⟨rfl, ?_⟩ .nil))
    exact @Pattern.Sequenced.writeOut "Branch" "Leaf" [.var "on"] _ _ _ _ _ rfl
      rfl (.refl _)

theorem Expansion.outcome_twig :
    twigLibrary.Built ∧ twigLibrary.problems = [] ∧
      twigLibrary.Edited Pattern.Sequenced sequencedTwigLibrary ∧
      twigLibrary ≠ sequencedTwigLibrary ∧
      outcome twigLibrary (.ofOptions { blankStem := some "b" } 0)
        ⟨"Twig", [.iri "r"]⟩ =
        outcome sequencedTwigLibrary (.ofOptions { blankStem := some "b" } 0)
          ⟨"Twig", [.iri "r"]⟩ ∧
      (outcome sequencedTwigLibrary (.ofOptions { blankStem := some "b" } 0)
        ⟨"Twig", [.iri "r"]⟩).result =
        .ok [ ⟨.blank "b_1", .iri "marks", .blank "b_0"⟩,
          ⟨.iri "r", .iri "carries", .blank "b_0"⟩,
          ⟨.blank "b_0", .iri "kind", .string "tip"⟩ ] ∧
      sequencedTwigLibrary.Built ∧ sequencedTwigLibrary.problems = [] := by
  have valid : twigLibrary.problems = [] := by decide
  obtain ⟨outcomes, built, problems⟩ := outcome_sequenced twigLibrary
    sequencedTwigLibrary twigLibrary_built valid twigLibrary_sequenced
  have unchanged := outcomes { blankStem := some "b" } 0 ⟨"Twig", [.iri "r"]⟩
  exact ⟨twigLibrary_built, valid, twigLibrary_sequenced, by decide, unchanged,
    by decide +kernel, built, problems⟩

end RdfTemplates
