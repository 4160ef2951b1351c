import Mathlib.Data.List.Induction
import Mathlib.Data.List.Nodup
import RdfTemplates.Library

/-!
# Construction of libraries

A library grows from the empty one by definitions and prefixes.  What every
definition checks holds of all templates of a library built in this way.
-/

namespace RdfTemplates

namespace Signature

/-- The names of the parameters of a signature, in order. -/
def parameterNames (signature : Signature) : List String :=
  signature.parameters.map (·.name)

theorem firstRepeated?_eq_none_iff {seen names : List String} :
    firstRepeated? seen names = none ↔
      names.Nodup ∧ ∀ name ∈ names, name ∉ seen := by
  induction names generalizing seen with
  | nil => simp [firstRepeated?]
  | cons name names induction =>
      by_cases repeated : name ∈ seen
      · simp [firstRepeated?, repeated]
      · rw [firstRepeated?, if_neg repeated, induction, List.nodup_cons]
        constructor
        · rintro ⟨distinct, unseen⟩
          have fresh : name ∉ names := by
            intro member
            exact unseen name member List.mem_cons_self
          refine ⟨⟨fresh, distinct⟩, ?_⟩
          intro other member
          rcases List.mem_cons.mp member with rfl | later
          · exact repeated
          · intro seenBefore
            exact unseen other later (List.mem_cons_of_mem name seenBefore)
        · rintro ⟨⟨fresh, distinct⟩, unseen⟩
          refine ⟨distinct, ?_⟩
          intro other member seenBefore
          rcases List.mem_cons.mp seenBefore with rfl | seenEarlier
          · exact fresh member
          · exact unseen other (List.mem_cons_of_mem name member) seenEarlier

theorem duplicateParameter?_eq_none_iff {signature : Signature} :
    signature.duplicateParameter? = none ↔ signature.parameterNames.Nodup := by
  rw [duplicateParameter?, firstRepeated?_eq_none_iff]
  simp [parameterNames]

end Signature

namespace Library

/-- A library that has come about by definitions and prefixes. -/
inductive Built : Library → Prop where
  | empty : Built {}
  | define {library extended : Library} {template : Template} :
      Built library → library.define template = .ok extended → Built extended
  | addPrefix {library : Library} (short namespaceIri : String) :
      Built library → Built (library.addPrefix short namespaceIri)

/-- A definition that is accepted adds its template, whose parameters have names
of their own, at the end. -/
theorem define_eq_ok {library extended : Library} {template : Template}
    (accepted : library.define template = .ok extended) :
    extended = { library with templates := library.templates ++ [template] } ∧
      template.signature.parameterNames.Nodup := by
  unfold define at accepted
  split at accepted
  · cases accepted
  · split at accepted
    · cases accepted
    · rename_i noDuplicate
      cases accepted
      exact ⟨rfl, Signature.duplicateParameter?_eq_none_iff.mp noDuplicate⟩

theorem defineAll_eq_ok {library extended : Library} {templates : List Template}
    (accepted : (library.defineAll templates).2 = .ok extended) : extended =
      { library with templates := library.templates ++ templates } := by
  induction templates generalizing library with
  | nil =>
      simp only [defineAll, Except.ok.injEq] at accepted
      simp [accepted]
  | cons template templates induction =>
      cases defined : library.define template with
      | error fault => simp [defineAll, defined] at accepted
      | ok first =>
          simp only [defineAll, defined] at accepted
          obtain ⟨rfl, _⟩ := define_eq_ok defined
          simpa using induction accepted

theorem define_new {library extended : Library} {template : Template}
    (accepted : library.define template = .ok extended) :
    library.contains template.name = false ∧
      template.name ≠ Vocabulary.ottrTriple := by
  simp only [define] at accepted
  split at accepted
  · cases accepted
  · rename_i isNew
    simpa using isNew

/-- What every accepted definition has, all templates of a library have. -/
theorem Built.forall_templates {property : Template → Prop}
    (checked : ∀ (library extended : Library) (template : Template),
      library.define template = .ok extended → property template)
    {library : Library} (built : library.Built) :
    ∀ template ∈ library.templates, property template := by
  induction built with
  | empty => simp
  | define _ accepted induction =>
      have new := checked _ _ _ accepted
      obtain ⟨rfl, _⟩ := define_eq_ok accepted
      intro template member
      rcases List.mem_append.mp member with earlier | last
      · exact induction template earlier
      · rw [List.mem_singleton.mp last]
        exact new
  | addPrefix _ _ _ induction => exact induction

theorem Built.parameterNames_nodup {library : Library} (built : library.Built) :
    ∀ template ∈ library.templates, template.signature.parameterNames.Nodup :=
  built.forall_templates fun _ _ _ accepted => (define_eq_ok accepted).2

theorem Built.name_ne_ottrTriple {library : Library} (built : library.Built) :
    ∀ template ∈ library.templates, template.name ≠ Vocabulary.ottrTriple :=
  built.forall_templates fun _ _ _ accepted => (define_new accepted).2

theorem Built.contains_ottrTriple {library : Library} (built : library.Built) :
    library.contains Vocabulary.ottrTriple = false := by
  rw [contains, List.any_eq_false]
  intro template member
  simpa using built.name_ne_ottrTriple template member

theorem Built.names_nodup {library : Library} (built : library.Built) :
    (library.templates.map Template.name).Nodup := by
  induction built with
  | empty => exact List.nodup_nil
  | @define library _ template _ accepted induction =>
      obtain ⟨isNew, _⟩ := define_new accepted
      obtain ⟨rfl, _⟩ := define_eq_ok accepted
      have absent : template.name ∉ library.templates.map Template.name := by
        simpa [contains] using isNew
      simp only [List.map_append, List.map_cons, List.map_nil]
      exact (List.nodup_cons.mpr ⟨absent, induction⟩).perm
        (List.perm_append_singleton _ _).symm
  | addPrefix _ _ _ induction => exact induction

/-- Templates that all would be accepted, with names of their own, can be
defined one after another. -/
theorem built_of_distinct {templates : List Template}
    (distinct : (templates.map Template.name).Nodup)
    (sound : ∀ template ∈ templates, template.name ≠ Vocabulary.ottrTriple ∧
      template.signature.parameterNames.Nodup) :
    Library.Built { templates } := by
  induction templates using List.reverseRecOn with
  | nil => exact .empty
  | append_singleton templates template induction =>
      simp only [List.map_append, List.map_cons, List.map_nil,
        List.nodup_append] at distinct
      obtain ⟨earlierDistinct, _, apart⟩ := distinct
      obtain ⟨earlierSound, lastSound⟩ := List.forall_mem_append.mp sound
      obtain ⟨notTriple, parametersDistinct⟩ :=
        lastSound template List.mem_cons_self
      have isNew : Library.contains { templates } template.name = false := by
        rw [contains, List.any_eq_false]
        intro other member
        simpa using apart other.name (List.mem_map_of_mem member) template.name
          List.mem_cons_self
      have accepted : Library.define { templates } template =
          .ok { templates := templates ++ [template] } := by
        simp [define, isNew, notTriple,
          Signature.duplicateParameter?_eq_none_iff.mpr parametersDistinct]
      exact (induction earlierDistinct earlierSound).define accepted

/-- What definitions check is all that there is to being built by them. -/
theorem built_iff {library : Library} :
    library.Built ↔
      (library.templates.map Template.name).Nodup ∧
        ∀ template ∈ library.templates, template.name ≠ Vocabulary.ottrTriple ∧
          template.signature.parameterNames.Nodup := by
  constructor
  · intro built
    refine ⟨built.names_nodup, ?_⟩
    intro template member
    exact ⟨built.name_ne_ottrTriple template member,
      built.parameterNames_nodup template member⟩
  · intro checked
    obtain ⟨distinct, sound⟩ := checked
    obtain ⟨templates, prefixes⟩ := library
    induction prefixes with
    | nil => exact built_of_distinct distinct sound
    | cons entry prefixes induction =>
        exact (induction distinct sound).addPrefix entry.1 entry.2

theorem mem_and_name_of_find? {library : Library} {name : String}
    {template : Template} (found : library.find? name = some template) :
    template ∈ library.templates ∧ template.name = name :=
  ⟨List.mem_of_find?_eq_some found, by simpa using List.find?_some found⟩

/-- Where names are distinct, the order of templates does not matter to find
one. -/
theorem find?_eq_some_iff {library : Library}
    (distinct : (library.templates.map Template.name).Nodup) {name : String}
    {template : Template} :
    library.find? name = some template ↔
      template ∈ library.templates ∧ template.name = name := by
  constructor
  · exact mem_and_name_of_find?
  · intro ⟨member, named⟩
    have present : (library.find? name).isSome := by
      rw [find?, List.isSome_find?, List.any_eq_true]
      exact ⟨template, member, by simpa using named⟩
    obtain ⟨first, found⟩ := Option.isSome_iff_exists.mp present
    obtain ⟨firstMember, firstNamed⟩ := mem_and_name_of_find? found
    have same : first = template :=
      List.inj_on_of_nodup_map distinct firstMember member
        (firstNamed.trans named.symm)
    rw [found, same]

theorem find?_eq_of_perm {library other : Library} (built : library.Built)
    (shuffled : library.templates.Perm other.templates) (name : String) :
    other.find? name = library.find? name := by
  have distinct := built.names_nodup
  have otherDistinct := (shuffled.map Template.name).nodup_iff.mp distinct
  ext template
  rw [find?_eq_some_iff distinct, find?_eq_some_iff otherDistinct,
    shuffled.mem_iff]

theorem Built.defineAll {library result : Library} {templates : List Template}
    (built : library.Built)
    (accepted : (library.defineAll templates).2 = .ok result) :
    result.Built := by
  induction templates generalizing library with
  | nil =>
      simp only [Library.defineAll, Except.ok.injEq] at accepted
      exact accepted ▸ built
  | cons template templates induction =>
      cases defined : library.define template with
      | error fault => simp [Library.defineAll, defined] at accepted
      | ok extended =>
          simp only [Library.defineAll, defined] at accepted
          exact induction (built.define defined) accepted

theorem built_of_ofTemplates {library : Library} {templates : List Template}
    (accepted : ofTemplates templates = .ok library) : library.Built :=
  Built.empty.defineAll accepted

theorem mem_templates_of_lookup {library : Library} {name : String}
    {template : Template} (found : library.lookup name = .ok template) :
    template ∈ library.templates := by
  unfold lookup at found
  split at found
  · rename_i result
    cases found
    exact (mem_and_name_of_find? result).1
  · cases found

theorem lookup_eq_error {library : Library} {name : String} {fault : Fault}
    (absent : library.lookup name = .error fault) :
    fault = .unknownTemplate name := by
  unfold lookup at absent
  split at absent
  · cases absent
  · cases absent
    rfl

theorem resolveRoot_eq_error {library : Library} {name : String} {fault : Fault}
    (unresolved : library.resolveRoot name = .error fault) :
    ∃ full, fault = .unknownTemplate full := by
  unfold resolveRoot at unresolved
  split at unresolved
  · cases unresolved
  · split at unresolved
    · split at unresolved
      · cases unresolved
      · exact ⟨_, (Except.error.inj unresolved).symm⟩
    · exact ⟨name, (Except.error.inj unresolved).symm⟩

end Library

/-! ## Notes on pages

A small library to run.  A page has an empty note and a draft, and a stub
wrongly puts a note on a node of its own.
-/

def noteTemplates : List Template :=
  [ { signature :=
        { name := "Note"
          parameters :=
            [ { name := "about", nonBlank := true },
              { name := "text", default := some (.string "empty"),
                modifier := some .cross } ] }
      body :=
        [ .triple ⟨.blank "note", .iri "about", .var "about"⟩,
          .triple ⟨.blank "note", .iri "text", .var "text"⟩ ] },
    { signature := { name := "Page", parameters := [{ name := "about" }] }
      body := [.nested "Note"
        [.term (.var "about"), .term (.list [.none, .string "draft"])]] },
    { signature := { name := "Stub" }
      body := [.nested "Note" [.term (.blank "page")]] } ]

def noteLibrary : Library :=
  { templates := noteTemplates }

theorem noteLibrary_built : noteLibrary.Built := by
  have accepted : Library.ofTemplates noteTemplates = .ok noteLibrary := rfl
  exact Library.built_of_ofTemplates accepted

def pageRoot : Instance :=
  { template := "Page", arguments := [.iri "p"] }

def stubRoot : Instance :=
  { template := "Stub" }

end RdfTemplates
