import RdfTemplates.Proofs.Watched.Regularity

/-!
# Declarations of parameters, as bodies see them

The values of a call are checked as a whole, before lists are spread over rows.
Whenever a body is walked, the value of each parameter honours its declaration,
unless it is a default put in for an absent item, which comes after the check.
-/

namespace RdfTemplates

/-- Whenever a body is walked, it is walked for a row over which the innermost
call is spread, and something holds of what the row has for each parameter and
of the value that the body sees. -/
def Expansion.BindsThroughout (library : Library) (context : Context)
    (root : Instance) (holds : Parameter → Term → Term → Prop) : Prop :=
  ∀ sight ∈ sights library context root, ∀ template scope,
    sight.moment = .walking template scope →
      ∃ call row,
        sight.Repeats library context.checkTypes template scope call row ∧
          ∀ parameter ∈ template.signature.parameters, ∃ item value,
            Direct.rowValue template.signature.parameters row parameter.name =
              some item ∧
              sight.context.scopes.lookup scope parameter.name = some value ∧
              holds parameter item value

theorem Expansion.BindsThroughout.imp {library : Library} {context : Context}
    {root : Instance} {holds implied : Parameter → Term → Term → Prop}
    (binds : BindsThroughout library context root holds)
    (implies : ∀ template ∈ library.templates,
      ∀ parameter ∈ template.signature.parameters, ∀ item value,
        holds parameter item value → implied parameter item value) :
    BindsThroughout library context root implied := by
  intro sight seen template scope walking
  obtain ⟨call, row, repeats, bound⟩ := binds sight seen template scope walking
  refine ⟨call, row, repeats, ?_⟩
  intro parameter declared
  obtain ⟨item, value, itemFound, valueFound, itemHolds⟩ :=
    bound parameter declared
  have defined := Library.mem_templates_of_lookup repeats.defined
  exact ⟨item, value, itemFound, valueFound,
    implies template defined parameter declared item value itemHolds⟩

theorem Expansion.not_bindsThroughout {library : Library} {context : Context}
    {root : Instance} {holds : Parameter → Term → Term → Prop} {sight : Sight}
    {template : Template} {scope : ScopeId} {parameter : Parameter}
    {value : Term} (seen : sight ∈ sights library context root)
    (walking : sight.moment = .walking template scope)
    (declared : parameter ∈ template.signature.parameters)
    (found : sight.context.scopes.lookup scope parameter.name = some value)
    (fails : ∀ item, ¬holds parameter item value) :
    ¬BindsThroughout library context root holds := by
  intro binds
  obtain ⟨_, _, _, bound⟩ := binds sight seen template scope walking
  obtain ⟨item, other, _, otherFound, otherHolds⟩ := bound parameter declared
  cases found.symm.trans otherFound
  exact fails item otherHolds

/-- The defaults of parameters whose lists are spread are as their own
declarations ask. -/
def Library.HasDeclaredDefaults (library : Library) (checkTypes : Bool) :
    Prop :=
  ∀ template ∈ library.templates, ∀ parameter ∈ template.signature.parameters,
    parameter.modifier.isSome = true →
      ∀ value, parameter.default = some value →
        parameter.Admits checkTypes value

theorem Library.preserves_all (library : Library) :
    library.Preserves fun _ => True where
  absent := trivial
  list := by simp
  default := by simp
  substitute := by simp

/-- Whenever a body is walked, the value of each parameter is as declared or a
default put in for an absent item; where such defaults are as declared, all
values are. -/
theorem Expansion.bindsThroughout_declared (library : Library)
    (built : library.Built) (context : Context) (root : Instance) :
    Watched.forget (Watched.expandRoot library root { state := { context } }) =
      expandRoot library root { context } ∧
      BindsThroughout library context root (fun parameter item value =>
        parameter.Admits context.checkTypes value ∨
          parameter.IsPutIn item value) ∧
      (library.HasDeclaredDefaults context.checkTypes →
        BindsThroughout library context root fun parameter _ value =>
          parameter.Admits context.checkTypes value) := by
  have passes :
      BindsThroughout library context root (fun parameter item value =>
        parameter.Admits context.checkTypes value ∨
          parameter.IsPutIn item value) := by
    have circulating :
        Circulating (fun _ => True) context.scopes context.calls :=
      ⟨fun _ _ _ _ => trivial, fun _ _ _ _ => trivial⟩
    have regular : ∀ sight ∈ sights library context root,
        sight.Regular (.ofContext library context) fun _ => True :=
      (sights_regular built library.preserves_all circulating
        fun _ _ _ => trivial).1
    intro sight seen template scope walking
    obtain ⟨call, row, repeats⟩ :=
      (regular sight seen).repetition template scope walking
    refine ⟨call, row, repeats, ?_⟩
    have distinct := built.parameterNames_nodup template
      (Library.mem_templates_of_lookup repeats.defined)
    intro parameter declared
    obtain ⟨item, found, filled, passesWith⟩ :=
      Direct.rowValue_of_forall₂ distinct repeats.hasRow.passesWith
        parameter declared
    have seenValue := (repeats.lookup parameter.name).trans filled
    exact ⟨item, parameter.filled item, found, seenValue, passesWith⟩
  refine ⟨Watched.Shows.expandRoot library root _, passes, ?_⟩
  intro declaredDefaults
  apply passes.imp
  rintro template defined parameter declared item value (admits | putIn)
  · exact admits
  · exact declaredDefaults template defined parameter declared putIn.spread
      value putIn.default

theorem Expansion.bindsThroughout_page :
    noteLibrary.Built ∧ noteLibrary.HasDeclaredDefaults true ∧
      BindsThroughout noteLibrary (.ofOptions { blankStem := some "b" } 0)
        pageRoot (fun parameter _ value => parameter.Admits true value) ∧
      ((sights noteLibrary (.ofOptions { blankStem := some "b" } 0)
          pageRoot).filterMap
          fun sight => match sight.moment with
            | .walking template scope =>
                some (template.name, sight.context.scopes.lookup scope "text")
            | _ => none) =
        [("Note", some (.string "draft")), ("Note", some (.string "empty")),
          ("Page", none)] := by
  have declaredDefaults : noteLibrary.HasDeclaredDefaults true := by
    intro template defined parameter declared spread value isDefault
    simp only [noteLibrary, noteTemplates, List.mem_cons, List.not_mem_nil,
      or_false] at defined
    rcases defined with rfl | rfl | rfl
    · rcases List.mem_cons.mp declared with rfl | later
      · cases spread
      · cases List.mem_singleton.mp later
        cases isDefault
        exact ⟨by simp, by simp⟩
    · cases List.mem_singleton.mp declared
      cases spread
    · cases declared
  have binds := bindsThroughout_declared noteLibrary noteLibrary_built
    (.ofOptions { blankStem := some "b" } 0) pageRoot
  exact ⟨noteLibrary_built, declaredDefaults, binds.2.2 declaredDefaults,
    by decide +kernel⟩

/-! ## Defaults that are not as declared -/

/-- The default of one parameter is a blank node, which it refuses, and that of
another a literal for an IRI. -/
def blankDefault : Parameter :=
  { name := "x", default := some (.blank "b"), modifier := some .cross,
    nonBlank := true }

def literalDefault : Parameter :=
  { name := "y", type := some .iri, default := some (.string "d"),
    modifier := some .zipMax }

def blankDefaultTemplate : Template :=
  { signature := { name := "T", parameters := [blankDefault] }
    body := [.triple ⟨.var "x", .iri "p", .iri "a"⟩] }

def literalDefaultTemplate : Template :=
  { signature :=
      { name := "U", parameters :=
          [literalDefault, { name := "z", modifier := some .zipMax }] }
    body := [.triple ⟨.var "z", .iri "p", .var "y"⟩] }

def wrongDefaultLibrary : Library :=
  { templates := [blankDefaultTemplate, literalDefaultTemplate] }

/-- The blank node is refused if the argument is left out, but neither it nor
the literal is where an item is absent or a list too short. -/
theorem Expansion.not_bindsThroughout_wrongDefault :
    wrongDefaultLibrary.Built ∧
      (outcome wrongDefaultLibrary (.ofOptions { blankStem := some "c" } 0)
        ⟨"T", []⟩).result =
        .error { fault := .blankNodeNotAllowed "T" "x" (.blank "b"),
                 calls := [⟨"T", []⟩] } ∧
      (outcome wrongDefaultLibrary (.ofOptions { blankStem := some "c" } 0)
        ⟨"T", [.list [.none]]⟩).result =
        .ok [⟨.blank "b", .iri "p", .iri "a"⟩] ∧
      ¬BindsThroughout wrongDefaultLibrary
        (.ofOptions { blankStem := some "c" } 0) ⟨"T", [.list [.none]]⟩
        (fun parameter _ value => parameter.Admits true value) ∧
      ¬BindsThroughout wrongDefaultLibrary
        (.ofOptions { blankStem := some "c" } 0)
        ⟨"U", [.list [], .list [.iri "a"]]⟩
        fun parameter _ value => parameter.Admits true value := by
  have accepted :
      Library.ofTemplates [blankDefaultTemplate, literalDefaultTemplate] =
        .ok wrongDefaultLibrary := rfl
  refine ⟨Library.built_of_ofTemplates accepted, by decide +kernel,
    by decide +kernel, ?_, ?_⟩
  · let sight : Sight :=
      { moment := .walking blankDefaultTemplate 1
        context :=
          { labels := ⟨"c", 0⟩
            scopes :=
              ⟨[{ parent := some 0 }, { bindings := [("x", .blank "b")] }]⟩
            calls := [⟨"T", [.list [.none]]⟩] } }
    have seen : sight ∈
        sights wrongDefaultLibrary (.ofOptions { blankStem := some "c" } 0)
          ⟨"T", [.list [.none]]⟩ := by
      decide +kernel
    have found : sight.context.scopes.lookup 1 "x" = some (.blank "b") := by
      decide +kernel
    have fails : ¬blankDefault.Admits true (.blank "b") := by
      intro admits
      cases admits.nonBlank rfl
    exact not_bindsThroughout seen rfl List.mem_cons_self found fun _ => fails
  · let sight : Sight :=
      { moment := .walking literalDefaultTemplate 1
        context :=
          { labels := ⟨"c", 0⟩
            scopes :=
              ⟨[{ parent := some 0, bindings := [("z", .iri "a")] },
                { bindings := [("y", .string "d")] }]⟩
            calls := [⟨"U", [.list [], .list [.iri "a"]]⟩] } }
    have seen : sight ∈
        sights wrongDefaultLibrary (.ofOptions { blankStem := some "c" } 0)
          ⟨"U", [.list [], .list [.iri "a"]]⟩ := by
      decide +kernel
    have found : sight.context.scopes.lookup 1 "y" = some (.string "d") := by
      decide +kernel
    have fails : ¬literalDefault.Admits true (.string "d") := by
      intro admits
      cases admits.type rfl rfl .iri rfl rfl
    exact not_bindsThroughout seen rfl List.mem_cons_self found fun _ => fails

end RdfTemplates
