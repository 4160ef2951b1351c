import RdfTemplates.Json.Decode
import RdfTemplates.Json.Encode

/-!
# Definitions read back from JSON

What is written as a JSON value is read back as it was.  A reader also takes
other forms of a value, and writing it again gives the normal form of them all.
-/

namespace RdfTemplates

namespace Json

variable {α : Type}

/-! ## Records -/

/-- Under its name, a member of an object with distinct names has its own
value. -/
theorem lookup_of_mem {members : List (String × Option Json)}
    (distinct : (members.map Prod.fst).Nodup) {name : String}
    {value : Option Json} (member : (name, value) ∈ members) :
    (members.filterMap fun (key, value) => value.map (key, ·)).lookup name =
      value := by
  induction members with
  | nil => cases member
  | cons first members induction =>
      obtain ⟨key, firstValue⟩ := first
      simp only [List.map_cons, List.nodup_cons] at distinct
      obtain ⟨fresh, distinct⟩ := distinct
      rcases List.mem_cons.mp member with same | later
      · cases same
        cases value with
        | some json => simp
        | none =>
            simp only [List.filterMap_cons, Option.map_none,
              List.lookup_eq_none_iff]
            intro other present
            obtain ⟨written, writtenMember, kept⟩ :=
              List.mem_filterMap.mp present
            obtain ⟨json, _, rfl⟩ := Option.map_eq_some_iff.mp kept
            have otherName : name ≠ written.1 := by
              intro same
              exact fresh (same ▸ List.mem_map_of_mem writtenMember)
            simpa using otherName
      · have other : name ≠ key := by
          intro same
          exact fresh (same ▸ List.mem_map_of_mem later)
        cases firstValue with
        | none => simpa using induction distinct later
        | some json =>
            simp only [List.filterMap_cons, Option.map_some, List.lookup_cons,
              beq_false_of_ne other]
            exact induction distinct later

/-- An object is read field by field, whichever of them have a value. -/
theorem fields?_ofMembers {members : List (String × Option Json)}
    (distinct : (members.map Prod.fst).Nodup) :
    fields? (members.map Prod.fst) (.ofMembers members) =
      some (members.map Prod.snd) := by
  simp only [fields?, ofMembers, List.map_map, Option.some.injEq]
  apply List.map_congr_left
  intro member present
  exact lookup_of_mem distinct present

theorem optionalField_map {write : α → Json} {read : Json → Option α}
    {value : Option α}
    (readBack : ∀ inner ∈ value, read (write inner) = some inner)
    (notNull : ∀ inner ∈ value, write inner ≠ .null) :
    optionalField read (value.map write) = some value := by
  cases value with
  | none => rfl
  | some inner =>
      simp [optionalField, readBack inner rfl, notNull inner rfl]

theorem listOf?_map {write : α → Json} {read : Json → Option α} {items : List α}
    (readBack : ∀ item ∈ items, read (write item) = some item) :
    listOf? read (.array (items.map write)) = some items := by
  simp only [listOf?]
  induction items with
  | nil => rfl
  | cons item items induction =>
      obtain ⟨head, tail⟩ := List.forall_mem_cons.mp readBack
      simp [head, induction tail]

end Json

/-! ## Terms -/

theorem Literal.ofJson?_toJson (literal : Literal) :
    Literal.ofJson? literal.toJson = some literal := by
  have distinct : ["value", "datatype", "language"].Nodup := by decide
  have fields : Json.fields? ["value", "datatype", "language"] literal.toJson =
      some
        [some (.string literal.value), some (.string literal.datatype),
          literal.language.map .string] :=
    Json.fields?_ofMembers distinct
  have language : Json.optionalField Json.text? (literal.language.map .string) =
      some literal.language :=
    Json.optionalField_map (fun _ _ => rfl) (fun _ _ => nofun)
  simp [Literal.ofJson?, fields, language, Json.text?, Json.fieldOr]

namespace TermPlace

theorem kindInObject?_tag (place : TermPlace) (kind : TermKind) :
    place.kindInObject? (.string (Term.kindTag kind)) = some kind := by
  cases kind <;> rfl

end TermPlace

namespace Term

theorem readAt?_tagged (place : TermPlace) (kind : TermKind) (value : Json) :
    readAt? place (tagged kind value) = readValue? place kind value := by
  simp [tagged, readAt?, TermPlace.kindIn?, TermPlace.kindInObject?_tag,
    readMembers?]

mutual

theorem readAt?_toJson (place : TermPlace) :
    ∀ term : Term, readAt? place term.toJson = some term
  | .iri name => by simp only [toJson, readAt?_tagged, readValue?]
  | .literal value => by
      simp only [toJson, readAt?_tagged, readValue?, Literal.ofJson?_toJson,
        Option.map_some]
  | .blank label => by simp only [toJson, readAt?_tagged, readValue?]
  | .var name => by simp only [toJson, readAt?_tagged, readValue?]
  | .list items => by
      simp only [toJson, readAt?_tagged, readValue?,
        readList?_toJson place items]
  | .none => by
      simp [toJson, readAt?, TermPlace.kindIn?, TermPlace.kindInObject?_tag,
        readMembers?]

theorem readList?_toJson (place : TermPlace) : ∀ items : List Term,
    readList? place (listToJson items) = some items
  | [] => by simp only [listToJson, readList?]
  | item :: items => by
      simp only [listToJson, readList?, readAt?_toJson place item,
        readList?_toJson place items]

end

theorem ofJson?_toJson (term : Term) : ofJson? term.toJson = some term :=
  readAt?_toJson .outside term

theorem listToJson_eq_map (items : List Term) :
    listToJson items = items.map toJson := by
  induction items with
  | nil => rfl
  | cons item items induction => rw [listToJson, induction, List.map_cons]

/-- Every term is written as an object. -/
theorem toJson_eq_object (term : Term) :
    ∃ members, term.toJson = .object members := by
  cases term <;> simp [toJson, tagged]

end Term

theorem Triple.readAt?_toJson (place : TermPlace) (triple : Triple) :
    Triple.readAt? place triple.toJson = some triple := by
  have fields : Json.fields? ["subject", "predicate", "object"] triple.toJson =
      some [some triple.subject.toJson, some triple.predicate.toJson,
        some triple.object.toJson] :=
    rfl
  simp [Triple.readAt?, fields, Term.readAt?_toJson]

/-! ## Signatures -/

theorem ParameterType.ofJson?_toJson (type : ParameterType) :
    ParameterType.ofJson? type.toJson = some type := by
  induction type with
  | iri => rfl
  | blank => rfl
  | any => rfl
  | literal datatype => cases datatype <;> rfl
  | list type induction => simp [toJson, ofJson?, induction]
  | nonEmptyList type induction => simp [toJson, ofJson?, induction]

theorem Modifier.ofJson?_toJson (modifier : Modifier) :
    Modifier.ofJson? modifier.toJson = some modifier := by
  cases modifier <;> rfl

theorem Parameter.ofJson?_toJson (parameter : Parameter) :
    Parameter.ofJson? parameter.toJson = some parameter := by
  have distinct : ["name", "type", "default", "modifier", "optional",
      "non_blank", "variadic"].Nodup := by
    decide
  have fields : Json.fields? ["name", "type", "default", "modifier", "optional",
      "non_blank", "variadic"] parameter.toJson =
      some [some (.string parameter.name), parameter.type.map (·.toJson),
        parameter.default.map (·.toJson), parameter.modifier.map (·.toJson),
        some (.bool parameter.optional), some (.bool parameter.nonBlank),
        some (.bool parameter.variadic)] :=
    Json.fields?_ofMembers distinct
  have type :
      Json.optionalField ParameterType.ofJson? (parameter.type.map (·.toJson)) =
        some parameter.type := by
    apply Json.optionalField_map
    · exact fun type _ => type.ofJson?_toJson
    · intro type _
      cases type <;> exact nofun
  have default :
      Json.optionalField Term.ofJson? (parameter.default.map (·.toJson)) =
        some parameter.default := by
    apply Json.optionalField_map
    · exact fun term _ => term.ofJson?_toJson
    · intro term _ isNull
      obtain ⟨members, isObject⟩ := term.toJson_eq_object
      rw [isObject] at isNull
      cases isNull
  have modifier :
      Json.optionalField Modifier.ofJson? (parameter.modifier.map (·.toJson)) =
        some parameter.modifier := by
    apply Json.optionalField_map
    · exact fun modifier _ => modifier.ofJson?_toJson
    · exact fun _ _ => nofun
  simp [Parameter.ofJson?, fields, type, default, modifier, Json.text?,
    Json.bool?, Json.fieldOr]

theorem Signature.ofJson?_toJson (signature : Signature) :
    Signature.ofJson? signature.toJson = some signature := by
  have fields : Json.fields? ["name", "parameters"] signature.toJson =
      some
        [some (.string signature.name),
          some (.array (signature.parameters.map (·.toJson)))] :=
    rfl
  have parameters : Json.listOf? Parameter.ofJson?
      (.array (signature.parameters.map (·.toJson))) =
      some signature.parameters :=
    Json.listOf?_map fun parameter _ => parameter.ofJson?_toJson
  simp [Signature.ofJson?, fields, parameters, Json.text?, Json.fieldOr]

/-! ## Templates -/

namespace Argument

mutual

/-- A term is read as a term, and an instance is never taken for one since it
has no kind. -/
theorem ofJson?_toJson :
    ∀ argument : Argument, ofJson? argument.toJson = some argument
  | .term value => by
      obtain ⟨members, isObject⟩ := value.toJson_eq_object
      have read := value.readAt?_toJson .bodyArgument
      rw [isObject] at read
      simp only [toJson, isObject, ofJson?, read]
  | .nested template arguments => by
      simp [toJson, ofJson?, Term.readAt?, TermPlace.kindIn?, argumentsIn?,
        List.lookup_cons, ofJsonList?_toJson arguments]

theorem ofJsonList?_toJson : ∀ arguments : List Argument,
    ofJsonList? (listToJson arguments) = some arguments
  | [] => by simp only [listToJson, ofJsonList?]
  | argument :: arguments => by
      simp only [listToJson, ofJsonList?, ofJson?_toJson argument,
        ofJsonList?_toJson arguments]

end

theorem listToJson_eq_map (arguments : List Argument) :
    listToJson arguments = arguments.map toJson := by
  induction arguments with
  | nil => rfl
  | cons argument arguments induction =>
      rw [listToJson, induction, List.map_cons]

end Argument

theorem Pattern.ofJson?_toJson (pattern : Pattern) :
    Pattern.ofJson? pattern.toJson = some pattern := by
  cases pattern with
  | triple parts =>
      have read : Triple.readAt? .bodyTriple
          (.object (("pattern", .string "triple") :: parts.members)) =
          some parts := parts.readAt?_toJson .bodyTriple
      simp [toJson, ofJson?, read]
  | nested template arguments =>
      have read : Json.listOf? Argument.ofJson?
          (.array (Argument.listToJson arguments)) =
          some arguments := by
        rw [Argument.listToJson_eq_map]
        exact Json.listOf?_map fun argument _ => argument.ofJson?_toJson
      simp [toJson, ofJson?, Json.fields?, List.lookup_cons, read, Json.text?,
        Json.fieldOr]

theorem Template.ofJson?_toJson (template : Template) :
    Template.ofJson? template.toJson = some template := by
  have fields : Json.fields? ["signature", "body"] template.toJson =
      some [some template.signature.toJson,
        some (.array (template.body.map (·.toJson)))] :=
    rfl
  have body :
      Json.listOf? Pattern.ofJson? (.array (template.body.map (·.toJson))) =
        some template.body :=
    Json.listOf?_map fun pattern _ => pattern.ofJson?_toJson
  simp [Template.ofJson?, fields, body, Signature.ofJson?_toJson, Json.fieldOr]

theorem Instance.ofJson?_toJson (inst : Instance) :
    Instance.ofJson? inst.toJson = some inst := by
  have fields : Json.fields? ["template", "arguments"] inst.toJson =
      some [some (.string inst.template),
        some (.array (Term.listToJson inst.arguments))] :=
    rfl
  have arguments :
      Json.listOf? Term.ofJson? (.array (Term.listToJson inst.arguments)) =
        some inst.arguments := by
    rw [Term.listToJson_eq_map]
    exact Json.listOf?_map fun term _ => term.ofJson?_toJson
  simp [Instance.ofJson?, fields, arguments, Json.text?, Json.fieldOr]

theorem Options.ofJson?_toJson (options : Options) :
    Options.ofJson? options.toJson = some options := by
  have fields : Json.fields?
      ["max-depth", "check-types", "blank-node-namespace"] options.toJson =
      some [some (.natural options.maxDepth), some (.bool options.checkTypes),
        some (.ofOption (options.blankStem.map .string))] :=
    rfl
  have blankStem : Json.optionalField Json.text?
      (some (.ofOption (options.blankStem.map .string))) =
      some options.blankStem := by
    cases options.blankStem <;> rfl
  simp [Options.ofJson?, fields, blankStem, Json.natural?, Json.bool?,
    Json.fieldOr]

/-! ## Normal forms -/

namespace Json

section Normal

variable {α : Type} (write : α → Json) (read : Json → Option α)

/-- The form that a value which can be read has when it is written again. -/
def normalForm? (json : Json) : Option Json :=
  (read json).map write

/-- Whatever is written is read back as it was, so a normal form means the same
and is its own normal form. -/
structure RoundTrips : Prop where
  read_write : ∀ value, read (write value) = some value
  read_normalForm : ∀ json normal, normalForm? write read json = some normal →
    read normal = read json
  normalForm_idem : ∀ json normal, normalForm? write read json = some normal →
    normalForm? write read normal = some normal

variable {write read}

theorem RoundTrips.of_read_write
    (readBack : ∀ value, read (write value) = some value) :
    RoundTrips write read where
  read_write := readBack
  read_normalForm := by
    intro json normal isNormal
    obtain ⟨value, read, rfl⟩ := Option.map_eq_some_iff.mp isNormal
    rw [readBack, read]
  normalForm_idem := by
    intro json normal isNormal
    obtain ⟨value, _, rfl⟩ := Option.map_eq_some_iff.mp isNormal
    rw [normalForm?, readBack, Option.map_some]

end Normal

/-- Templates with all that is in them, instances, triples and options keep
everything when they are written as JSON and read back. -/
theorem definitions_roundTrip :
    RoundTrips Template.toJson Template.ofJson? ∧
      RoundTrips Instance.toJson Instance.ofJson? ∧
      RoundTrips Triple.toJson Triple.ofJson? ∧
      RoundTrips Options.toJson Options.ofJson? := by
  refine ⟨.of_read_write ?_, .of_read_write ?_, .of_read_write ?_,
    .of_read_write ?_⟩
  · exact Template.ofJson?_toJson
  · exact Instance.ofJson?_toJson
  · exact Triple.readAt?_toJson .outside
  · exact Options.ofJson?_toJson

end Json

end RdfTemplates
