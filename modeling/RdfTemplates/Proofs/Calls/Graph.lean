import Mathlib.Logic.Relation
import RdfTemplates.Library

/-!
# Calls between templates

The body of a template names other templates, in its nested instances and in the
instances that stand as arguments of these.
-/

namespace RdfTemplates

namespace Argument

mutual

/-- The templates that an argument has instances of. -/
def calledNames : Argument → List String
  | .term _ => []
  | .nested template arguments => template :: listCalledNames arguments

def listCalledNames : List Argument → List String
  | [] => []
  | argument :: arguments => argument.calledNames ++ listCalledNames arguments

end

end Argument

/-- The templates that an element of a body has instances of. -/
def Pattern.calledNames : Pattern → List String
  | .triple _ => []
  | .nested template arguments =>
      (Argument.nested template arguments).calledNames

/-- The templates that a body has instances of. -/
def Template.calledNames (template : Template) : List String :=
  template.body.flatMap Pattern.calledNames

theorem Template.mem_calledNames_of_mem {template : Template}
    {pattern : Pattern} {name : String} (member : pattern ∈ template.body)
    (called : name ∈ pattern.calledNames) : name ∈ template.calledNames :=
  List.mem_flatMap.mpr ⟨pattern, member, called⟩

/-- One template of a library names another one, or a name that is not
defined. -/
def Library.Calls (library : Library) (caller callee : String) : Prop :=
  ∃ template, library.find? caller = some template ∧
    callee ∈ template.calledNames

/-- One template of a library makes calls of another one.  Instances of the
built-in template are written out without a call. -/
def Library.Nests (library : Library) (caller callee : String) : Prop :=
  library.Calls caller callee ∧ callee ≠ Vocabulary.ottrTriple

/-- One name is reached from another one through the bodies of templates. -/
def Library.Reaches (library : Library) : String → String → Prop :=
  Relation.ReflTransGen library.Nests

end RdfTemplates
