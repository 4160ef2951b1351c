import RdfTemplates.Signature
import RdfTemplates.Triple

/-!
# Templates

A template is a signature with a body: triple patterns and nested instances, in
the order in which they are expanded.  An argument of a nested instance is a
term or another instance, which is expanded first and then stands for its own
first argument.
-/

namespace RdfTemplates

/-- An argument of a nested instance. -/
inductive Argument where
  | term (term : Term)
  | nested (template : String) (arguments : List Argument)
  deriving Inhabited

namespace Argument

mutual

/-- Structural comparison. -/
def same : Argument → Argument → Bool
  | .term left, .term right => left == right
  | .nested left lefts, .nested right rights =>
      left == right && sameList lefts rights
  | _, _ => false

def sameList : List Argument → List Argument → Bool
  | [], [] => true
  | left :: lefts, right :: rights => same left right && sameList lefts rights
  | _, _ => false

end

mutual

theorem same_iff :
    ∀ left right : Argument, same left right = true ↔ left = right
  | .term _, right => by cases right <;> simp [same]
  | .nested _ lefts, right => by
      cases right with
      | term => simp [same]
      | nested _ rights => simp [same, sameList_iff lefts rights]

theorem sameList_iff :
    ∀ left right : List Argument, sameList left right = true ↔ left = right
  | [], right => by cases right <;> simp [sameList]
  | left :: lefts, right => by
      cases right with
      | nil => simp [sameList]
      | cons right rights =>
          simp [sameList, same_iff left right, sameList_iff lefts rights]

end

instance : DecidableEq Argument := fun left right =>
  decidable_of_iff _ (same_iff left right)

end Argument

/-- One element of a template body. -/
inductive Pattern where
  | triple (triple : Triple)
  | nested (template : String) (arguments : List Argument)
  deriving DecidableEq, Inhabited

structure Template where
  signature : Signature
  body : List Pattern := []
  deriving DecidableEq, Inhabited

namespace Template

def name (template : Template) : String :=
  template.signature.name

/-- The template with one more pattern at the end of its body. -/
def addPattern (template : Template) (pattern : Pattern) : Template :=
  { template with body := template.body ++ [pattern] }

end Template

end RdfTemplates
