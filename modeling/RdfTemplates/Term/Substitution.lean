import RdfTemplates.Term

/-!
# Substitution

Replacing the variables of a term, all at once: a replacement is not looked into
again.
-/

namespace RdfTemplates.Term

mutual

/-- The term with each variable replaced as `lookup` says, or the first variable
that `lookup` does not know. -/
def substitute (lookup : String → Option Term) : Term → Except String Term
  | .var name =>
      match lookup name with
      | some value => .ok value
      | Option.none => .error name
  | .list items =>
      match substituteList lookup items with
      | .ok items => .ok (.list items)
      | .error name => .error name
  | .iri name => .ok (.iri name)
  | .literal value => .ok (.literal value)
  | .blank label => .ok (.blank label)
  | .none => .ok .none

def substituteList (lookup : String → Option Term) :
    List Term → Except String (List Term)
  | [] => .ok []
  | item :: items =>
      match item.substitute lookup with
      | .error name => .error name
      | .ok item =>
          match substituteList lookup items with
          | .ok items => .ok (item :: items)
          | .error name => .error name

end

end RdfTemplates.Term
