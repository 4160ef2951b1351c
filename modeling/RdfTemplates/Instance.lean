import RdfTemplates.Term.Text

/-!
# Instances

A template name applied to arguments.  The instances that are being expanded at
one time, from the innermost outwards, are the active calls; they tell where an
expansion has failed.
-/

namespace RdfTemplates

structure Instance where
  template : String
  arguments : List Term := []
  deriving DecidableEq, Inhabited

namespace Instance

def text (inst : Instance) : String :=
  inst.template ++ argumentsText inst.arguments

end Instance

/-- One line for each active call, innermost first. -/
def callsText (calls : List Instance) : String :=
  String.join (calls.map fun call => "\n  in " ++ call.text)

end RdfTemplates
