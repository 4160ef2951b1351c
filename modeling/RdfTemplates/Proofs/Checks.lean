import RdfTemplates.Binding
import RdfTemplates.Library
import RdfTemplates.Rows

/-!
# Faults of the checks

The checks that a call goes through have faults of their own kinds: one part of
them comes from definitions, another from the arguments given.
-/

namespace RdfTemplates

/-- What a fault is about. -/
inductive FaultKind where
  /-- A definition that is used in a wrong way, or itself uses something
  wrongly. -/
  | definition
  /-- Two definitions, parameters or bindings of one name, or a scope that is
  gone. -/
  | naming
  /-- The arguments of an instance. -/
  | argument
  /-- The calls that are active. -/
  | call
  /-- A triple. -/
  | triple
  deriving DecidableEq

def Fault.kind : Fault → FaultKind
  | .unknownTemplate _ | .arityMismatch .. | .unboundVariable _ => .definition
  | .duplicateTemplate _ | .duplicateBinding _ | .deadScope _ => .naming
  | .typeMismatch .. | .listLengthMismatch .. | .blankNodeNotAllowed .. =>
      .argument
  | .cyclicExpansion _ | .depthExceeded _ => .call
  | .invalidTriple .. => .triple

namespace Signature

theorem checkArity_eq_error {signature : Signature} {count : Nat}
    {fault : Fault} (refused : signature.checkArity count = .error fault) :
    ∃ reason, fault =
      .arityMismatch signature.name signature.parameters.length count
        reason := by
  unfold checkArity at refused
  dsimp only at refused
  split at refused
  · exact ⟨_, (Except.error.inj refused).symm⟩
  · split at refused
    · exact ⟨_, (Except.error.inj refused).symm⟩
    · cases refused

end Signature

theorem checkArity_of_bindArguments {signature : Signature}
    {arguments : List Term} {fault : Fault}
    (failed : bindArguments signature arguments = .error fault) :
    signature.checkArity arguments.length = .error fault := by
  unfold bindArguments at failed
  split at failed
  · cases failed
  · rename_i refused
    cases failed
    exact refused

theorem bindArguments_kind {signature : Signature} {arguments : List Term}
    {fault : Fault}
    (failed : bindArguments signature arguments = .error fault) :
    fault.kind = .definition := by
  obtain ⟨reason, rfl⟩ :=
    Signature.checkArity_eq_error (checkArity_of_bindArguments failed)
  rfl

theorem checkArgument_kind {template : String} {parameter : Parameter}
    {checkTypes : Bool} {value : Term} {fault : Fault}
    (failed : checkArgument template parameter checkTypes value =
      .error fault) :
    fault.kind = .argument := by
  simp only [checkArgument] at failed
  split at failed
  · cases failed
    rfl
  · split at failed
    · split at failed
      · cases failed
        rfl
      · cases failed
    · cases failed

theorem checkArguments_kind {template : String} {checkTypes : Bool}
    {parameters : List Parameter} {values : List Term} {fault : Fault}
    (failed : checkArguments template checkTypes parameters values =
      .error fault) :
    fault.kind = .argument := by
  induction parameters generalizing values with
  | nil => cases failed
  | cons parameter parameters induction =>
      cases values with
      | nil => cases failed
      | cons value values =>
          simp only [checkArguments] at failed
          split at failed
          · exact induction failed
          · rename_i headFailed
            cases failed
            exact checkArgument_kind headFailed

theorem zipLength_kind {template : String} {members : List ZipMember}
    {fault : Fault} (failed : zipLength template members = .error fault) :
    fault.kind = .argument := by
  unfold zipLength at failed
  split at failed
  · cases failed
  · dsimp only at failed
    split at failed
    · cases failed
    · split at failed
      · cases failed
        rfl
      · split at failed <;> cases failed

theorem expandRows_kind {template : String} {parameters : List Parameter}
    {values : List Term} {fault : Fault}
    (failed : expandRows template parameters values = .error fault) :
    fault.kind = .argument := by
  simp only [expandRows] at failed
  split at failed
  · cases failed
  · rename_i lengthFailed
    cases failed
    exact zipLength_kind lengthFailed

end RdfTemplates
