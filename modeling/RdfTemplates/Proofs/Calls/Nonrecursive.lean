import Mathlib.Data.List.Perm.Subperm
import RdfTemplates.Proofs.Calls.Paths

/-!
# Libraries without recursion

The active calls are a path from template to template.  Where no template comes
back to itself, the path visits none twice: no call is refused because it is
active already, and there are never more active calls than definitions.  The
call of a name that is not defined may come on top of them.
-/

namespace RdfTemplates

/-- No name that is reached from this one comes back to itself. -/
def Library.NonrecursiveFrom (library : Library) (name : String) : Prop :=
  ∀ reached, library.Reaches name reached →
    ¬Relation.TransGen library.Nests reached reached

variable {library : Library} {calls : List Instance}

/-! ## Paths of defined templates -/

/-- Each call is of a template that is defined, and makes the one before it. -/
structure Library.Descends (library : Library) (calls : List Instance) :
    Prop where
  defined : ∀ call ∈ calls, library.contains call.template = true
  nested : calls.IsChain fun inner outer => library.Nests outer.template
    inner.template

theorem Library.IsPath.descends {maxDepth : Nat}
    (path : library.IsPath maxDepth calls) (built : library.Built)
    (defined : ∀ call ∈ calls, library.contains call.template = true) :
    library.Descends calls := by
  refine ⟨defined, path.called.imp_of_mem_imp ?_⟩
  intro inner outer innerMember _ called
  refine ⟨called, ?_⟩
  intro isTriple
  have present := defined inner innerMember
  rw [isTriple, built.contains_ottrTriple] at present
  cases present

namespace Library.Descends

variable (descends : library.Descends calls)

include descends

/-- Every call comes back to each of the calls inside it. -/
theorem pairwise :
    calls.Pairwise fun inner outer =>
      Relation.TransGen library.Nests outer.template inner.template := by
  let isInside (inner outer : Instance) : Prop :=
    Relation.TransGen library.Nests outer.template inner.template
  have transitive : Trans isInside isInside isInside :=
    ⟨fun first second => Relation.TransGen.trans second first⟩
  have chain : calls.IsChain isInside :=
    descends.nested.imp fun _ _ nests => .single nests
  exact List.isChain_iff_pairwise.mp chain

theorem reaches {outermost : Instance}
    (isLast : calls.getLast? = some outermost) :
    ∀ call ∈ calls, library.Reaches outermost.template call.template := by
  apply List.IsChain.backwards_induction
    (fun call => library.Reaches outermost.template call.template) calls
    descends.nested
  · intro inner outer nests reached
    exact reached.tail nests
  · intro nonempty
    rw [List.getLast?_eq_some_getLast nonempty] at isLast
    cases isLast
    exact .refl

theorem length_le
    (nonrecursive : ∀ call ∈ calls,
      ¬Relation.TransGen library.Nests call.template call.template) :
    calls.length ≤ library.templates.length := by
  have distinct : (calls.map (·.template)).Nodup := by
    rw [List.Nodup, List.pairwise_map]
    apply descends.pairwise.imp_of_mem
    intro inner outer innerMember _ comesBack same
    rw [← same] at comesBack
    exact nonrecursive inner innerMember comesBack
  have subset :
      calls.map (·.template) ⊆ library.templates.map Template.name := by
    intro name member
    obtain ⟨call, callMember, rfl⟩ := List.mem_map.mp member
    simpa [contains] using descends.defined call callMember
  simpa using (List.subperm_of_subset distinct subset).length_le

end Library.Descends

/-! ## Failures -/

namespace Failure.IsGenuine

variable {failure : Failure} {maxDepth : Nat}
  (genuine : failure.IsGenuine library maxDepth)

include genuine

theorem descends (built : library.Built)
    (known : ∀ name, failure.fault ≠ .unknownTemplate name) :
    library.Descends failure.calls := by
  apply genuine.toIsPath.descends built
  have outer := genuine.defined
  have innermost := genuine.unknown
  cases calls : failure.calls with
  | nil => exact List.forall_mem_nil _
  | cons call calls =>
      rw [calls] at outer innermost
      refine List.forall_mem_cons.mpr ⟨?_, outer⟩
      by_contra absent
      apply known call.template
      exact (innermost call rfl call.template).mpr
        ⟨Bool.eq_false_iff.mpr absent, rfl⟩

theorem comesBack_of_repeated (built : library.Built) {inst : Instance}
    (repeated : failure.fault = .cyclicExpansion inst) :
    Relation.TransGen library.Nests inst.template inst.template := by
  have descends : library.Descends failure.calls := by
    apply genuine.descends built
    intro name unknown
    rw [repeated] at unknown
    cases unknown
  obtain ⟨active, innermost, isHead, called⟩ := genuine.repeated inst repeated
  have nests : library.Nests innermost.template inst.template := by
    refine ⟨called, ?_⟩
    intro isTriple
    have present := descends.defined inst active
    rw [isTriple, built.contains_ottrTriple] at present
    cases present
  obtain ⟨inner, calls⟩ := List.head?_eq_some_iff.mp isHead
  have inside := descends.pairwise
  rw [calls] at active inside
  rcases List.mem_cons.mp active with rfl | outside
  · exact .single nests
  · exact (List.rel_of_pairwise_cons inside outside).tail nests

end Failure.IsGenuine

/-- Where no template that is reached from a root comes back to itself, the
cycle test refuses nothing, and the depth limit nothing either if it is greater
than the number of definitions. -/
theorem Expansion.outcome_nonrecursive (library : Library)
    (built : library.Built) (context : Context) (idle : context.calls = [])
    (testing : context.refusesRepeats = true) (root : Instance)
    (nonrecursive : ∀ name, library.resolveRoot root.template = .ok name →
      library.NonrecursiveFrom name) :
    (∀ inst calls, (outcome library context root).result ≠
      .error ⟨.cyclicExpansion inst, calls⟩) ∧
      (library.templates.length < context.maxDepth →
        ∀ limit calls, (outcome library context root).result ≠
          .error ⟨.depthExceeded limit, calls⟩) := by
  have located : ∀ fault calls,
      (outcome library context root).result = .error ⟨fault, calls⟩ →
        Failure.IsGenuine ⟨fault, calls⟩ library context.maxDepth ∧
          (library.Descends calls → ∀ call ∈ calls,
            ¬Relation.TransGen library.Nests call.template call.template) := by
    intro fault calls failed
    obtain ⟨last, ended⟩ := Direct.expandRoot_of_outcome built idle failed
    obtain ⟨genuine, rooted⟩ := Direct.isGenuine_of_expandRoot testing ended
    refine ⟨genuine, ?_⟩
    intro descends call member
    obtain ⟨name, resolved, isLast⟩ := rooted (List.ne_nil_of_mem member)
    exact nonrecursive name resolved call.template
      (descends.reaches isLast call member)
  constructor
  · intro inst calls failed
    obtain ⟨genuine, apart⟩ := located _ calls failed
    have descends :=
      genuine.descends built fun _ impossible => by cases impossible
    obtain ⟨active, _⟩ := genuine.repeated inst rfl
    exact apart descends inst active (genuine.comesBack_of_repeated built rfl)
  · intro deep limit calls failed
    obtain ⟨genuine, apart⟩ := located _ calls failed
    have descends :=
      genuine.descends built fun _ impossible => by cases impossible
    have bounded : calls.length ≤ library.templates.length :=
      descends.length_le (apart descends)
    have full : calls.length = context.maxDepth := (genuine.full limit rfl).2
    omega

theorem Library.nonrecursiveFrom_of_rank {library : Library}
    (rank : String → Nat)
    (lower : ∀ template ∈ library.templates, ∀ callee ∈ template.calledNames,
      callee = Vocabulary.ottrTriple ∨ rank callee < rank template.name)
    (name : String) : library.NonrecursiveFrom name := by
  have step : ∀ caller callee, library.Nests caller callee →
      rank callee < rank caller := by
    intro caller callee ⟨⟨template, found, called⟩, notTriple⟩
    obtain ⟨member, sameName⟩ := mem_and_name_of_find? found
    rcases lower template member callee called with isTriple | less
    · exact absurd isTriple notTriple
    · rwa [sameName] at less
  intro reached _ comesBack
  have less : Relation.TransGen (fun above below : Nat => below < above)
      (rank reached) (rank reached) := comesBack.lift rank step
  rw [Relation.transGen_eq_self] at less
  exact Nat.lt_irrefl _ less

/-- A group has an item in an item, and an item names a template that is not
defined. -/
def groupTemplates : List Template :=
  [ { signature := { name := "Group", parameters := [{ name := "of" }] }
      body := [.nested "Item" [.nested "Item" [.term (.var "of")]]] },
    { signature := { name := "Item", parameters := [{ name := "of" }] }
      body := [.nested "Missing" [.term (.var "of")]] } ]

def groupLibrary : Library :=
  { templates := groupTemplates }

theorem groupLibrary_built : groupLibrary.Built := by
  have accepted : Library.ofTemplates groupTemplates = .ok groupLibrary := rfl
  exact Library.built_of_ofTemplates accepted

/-- With as many calls as definitions, the limit would come before the unknown
template. -/
theorem Expansion.outcome_items :
    groupLibrary.Built ∧ groupLibrary.NonrecursiveFrom "Group" ∧
      groupLibrary.templates.length < 3 ∧
      (∀ inst calls, (outcome groupLibrary
        (.ofOptions { maxDepth := 3, blankStem := some "b" } 0)
        ⟨"Group", [.iri "p"]⟩).result ≠
        .error ⟨.cyclicExpansion inst, calls⟩) ∧
      (∀ limit calls, (outcome groupLibrary
        (.ofOptions { maxDepth := 3, blankStem := some "b" } 0)
        ⟨"Group", [.iri "p"]⟩).result ≠
        .error ⟨.depthExceeded limit, calls⟩) ∧
      (outcome groupLibrary
        (.ofOptions { maxDepth := 3, blankStem := some "b" } 0)
        ⟨"Group", [.iri "p"]⟩).result =
        .error { fault := .unknownTemplate "Missing"
                 calls := [⟨"Missing", [.iri "p"]⟩, ⟨"Item", [.iri "p"]⟩,
                   ⟨"Group", [.iri "p"]⟩] } ∧
      (outcome groupLibrary
        (.ofOptions { maxDepth := 2, blankStem := some "b" } 0)
        ⟨"Group", [.iri "p"]⟩).result =
        .error { fault := .depthExceeded 2
                 calls := [⟨"Item", [.iri "p"]⟩, ⟨"Group", [.iri "p"]⟩] } := by
  let rank (name : String) :
      Nat := if name = "Group" then 2 else if name = "Item" then 1 else 0
  have nonrecursive : ∀ name, groupLibrary.NonrecursiveFrom name :=
    Library.nonrecursiveFrom_of_rank rank (by decide)
  obtain ⟨notCyclic, notDeep⟩ :=
    outcome_nonrecursive groupLibrary groupLibrary_built
      (.ofOptions { maxDepth := 3, blankStem := some "b" } 0) rfl rfl
      ⟨"Group", [.iri "p"]⟩ fun name _ => nonrecursive name
  exact ⟨groupLibrary_built, nonrecursive "Group", by decide, notCyclic,
    notDeep (by decide), by decide +kernel, by decide +kernel⟩

end RdfTemplates
