import FlowLogic.Proofs.Outcome
import FlowLogic.Proofs.Program.Subtree
import FlowLogic.Sandbox.Session

/-!
Resolution of the calls of a program.  A registry accepts a program if every call in the tree means
something, and otherwise rejects it for the first one in the order of the tree that does not.
-/

namespace FlowLogic

open Outcome

namespace Registry

/-- A call means something: the function of that name takes so many arguments, or there are none
and the name is that of a constant and of no function. -/
def Resolves (registry : Registry) (name : String) (count : Nat) : Prop :=
  (∃ spec, registry.functions.value? name = some spec ∧
      spec.builtin.arity.accepts count = true) ∨
    (registry.functions.value? name = none ∧ count = 0 ∧
      ∃ value, registry.constants.value? name = some value)

variable {registry : Registry} {name : String} {count : Nat}

theorem resolve_eq_function {builtin : Builtin}
    (resolved : registry.resolve name count = .ok (.function builtin)) :
    ∃ spec, registry.functions.value? name = some spec ∧ spec.builtin = builtin ∧
      builtin.arity.accepts count = true := by
  unfold resolve at resolved
  split at resolved
  next spec found =>
    split at resolved
    next accepted =>
      cases resolved
      exact ⟨spec, found, rfl, accepted⟩
    next => cases resolved
  next => split at resolved <;> cases resolved

theorem resolve_eq_constant {value : Json}
    (resolved : registry.resolve name count = .ok (.constant value)) :
    registry.functions.value? name = none ∧ count = 0 ∧
      registry.constants.value? name = some value := by
  unfold resolve at resolved
  split at resolved
  next => split at resolved <;> cases resolved
  next missing =>
    split at resolved
    next found =>
      cases resolved
      split at found
      next none => exact ⟨missing, none, found⟩
      next => cases found
    next => cases resolved

theorem resolves_iff :
    registry.Resolves name count ↔ ∃ callee, registry.resolve name count = .ok callee := by
  constructor
  · rintro (⟨spec, found, accepted⟩ | ⟨missing, rfl, value, found⟩)
    · exact ⟨.function spec.builtin, by simp [resolve, found, accepted]⟩
    · exact ⟨.constant value, by simp [resolve, missing, found]⟩
  · rintro ⟨callee, resolved⟩
    cases callee with
    | function builtin =>
        obtain ⟨spec, found, rfl, accepted⟩ := resolve_eq_function resolved
        exact .inl ⟨spec, found, accepted⟩
    | constant value =>
        obtain ⟨missing, none, found⟩ := resolve_eq_constant resolved
        exact .inr ⟨missing, none, value, found⟩

theorem not_resolves_iff :
    ¬ registry.Resolves name count ↔ ∃ fault, registry.resolve name count = .error fault := by
  rw [resolves_iff]
  cases registry.resolve name count <;> simp

end Registry

namespace Node

def Resolved (registry : Registry) (program : Node) : Prop :=
  ∀ name arguments, Within (.call name arguments) program →
    registry.Resolves name arguments.length

/-- The fault of the first call in the order of the tree that means nothing. -/
def FirstUnresolved (registry : Registry) (program : Node) (fault : ResolutionFault) : Prop :=
  ∃ before name arguments after,
    program.preorder = before ++ .call name arguments :: after ∧
      (∀ earlier given, .call earlier given ∈ before →
        registry.Resolves earlier given.length) ∧
      registry.resolve name arguments.length = .error fault

variable {registry : Registry} {program : Node}

theorem Resolved.child {child : Node} (resolved : program.Resolved registry)
    (member : child ∈ program.children) : child.Resolved registry :=
  fun name arguments within => resolved name arguments (.child member within)

theorem Resolved.call {name : String} {arguments : List Node}
    (resolved : (Node.call name arguments).Resolved registry) :
    registry.Resolves name arguments.length :=
  resolved name arguments .self

theorem resolved_iff_calls :
    program.Resolved registry ↔
      ∀ call ∈ program.calls, registry.Resolves call.1 call.2 := by
  constructor
  · rintro resolved ⟨name, count⟩ member
    obtain ⟨arguments, rfl, within⟩ := mem_calls.mp member
    exact resolved name arguments within
  · intro resolved name arguments within
    exact resolved (name, arguments.length) (mem_calls.mpr ⟨arguments, rfl, within⟩)

theorem checkCalls_eq_ok {calls : List (String × Nat)} :
    checkCalls registry calls = .ok () ↔ ∀ call ∈ calls, registry.Resolves call.1 call.2 := by
  induction calls with
  | nil => simp [checkCalls]
  | cons call rest ih =>
      obtain ⟨name, count⟩ := call
      rw [List.forall_mem_cons, ← ih, Registry.resolves_iff]
      cases resolved : registry.resolve name count <;> simp [checkCalls, resolved]

theorem checkCalls_first {before after : List (String × Nat)} {name : String} {count : Nat}
    {fault : ResolutionFault}
    (earlier : ∀ call ∈ before, registry.Resolves call.1 call.2)
    (unresolved : registry.resolve name count = .error fault) :
    checkCalls registry (before ++ (name, count) :: after) = .error fault := by
  induction before with
  | nil => simp [checkCalls, unresolved]
  | cons call rest ih =>
      rw [List.forall_mem_cons] at earlier
      obtain ⟨callee, resolved⟩ := Registry.resolves_iff.mp earlier.1
      simp [checkCalls, resolved, ih earlier.2]

theorem FirstUnresolved.checkCalls {fault : ResolutionFault}
    (first : program.FirstUnresolved registry fault) :
    checkCalls registry program.calls = .error fault := by
  obtain ⟨before, name, arguments, after, order, earlier, unresolved⟩ := first
  rw [calls_eq_preorder, order, List.filterMap_append, List.filterMap_cons]
  refine checkCalls_first ?_ unresolved
  rintro ⟨_, _⟩ member
  obtain ⟨node, memberBefore, called⟩ := List.mem_filterMap.mp member
  cases node <;> simp only [call?, Option.some.injEq, Prod.mk.injEq, reduceCtorEq] at called
  obtain ⟨rfl, rfl⟩ := called
  exact earlier _ _ memberBefore

theorem exists_firstUnresolved {name : String} {arguments : List Node}
    (within : Within (.call name arguments) program)
    (unresolved : ¬ registry.Resolves name arguments.length) :
    ∃ fault, program.FirstUnresolved registry fault := by
  let sound (node : Node) : Prop :=
    ∀ code given, node = .call code given → registry.Resolves code given.length
  have fault : ∃ node ∈ program.preorder, ¬ sound node :=
    ⟨_, mem_preorder.mpr within, fun resolves => unresolved (resolves _ _ rfl)⟩
  obtain ⟨before, first, after, order, earlier, unsound⟩ := exists_first fault
  simp only [sound, not_forall] at unsound
  obtain ⟨code, given, rfl, unresolvedFirst⟩ := unsound
  obtain ⟨fault, failed⟩ := Registry.not_resolves_iff.mp unresolvedFirst
  exact ⟨fault, before, code, given, after, order,
    fun _ _ member => earlier _ member _ _ rfl, failed⟩

end Node

namespace Registry

variable {registry : Registry} {program : Node}

theorem check_eq_ok : registry.check program = .ok () ↔ program.Resolved registry := by
  rw [Node.resolved_iff_calls, ← Node.checkCalls_eq_ok, check]
  cases Node.checkCalls registry program.calls <;> simp

theorem check_of_firstUnresolved {fault : ResolutionFault}
    (first : program.FirstUnresolved registry fault) :
    registry.check program = .error (.rejected fault) := by
  rw [check, first.checkCalls]

end Registry

namespace Environment

variable {env : Environment} {program : Node} (data : Bindings)

theorem execute_of_resolved (resolved : program.Resolved env.registry) :
    env.execute program data = (program.eval env data).mapError .execution := by
  rw [execute, Registry.check_eq_ok.mpr resolved, run]
  cases program.eval env data <;> rfl

theorem execute_eq_ok {value : Json} :
    env.execute program data = .ok value ↔
      program.Resolved env.registry ∧ program.eval env data = .ok value := by
  constructor
  · intro succeeded
    have resolved : program.Resolved env.registry := by
      rw [← Registry.check_eq_ok]
      unfold execute at succeeded
      split at succeeded
      next accepted => exact accepted
      next => cases succeeded
    rw [execute_of_resolved data resolved, mapError_eq_ok] at succeeded
    exact ⟨resolved, succeeded⟩
  · rintro ⟨resolved, evaluated⟩
    rw [execute_of_resolved data resolved, evaluated, mapError_ok]

theorem execute_of_firstUnresolved {fault : ResolutionFault}
    (first : program.FirstUnresolved env.registry fault) :
    env.execute program data = .error (.rejected fault) := by
  rw [execute, Registry.check_of_firstUnresolved first]

end Environment

namespace Sandbox

variable (s : Sandbox) (program : Node) (data : Bindings)

theorem execute_outcome : (s.execute program data).2 = s.env.execute program data := by
  unfold execute openSession Environment.execute
  cases s.env.registry.check program <;> rfl

theorem check_outcome : (s.check program).2 = s.env.registry.check program := by
  unfold check openSession
  cases s.env.registry.check program <;> rfl

end Sandbox

end FlowLogic
