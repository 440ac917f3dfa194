import FlowLogic.Proofs.Program.Agreement
import FlowLogic.Proofs.Program.Growth
import FlowLogic.Proofs.Program.Resolution

/-!
Registration on top of what is there.  A registry is only ever extended, so a call that resolved to
a function goes on doing so.  A call of a constant does too, unless a function is registered under
the name of the constant; a program without such a call runs as it did before.
-/

namespace FlowLogic

def FunctionGroup.codes (group : FunctionGroup) : List String :=
  group.functions.entries.map Prod.fst

namespace Registry

/-- The second registry has all that the first one has, and no other functions than some under the
codes. -/
structure Extends (before : Registry) (codes : List String) (after : Registry) : Prop where
  functions : ∀ code spec, before.functions.value? code = some spec →
    after.functions.value? code = some spec
  constants : ∀ name value, before.constants.value? name = some value →
    after.constants.value? name = some value
  elsewhere : ∀ code, code ∉ codes → after.functions.value? code = before.functions.value? code

variable {before after : Registry} {count : Nat}

theorem Gains.extends {declared : Declarations} {constants : Dict Json}
    (gains : before.Gains declared constants after count) :
    before.Extends declared.keys after where
  functions := by
    intro code spec found
    rw [gains.functions, found, Option.some_or]
  constants := by
    intro name value found
    rw [gains.constants, found, Option.some_or]
  elsewhere := by
    intro code absent
    rw [gains.functions, Declarations.first?_of_not_mem absent, Option.or_none]

theorem registerGroups_extends {groups : List FunctionGroup}
    (registered : before.registerGroups groups = .ok (after, count)) :
    before.Extends (groups.flatMap FunctionGroup.codes) after := by
  have codes : (FunctionGroup.declarations groups).keys = groups.flatMap FunctionGroup.codes := by
    rw [Dict.keys, FunctionGroup.declarations, List.map_flatMap]
    exact List.flatMap_congr fun group _ => Declarations.keys_ofEntries group.name _
  exact codes ▸ (registerGroups_gains registered).extends

theorem Extends.resolve_eq {codes : List String} (grown : before.Extends codes after)
    {name : String} {arguments : Nat} {callee : Callee}
    (resolved : before.resolve name arguments = .ok callee)
    (uncovered : arguments = 0 → name ∈ codes → (before.functions.value? name).isSome) :
    after.resolve name arguments = .ok callee := by
  cases callee with
  | function builtin =>
      obtain ⟨spec, found, rfl, accepted⟩ := resolve_eq_function resolved
      simp [resolve, grown.functions name spec found, accepted]
  | constant value =>
      obtain ⟨missing, bare, found⟩ := resolve_eq_constant resolved
      have absent : name ∉ codes := by
        intro member
        simpa [missing] using uncovered bare member
      have still : after.functions.value? name = none := by
        rw [grown.elsewhere name absent, missing]
      simp [resolve, still, bare, grown.constants name value found]

end Registry

/-- Registering more leaves a program as it was, unless it calls a constant that a function of the
same code is now registered over. -/
theorem Registry.registerGroups_conservative {before after : Registry}
    {groups : List FunctionGroup} {count : Nat} {program : Node}
    (registered : before.registerGroups groups = .ok (after, count))
    (accepted : before.check program = .ok ())
    (uncovered : ∀ code ∈ groups.flatMap FunctionGroup.codes,
      Node.Within (.call code []) program → (before.functions.value? code).isSome) :
    after.check program = .ok () ∧
      ∀ clock data, (⟨after, clock⟩ : Environment).execute program data =
        (⟨before, clock⟩ : Environment).execute program data := by
  have grown := registerGroups_extends registered
  have resolved := check_eq_ok.mp accepted
  have still : ∀ name arguments, Node.Within (.call name arguments) program →
      ∃ callee, before.resolve name arguments.length = .ok callee ∧
        after.resolve name arguments.length = .ok callee := by
    intro name arguments within
    obtain ⟨callee, found⟩ := resolves_iff.mp (resolved name arguments within)
    refine ⟨callee, found, grown.resolve_eq found fun bare member => ?_⟩
    obtain rfl := List.length_eq_zero_iff.mp bare
    exact uncovered name member within
  have resolvedAfter : program.Resolved after := by
    intro name arguments within
    obtain ⟨callee, _, found⟩ := still name arguments within
    exact resolves_iff.mpr ⟨callee, found⟩
  refine ⟨check_eq_ok.mpr resolvedAfter, fun clock data => ?_⟩
  have alike : program.ResolvesAlike after before := by
    intro name arguments within
    obtain ⟨callee, found, foundAfter⟩ := still name arguments within
    rw [found, foundAfter]
  rw [Environment.execute_of_resolved data resolvedAfter,
    Environment.execute_of_resolved data resolved, Node.eval_congr alike]

theorem Registry.registerGroups_conservative_for_alias :
    ∃ (before after : Registry) (groups : List FunctionGroup) (program : Node),
      before.registerGroups groups = .ok (after, 1) ∧ before.check program = .ok () ∧
        (∀ code ∈ groups.flatMap FunctionGroup.codes,
          Node.Within (.call code []) program → (before.functions.value? code).isSome) ∧
        after.check program = .ok () ∧
        ∀ clock data, (⟨after, clock⟩ : Environment).execute program data =
          (⟨before, clock⟩ : Environment).execute program data := by
  let before : Registry :=
    ⟨(Registry.empty.addFunction "upper" "text" .plain .upper).functions, [("EOL", .str "x")]⟩
  let lowering : FunctionEntry := { FunctionEntry.plain with builtin := some "lower" }
  let groups : List FunctionGroup :=
    [⟨"g", .detailed [("shout", lowering), ("upper", lowering)], []⟩]
  let program : Node := .call "upper" [.call "EOL" []]
  have registered : before.registerGroups groups =
      .ok (before.addFunction "shout" "g" lowering .lower, 1) := rfl
  have uncovered : ∀ code ∈ groups.flatMap FunctionGroup.codes,
      Node.Within (.call code []) program → (before.functions.value? code).isSome := by
    intro code member within
    have called : (code, 0) ∈ program.calls := Node.mem_calls.mpr ⟨[], rfl, within⟩
    have constant : code = "EOL" := by simpa [program, Node.calls, Node.callsAll] using called
    subst constant
    simp [groups, FunctionGroup.codes, FunctionList.entries] at member
  exact ⟨before, _, groups, program, registered, rfl, uncovered,
    registerGroups_conservative registered rfl uncovered⟩

/-- A function that is registered over a constant takes the constant away from programs. -/
theorem Registry.constant_lost_by_registration :
    ∃ after : Registry,
      Registry.defaults.registerGroups
          [⟨"g", .detailed [("PI", { FunctionEntry.plain with builtin := some "upper" })], []⟩] =
          .ok (after, 1) ∧
        Registry.defaults.check (.call "PI" []) = .ok () ∧
        after.check (.call "PI" []) =
          .error (.rejected (.wrongArity "PI" (.exactly 1) 0)) := by
  exact ⟨_, rfl, rfl, rfl⟩

end FlowLogic
