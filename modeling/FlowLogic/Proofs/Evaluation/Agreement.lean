import FlowLogic.Evaluation.Basic
import FlowLogic.Proofs.Definition.Paths
import FlowLogic.Proofs.Definition.Results
import FlowLogic.Proofs.Program.Agreement

/-!
What the result of a definition depends on.  Two bindings in which every path that a definition
names leads to the same value, or to none, give it the same result.  The results of its chains are
then the same too, so binding them makes no difference between the two, whatever their keys hide.
-/

namespace FlowLogic

open Outcome

variable {env : Environment} {data given : Bindings}

def Environment.runBound (env : Environment) (data : Bindings) (tokens : List Token)
    (lowered : Except CompileError Node) : Except FlowError Json := do
  let bound ← (data.bind tokens).mapError .transform
  let program ← lowered.mapError .compile
  (env.execute program bound).mapError .sandbox

theorem Environment.runBound_agree {tokens : List Token} {lowered : Except CompileError Node}
    (fields : ∀ token ∈ tokens,
      data.lookup? token.label.path = given.lookup? token.label.path)
    (lookups : ∀ program path, lowered = .ok program → Node.Within (.lookup path) program →
      data.lookup? path = given.lookup? path ∨ Token.ResultPath tokens path) :
    env.runBound data tokens lowered = env.runBound given tokens lowered := by
  rcases Bindings.bind_agree fields with ⟨failure, failed, failedOther⟩ |
    ⟨bound, boundOther, extended, extendedOther, others, keys⟩
  · simp only [runBound, failed, failedOther]
  · cases compiles : lowered with
    | error refused => simp only [runBound, extended, extendedOther, mapError_ok, ok_bind,
        mapError_error, error_bind]
    | ok program =>
        have found : program.FindsAlike bound boundOther := by
          intro path within
          rcases lookups program path compiles within with same | ⟨token, member, key, keyed, rfl⟩
          · exact others path same
          · exact keys token member key keyed
        simp only [runBound, extended, extendedOther, mapError_ok, ok_bind,
          env.execute_agree found]

theorem Expression.runProgram_agree {e : Expression}
    (alike : ∀ path, e.Names path → data.lookup? path = given.lookup? path) :
    e.runProgram env data = e.runProgram env given :=
  Environment.runBound_agree (fun _ member => alike _ (names_of_chained member))
    fun _ path lowered within => (e.lookup_of_lower lowered within).imp_left (alike path)

theorem Condition.result_eq_runBound (c : Condition) :
    c.result env data = (env.runBound data c.chained c.lower).map Json.isTrue := by
  unfold result Environment.runBound
  cases data.bind c.chained with
  | error failure => rfl
  | ok bound =>
      cases c.lower with
      | error refused => rfl
      | ok program =>
          simp only [mapError_ok, ok_bind]
          cases env.execute program bound <;> rfl

theorem Condition.result_agree {c : Condition}
    (alike : ∀ path, c.Names path → data.lookup? path = given.lookup? path) :
    c.result env data = c.result env given := by
  have fields : ∀ token ∈ c.chained,
      data.lookup? token.label.path = given.lookup? token.label.path :=
    fun _ member => alike _ (names_of_chained member)
  have ran : env.runBound data c.chained c.lower = env.runBound given c.chained c.lower :=
    Environment.runBound_agree fields fun _ path lowered within =>
      (names_of_lower lowered within).imp_left (alike path)
  rw [result_eq_runBound, result_eq_runBound, ran]

mutual

theorem Value.resolve_agree (v : Value) (strict : Bool)
    (alike : ∀ path, v.Names path → data.lookup? path = given.lookup? path) :
    v.resolve env data strict = v.resolve env given strict := by
  cases v with
  | mk kind expression dataType =>
      have named : ∀ path, expression.Names path → data.lookup? path = given.lookup? path :=
        fun path inner => alike path (Value.names_of_expression inner)
      have resolved := Expression.resolve_agree expression named
      simp only [Value.resolve, resolved]

theorem Expression.resolve_agree (e : Expression)
    (alike : ∀ path, e.Names path → data.lookup? path = given.lookup? path) :
    e.resolve env data = e.resolve env given := by
  match e with
  | ⟨[.display label kind payload members], false⟩ =>
      have ids := Member.resolveAll_agree members fun v member path inner =>
        alike path ⟨_, List.mem_singleton.mpr rfl, .entry member inner⟩
      simp only [Expression.resolve, ids]
  | ⟨[.display _ _ _ _], true⟩ | ⟨[.field _], _⟩ | ⟨[.input _], _⟩ | ⟨[.call _ _], _⟩ | ⟨[], _⟩ =>
      exact Expression.runProgram_agree alike
  | ⟨first :: _ :: _, _⟩ =>
      have ran : Expression.runProgram env data _ = Expression.runProgram env given _ :=
        Expression.runProgram_agree alike
      cases first <;> exact ran

theorem Member.resolveAll_agree (members : List Member)
    (alike : ∀ v, .reference v ∈ members → ∀ path, v.Names path →
      data.lookup? path = given.lookup? path) :
    Member.resolveAll env data members = Member.resolveAll env given members := by
  cases members with
  | nil => rfl
  | cons member rest =>
      have later := Member.resolveAll_agree rest fun v inRest =>
        alike v (List.mem_cons_of_mem member inRest)
      cases member with
      | reference v =>
          have first := Value.resolve_agree v true (alike v List.mem_cons_self)
          simp only [Member.resolveAll, first, later]
      | plain id => simp only [Member.resolveAll, later]
      | blankReference => simp only [Member.resolveAll, later]
      | brokenReference error => rfl

end

/-- The result of a value or condition depends on the bindings only through the paths that the
definition names, errors included. -/
theorem Bindings.results_read_named_paths (env : Environment) (data given : Bindings) :
    (∀ v : Value, (∀ path, v.Names path → data.lookup? path = given.lookup? path) →
        v.result env data = v.result env given ∧
          v.lenientResult env data = v.lenientResult env given) ∧
      ∀ c : Condition, (∀ path, c.Names path → data.lookup? path = given.lookup? path) →
        c.result env data = c.result env given := by
  constructor
  · intro v alike
    exact ⟨v.resolve_agree true alike, v.resolve_agree false alike⟩
  · intro c alike
    exact Condition.result_agree alike

theorem Bindings.results_read_named_paths_of_template :
    ∃ (data given : Bindings) (v : Value) (c : Condition),
      data.lookup? ["a"] ≠ given.lookup? ["a"] ∧
        (∀ path, v.Names path → data.lookup? path = given.lookup? path) ∧
        (∀ path, c.Names path → data.lookup? path = given.lookup? path) ∧
        v.result ⟨.empty, 0⟩ data = v.result ⟨.empty, 0⟩ given ∧
        c.result ⟨.empty, 0⟩ data = c.result ⟨.empty, 0⟩ given := by
  let data : Bindings := [("a", .obj [("b", .arr [.null])])]
  let given : Bindings := [("a", .obj [("b", .arr [.null]), ("x", .null)]), ("z", .null)]
  let v : Value := ⟨.expression, ⟨[.field ⟨"a.b", "", .expression, some "count()", none⟩,
    .input (.ofText .expression "data['c']")], true⟩, none⟩
  let c : Condition := ⟨.or, [.truth v]⟩
  have alike : ∀ path, v.Names path → data.lookup? path = given.lookup? path := by
    rintro path ⟨member, inner⟩
    simp only [v, List.mem_cons, List.not_mem_nil, or_false] at member
    rcases member with rfl | rfl
    · cases inner with
      | field leads =>
          subst leads
          rfl
    · cases inner with
      | fragment _ read member =>
          have terms : Node.Fragment.read? "data['c']" = some [.lookup ["c"]] := rfl
          cases terms.symm.trans read
          cases List.mem_singleton.mp member
          rfl
  have alikeOperands : ∀ path, c.Names path → data.lookup? path = given.lookup? path := by
    rintro path ⟨w, ⟨member, operand⟩, named⟩
    obtain rfl := List.mem_singleton.mp member
    cases operand
    exact alike path named
  obtain ⟨values, conditions⟩ := results_read_named_paths ⟨.empty, 0⟩ data given
  refine ⟨data, given, v, c, ?_, alike, alikeOperands, (values v alike).1,
    conditions c alikeOperands⟩
  simp [data, given, lookup?, Dict.value?, Json.follow?]

end FlowLogic
