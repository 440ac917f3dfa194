import FlowLogic.Proofs.Condition.Lowering
import FlowLogic.Proofs.Definition.Chains

/-!
Results of conditions.  A condition that was read and accepted gives the verdict of its tree on the
bindings with the results of its chains, unless one of the chains fails.
-/

namespace FlowLogic.Condition

open Outcome

theorem validate_eq_ok {registry : Registry} {c : Condition} {program : Node}
    (valid : c.validate registry = .ok program) :
    c.lower = .ok program ∧ program.Resolved registry := by
  simp only [validate, bind_eq_ok, mapError_eq_ok] at valid
  obtain ⟨lowered, compiles, _, checked, returned⟩ := valid
  cases returned
  exact ⟨compiles, Registry.check_eq_ok.mp checked⟩

theorem readChecked_eq_some {registry : Registry} {document : Json} {c : Condition}
    (accepted : readChecked registry document = .ok (some c)) :
    readAt [] document = .ok (some c) ∧
      ∃ program, c.lower = .ok program ∧ program.Resolved registry := by
  simp only [readChecked, bind_eq_ok, mapError_eq_ok] at accepted
  obtain ⟨_ | condition, described, accepted⟩ := accepted
  · cases accepted
  · simp only [bind_eq_ok] at accepted
    obtain ⟨program, valid, returned⟩ := accepted
    cases returned
    exact ⟨described, program, validate_eq_ok valid⟩

variable {env : Environment} {document : Json} {c : Condition}

theorem result_of_lowered {program : Node} (lowered : c.lower = .ok program)
    (resolved : program.Resolved env.registry) (owned : ∀ v, Operand v c → v.OwnsTokens)
    {data bound : Bindings} (extended : data.bind c.chained = .ok bound) :
    c.result env data = c.verdict env bound := by
  rw [← eval_lower c lowered resolved owned]
  simp only [result, extended, lowered, mapError_ok, ok_bind,
    Environment.execute_of_resolved bound resolved]
  cases program.eval env bound <;> rfl

theorem result_of_bound (accepted : readChecked env.registry document = .ok (some c))
    {data bound : Bindings} (extended : data.bind c.chained = .ok bound) :
    c.result env data = c.verdict env bound := by
  obtain ⟨described, program, lowered, resolved⟩ := readChecked_eq_some accepted
  apply result_of_lowered lowered resolved _ extended
  intro v operand
  obtain ⟨path, source, read⟩ := readAt_operands document described operand
  exact Value.readAt_ownsTokens read

/-- The token stands in an operand, in groups and calls of any depth. -/
def Mentions (token : Token) (c : Condition) : Prop :=
  ∃ v, Operand v c ∧ v.Mentions token

theorem mem_chained_iff_mentions {token : Token} :
    token ∈ c.chained ↔ token.IsChained ∧ c.Mentions token := by
  simp only [mem_chained, Value.mem_chained, Mentions]
  constructor
  · rintro ⟨v, operand, chained, mentions⟩
    exact ⟨chained, v, operand, mentions⟩
  · rintro ⟨chained, v, operand, mentions⟩
    exact ⟨v, operand, chained, mentions⟩

def ChainFails (data : Bindings) (c : Condition) : Prop :=
  ∃ label failure, c.Mentions (.field label) ∧ label.ChainFails data failure

theorem chainFails_iff {data : Bindings} :
    c.ChainFails data ↔
      ∃ token ∈ c.chained, ¬ ∀ failure, ¬ token.label.ChainFails data failure := by
  simp only [not_forall, not_not]
  constructor
  · rintro ⟨label, failure, mentions, fails⟩
    exact ⟨.field label, mem_chained_iff_mentions.mpr ⟨fails.isChained, mentions⟩, failure, fails⟩
  · rintro ⟨token, member, failure, fails⟩
    obtain ⟨chained, mentions⟩ := mem_chained_iff_mentions.mp member
    obtain ⟨label, rfl⟩ := chained.exists_field
    exact ⟨label, failure, mentions, fails⟩

/-- What a condition that was accepted gives on all bindings.  The chains of all its fields are
applied first, and one that fails ends the evaluation.  If none does, the result is the verdict of
the tree, and evaluation fails just where it comes to a leaf that fails. -/
theorem result_eq_verdict (accepted : readChecked env.registry document = .ok (some c))
    (data : Bindings) :
    (c.ChainFails data →
      ∃ before label after failure, c.chained = before ++ .field label :: after ∧
        (∀ earlier ∈ before, ∀ other, ¬ earlier.label.ChainFails data other) ∧
        label.ChainFails data failure ∧ c.result env data = .error (.transform failure)) ∧
      (¬ c.ChainFails data →
        ∃ bound, data.bind c.chained = .ok bound ∧ c.result env data = c.verdict env bound ∧
          ∀ e, c.result env data = .error e ↔
            ∃ leaf : ConditionChild, leaf.IsLeaf ∧ Reaches env bound leaf c ∧
              leaf.verdict env bound = .error e) := by
  constructor
  · intro fails
    obtain ⟨before, token, after, split, earlier, failsToken⟩ :=
      exists_first (chainFails_iff.mp fails)
    simp only [not_forall, not_not] at failsToken
    obtain ⟨failure, failsToken⟩ := failsToken
    have member : token ∈ c.chained := by simp [split]
    obtain ⟨label, rfl⟩ := (mem_chained_iff_mentions.mp member).1.exists_field
    refine ⟨before, label, after, failure, split, earlier, failsToken, ?_⟩
    have refused : data.bind c.chained = .error failure := by
      rw [split, Bindings.bind, Bindings.extend_eq_error earlier failsToken]
    simp only [result, refused, mapError_error, error_bind]
  · intro sound
    have none : ∀ token ∈ c.chained, ∀ failure, ¬ token.label.ChainFails data failure := by
      rw [chainFails_iff] at sound
      simpa using sound
    obtain ⟨bound, extended⟩ := Bindings.extend_eq_ok none data
    have agrees := result_of_bound accepted extended
    exact ⟨bound, extended, agrees, fun e => by rw [agrees, verdict_eq_error]⟩

theorem result_eq_verdict_of_settled_group :
    ∃ (document : Json) (c : Condition),
      readChecked Registry.empty document = .ok (some c) ∧
        (∃ failure, c.result ⟨.empty, 0⟩ [("tags", .str "x")] = .error (.transform failure)) ∧
        ∃ bound, c.result ⟨.empty, 0⟩ [("tags", .arr [])] = c.verdict ⟨.empty, 0⟩ bound := by
  let document : Json := .obj [("ops", .str "or"), ("children", .arr [
    .obj [("operands", .obj [("const_value", .arr [
      .obj [("type", .str "input"), ("value", .str "yes")]])])],
    .obj [("operands", .obj [("expression_value", .arr [
      .obj [("type", .str "field"), ("value", .str "tags"), ("trans", .str "count()")]])])]])]
  let settling : Value := ⟨.const, ⟨[.input (.ofText .const "yes")], false⟩, none⟩
  let counting : Value :=
    ⟨.expression, ⟨[.field ⟨"tags", "", .expression, some "count()", none⟩], false⟩, none⟩
  let c : Condition := ⟨.or, [.truth settling, .truth counting]⟩
  have failed : Label.ChainFails [("tags", .str "x")]
      ⟨"tags", "", .expression, some "count()", none⟩ (.wrongKind .count .string) :=
    ⟨_, rfl, rfl⟩
  have counts : Label.transformed [("tags", .arr [])]
      ⟨"tags", "", .expression, some "count()", none⟩ "count()" = .ok (.ofNat 0) := rfl
  have accepted : readChecked (Environment.registry ⟨.empty, 0⟩) document = .ok (some c) := rfl
  refine ⟨document, c, accepted, ?_, ?_⟩
  · have fails : c.ChainFails [("tags", .str "x")] :=
      chainFails_iff.mpr ⟨_, List.mem_singleton.mpr rfl, fun sound => sound _ failed⟩
    obtain ⟨_, _, _, failure, _, _, _, refused⟩ := (result_eq_verdict accepted _).1 fails
    exact ⟨failure, refused⟩
  · have sound : ¬ c.ChainFails [("tags", .arr [])] := by
      rw [chainFails_iff]
      rintro ⟨token, member, fails⟩
      obtain rfl := List.mem_singleton.mp member
      refine fails ?_
      rintro failure ⟨chain, same, failed⟩
      cases same
      cases counts.symm.trans failed
    obtain ⟨bound, _, agrees, _⟩ := (result_eq_verdict accepted _).2 sound
    exact ⟨bound, agrees⟩

end FlowLogic.Condition
