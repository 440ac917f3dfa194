import FlowLogic.Proofs.Definition.Reading

/-!
Well-formed values: what compiling, binding and display take for granted about the tokens of a
value.  A value that was read is well formed, and so is every value in it.
-/

namespace FlowLogic

inductive Value.StandsIn (inner : Value) : Value → Prop
  | self : StandsIn inner inner
  | token {outer v : Value} {token : Token} (member : token ∈ outer.expression.tokens)
      (held : v ∈ token.values) (within : StandsIn inner v) : StandsIn inner outer

/-- The value is a call of nothing, without arguments and without a template around it. -/
def Value.IsEmptyCall (v : Value) : Prop :=
  ∃ label, v.expression = ⟨[.call label []], false⟩ ∧ label.callee = ""

/-- A token has a payload if it is one for display, and arguments only if it is a call. -/
structure Token.WellFormed (kind : ValueKind) (token : Token) : Prop where
  label : token.label.WellFormed kind
  payload : token.payload?.isSome = token.kind.isDisplay
  arguments : token.arguments ≠ [] → token.kind = .call
  effective : ∀ v ∈ token.arguments, ¬ v.IsEmptyCall

/-- A value has tokens, all of them written in a value of its kind. -/
structure Value.WellFormed (v : Value) : Prop where
  filled : v.expression.tokens ≠ []
  tokens : ∀ token ∈ v.expression.tokens, token.WellFormed v.kind

theorem Value.IsEmptyCall.isEmptyCall {v : Value} (empty : v.IsEmptyCall) :
    v.isEmptyCall = true := by
  obtain ⟨label, whole, unnamed⟩ := empty
  simp [Value.isEmptyCall, Expression.single?, whole, unnamed]

theorem Token.IsRead.wellFormed {origin : ValueKind} {token : Token}
    (read : token.IsRead origin) : token.WellFormed origin := by
  refine ⟨read.label, ?_, ?_, ?_⟩
  · cases token <;> rfl
  · cases token with
    | call => exact fun _ => rfl
    | field | input | display => exact fun given => absurd rfl given
  · intro v member empty
    have effective := read.effective v member
    rw [empty.isEmptyCall] at effective
    cases effective

theorem Value.IsRead.wellFormed {v : Value} (read : v.IsRead) : v.WellFormed :=
  ⟨read.tokens.1, fun token member => (read.tokens.2 token member).wellFormed⟩

theorem Value.StandsIn.isRead {inner outer : Value} (stands : inner.StandsIn outer)
    (read : outer.IsRead) : inner.IsRead := by
  induction stands with
  | self => exact read
  | token member held _ ih =>
      apply ih
      exact (read.tokens.2 _ member).values _ held

end FlowLogic
