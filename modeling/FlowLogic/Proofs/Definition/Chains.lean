import FlowLogic.Definition.Binding
import FlowLogic.Proofs.Outcome
import Mathlib.Data.List.Basic

/-!
Chains of transforms in definitions.  The collected tokens are the fields with a chain anywhere in a
value, and binding them succeeds unless a chain fails, when it ends with the failure of the first
that does.
-/

namespace FlowLogic

open Outcome

inductive Value.Mentions (token : Token) : Value → Prop
  | direct {v : Value} (member : token ∈ v.expression.tokens) : Mentions token v
  | argument {v w : Value} {label : Label} {arguments : List Value}
      (call : .call label arguments ∈ v.expression.tokens) (member : w ∈ arguments)
      (inner : Mentions token w) : Mentions token v

namespace Token

def IsChained : Token → Prop
  | .field label => label.chain.isSome
  | _ => False

theorem IsChained.exists_field {token : Token} (chained : token.IsChained) :
    ∃ label, token = .field label := by
  cases token with
  | field label => exact ⟨label, rfl⟩
  | input | call | display => exact chained.elim

def Holds (token outer : Token) : Prop :=
  token = outer ∨ ∃ w ∈ outer.arguments, Value.Mentions token w

theorem holds_iff_eq {token outer : Token} (leaf : outer.arguments = []) :
    token.Holds outer ↔ token = outer := by
  simp [Holds, leaf]

end Token

theorem Value.mentions_iff {token : Token} {v : Value} :
    Mentions token v ↔ ∃ outer ∈ v.expression.tokens, token.Holds outer := by
  constructor
  · rintro (member | ⟨call, member, inner⟩)
    · exact ⟨token, member, .inl rfl⟩
    · exact ⟨_, call, .inr ⟨_, member, inner⟩⟩
  · rintro ⟨outer, member, rfl | ⟨w, memberArguments, inner⟩⟩
    · exact .direct member
    · cases outer with
      | call label arguments => exact .argument member memberArguments inner
      | field | input | display => simp [Token.arguments] at memberArguments

mutual

theorem Token.mem_chained {token : Token} (outer : Token) :
    token ∈ outer.chained ↔ token.IsChained ∧ token.Holds outer := by
  cases outer with
  | field label =>
      rw [Token.holds_iff_eq rfl, Token.chained]
      constructor
      · intro member
        split at member
        next chained =>
          obtain rfl := List.mem_singleton.mp member
          exact ⟨chained, rfl⟩
        next => cases member
      · rintro ⟨chained, rfl⟩
        have present : label.chain.isSome = true := chained
        rw [if_pos present, List.mem_singleton]
  | input | display =>
      rw [Token.holds_iff_eq rfl]
      simp only [Token.chained, List.not_mem_nil, false_iff, not_and]
      rintro chained rfl
      exact chained
  | call label arguments =>
      rw [Token.chained, Value.mem_chainedAll arguments]
      simp only [Token.Holds, Token.arguments]
      constructor
      · rintro ⟨chained, found⟩
        exact ⟨chained, .inr found⟩
      · rintro ⟨chained, rfl | found⟩
        · exact chained.elim
        · exact ⟨chained, found⟩

theorem Token.mem_chainedAll {token : Token} (tokens : List Token) :
    token ∈ Token.chainedAll tokens ↔
      token.IsChained ∧ ∃ outer ∈ tokens, token.Holds outer := by
  cases tokens with
  | nil => simp [Token.chainedAll]
  | cons first rest =>
      rw [Token.chainedAll, List.mem_append, Token.mem_chained first,
        Token.mem_chainedAll rest, List.exists_mem_cons_iff, and_or_left]

theorem Value.mem_chained {token : Token} (v : Value) :
    token ∈ v.chained ↔ token.IsChained ∧ v.Mentions token := by
  cases v with
  | mk kind expression dataType =>
      cases expression with
      | mk tokens template =>
          rw [Value.mentions_iff, Value.chained, Expression.chained, Token.mem_chainedAll tokens]

theorem Value.mem_chainedAll {token : Token} (values : List Value) :
    token ∈ Value.chainedAll values ↔
      token.IsChained ∧ ∃ v ∈ values, Value.Mentions token v := by
  cases values with
  | nil => simp [Value.chainedAll]
  | cons first rest =>
      rw [Value.chainedAll, List.mem_append, Value.mem_chained first,
        Value.mem_chainedAll rest, List.exists_mem_cons_iff, and_or_left]

end

def Label.ChainFails (data : Bindings) (label : Label) (failure : TransformError) : Prop :=
  ∃ chain, label.chain = some chain ∧ label.transformed data chain = .error failure

theorem Label.ChainFails.isChained {data : Bindings} {label : Label} {failure : TransformError}
    (fails : label.ChainFails data failure) : (Token.field label).IsChained := by
  obtain ⟨chain, chained, _⟩ := fails
  exact Option.isSome_iff_exists.mpr ⟨chain, chained⟩

namespace Bindings

variable {data : Bindings}

theorem extend_cons_of_fails {token : Token} {failure : TransformError}
    (fails : token.label.ChainFails data failure) (bound : Bindings) (rest : List Token) :
    extend data bound (token :: rest) = .error failure := by
  obtain ⟨chain, chained, failed⟩ := fails
  simp [extend, chained, Label.chainKey?, failed]

theorem extend_cons_of_sound {token : Token}
    (sound : ∀ failure, ¬ token.label.ChainFails data failure) (bound : Bindings) :
    ∃ next, ∀ rest, extend data bound (token :: rest) = extend data next rest := by
  cases chained : token.label.chain with
  | none => exact ⟨bound, fun rest => by simp [extend, chained]⟩
  | some chain =>
      cases result : token.label.transformed data chain with
      | error failure => exact absurd ⟨chain, chained, result⟩ (sound failure)
      | ok value =>
          let key := Label.bindingKey (Text.joinTexts "." token.label.path) chain
          exact ⟨bound.put key value, fun rest => by
            simp [extend, chained, Label.chainKey?, result, key]⟩

theorem extend_eq_ok {tokens : List Token}
    (sound : ∀ token ∈ tokens, ∀ failure, ¬ token.label.ChainFails data failure)
    (bound : Bindings) : ∃ extended, extend data bound tokens = .ok extended := by
  induction tokens generalizing bound with
  | nil => exact ⟨bound, rfl⟩
  | cons token rest ih =>
      rw [List.forall_mem_cons] at sound
      obtain ⟨next, step⟩ := extend_cons_of_sound sound.1 bound
      rw [step]
      exact ih sound.2 next

theorem extend_eq_error {before after : List Token} {token : Token} {failure : TransformError}
    (earlier : ∀ token ∈ before, ∀ failure, ¬ token.label.ChainFails data failure)
    (fails : token.label.ChainFails data failure) (bound : Bindings) :
    extend data bound (before ++ token :: after) = .error failure := by
  induction before generalizing bound with
  | nil => exact extend_cons_of_fails fails bound after
  | cons first rest ih =>
      rw [List.forall_mem_cons] at earlier
      obtain ⟨next, step⟩ := extend_cons_of_sound earlier.1 bound
      rw [List.cons_append, step]
      exact ih earlier.2 next

end Bindings

end FlowLogic
