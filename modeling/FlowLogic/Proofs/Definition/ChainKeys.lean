import FlowLogic.Proofs.Definition.BoundFields
import FlowLogic.Proofs.Definition.Lowering
import FlowLogic.Proofs.Definition.Reading
import FlowLogic.Proofs.Definition.Results
import FlowLogic.Proofs.Program.Subtree

/-!
The keys of chains.  Binding and compiling walk through a value each on its own: the one collects
the fields with a chain, the other looks every field up.  Both visit the same tokens in the same
order, so what is bound is what is looked up.
-/

namespace FlowLogic

open Outcome

mutual

/-- The tokens of the value that are no calls, in the order of the document; the arguments of a call
stand in its place. -/
def Value.leaves : Value → List Token
  | ⟨_, ⟨tokens, _⟩, _⟩ => Token.leavesAll tokens

def Value.leavesAll : List Value → List Token
  | [] => []
  | value :: rest => value.leaves ++ Value.leavesAll rest

def Token.leaves : Token → List Token
  | .call _ arguments => Value.leavesAll arguments
  | .field label => [.field label]
  | .input label => [.input label]
  | .display label kind payload members => [.display label kind payload members]

def Token.leavesAll : List Token → List Token
  | [] => []
  | token :: rest => token.leaves ++ Token.leavesAll rest

end

instance : DecidablePred Token.IsChained
  | .field label => inferInstanceAs (Decidable (label.chain.isSome = true))
  | .input _ | .call _ _ | .display _ _ _ _ => inferInstanceAs (Decidable False)

def Token.withChain (tokens : List Token) : List Token := tokens.filter fun token => token.IsChained

theorem Token.withChain_singleton (token : Token) :
    withChain [token] = if token.IsChained then [token] else [] := by
  simp [withChain, List.filter_cons]

theorem Token.withChain_append (tokens others : List Token) :
    withChain (tokens ++ others) = withChain tokens ++ withChain others :=
  List.filter_append tokens others

mutual

theorem Value.chained_eq (v : Value) : v.chained = Token.withChain v.leaves := by
  cases v with
  | mk kind expression dataType =>
      cases expression with
      | mk tokens template =>
          rw [Value.chained, Expression.chained, Value.leaves]
          exact Token.chainedAll_eq tokens

theorem Value.chainedAll_eq (values : List Value) :
    Value.chainedAll values = Token.withChain (Value.leavesAll values) := by
  cases values with
  | nil => rfl
  | cons value rest =>
      rw [Value.chainedAll, Value.leavesAll, Token.withChain_append, Value.chained_eq value,
        Value.chainedAll_eq rest]

theorem Token.chained_eq (token : Token) : token.chained = Token.withChain token.leaves := by
  cases token with
  | field label =>
      rw [Token.chained, Token.leaves, Token.withChain_singleton]
      rfl
  | input | display =>
      rw [Token.chained, Token.leaves, Token.withChain_singleton]
      exact (if_neg id).symm
  | call label arguments =>
      rw [Token.chained, Token.leaves]
      exact Value.chainedAll_eq arguments

theorem Token.chainedAll_eq (tokens : List Token) :
    Token.chainedAll tokens = Token.withChain (Token.leavesAll tokens) := by
  cases tokens with
  | nil => rfl
  | cons token rest =>
      rw [Token.chainedAll, Token.leavesAll, Token.withChain_append, Token.chained_eq token,
        Token.chainedAll_eq rest]

end

def Token.lookups (token : Token) : List (List String) :=
  match token.lower with
  | .ok program => program.lookups
  | .error _ => []

theorem Token.lookups_of_lower {token : Token} {program : Node}
    (lowered : token.lower = .ok program) : token.lookups = program.lookups := by
  simp only [lookups, lowered]

theorem Token.lookups_of_chainKey? {label : Label} {key : String}
    (keyed : label.chainKey? = some key) : (Token.field label).lookups = [[key]] := by
  have lowered : (Token.field label).lower = .ok (.lookup [key]) := by
    simp only [lower, Label.lowerField, keyed]
  rw [lookups_of_lower lowered, Node.lookups_lookup]

theorem Token.map_lookups {tokens : List Token} (chained : ∀ token ∈ tokens, token.IsChained) :
    tokens.map Token.lookups = (Bindings.chainKeys tokens).map fun key => [[key]] := by
  induction tokens with
  | nil => rfl
  | cons token rest ih =>
      rw [List.forall_mem_cons] at chained
      obtain ⟨label, rfl⟩ := chained.1.exists_field
      obtain ⟨chain, present⟩ := Option.isSome_iff_exists.mp chained.1
      have keyed : label.chainKey? = some (Label.bindingKey label.dotted chain) := by
        rw [Label.chainKey?, present, Option.map_some, Label.dotted]
      rw [List.map_cons, ih chained.2, lookups_of_chainKey? keyed, Bindings.chainKeys_cons,
        Token.label, keyed]
      rfl

namespace Node

theorem lookups_ofParts (template : Bool) (parts : List Node) :
    (ofParts template parts).lookups = parts.flatMap lookups := by
  unfold ofParts
  split
  next part =>
    split
    · exact lookups_concat [part]
    · exact (List.flatMap_singleton lookups part).symm
  next => exact lookups_concat _

end Node

theorem Value.literal?_eq_some {v : Value} {text : String} (found : v.literal? = some text) :
    ∃ label, v.kind = .const ∧ v.expression.tokens = [.input label] := by
  unfold literal? at found
  split at found
  next label constant alone =>
    exact ⟨label, constant, by rw [Expression.single?_eq_some.mp alone]⟩
  next => cases found

theorem Token.lookups_of_const {label : Label} (origin : label.origin = .const) :
    (Token.input label).lookups = [] := by
  have lowered : (Token.input label).lower = .ok (.literal (Value.literalValue label.text)) := by
    simp only [lower, Label.lowerInput, origin]
  rw [lookups_of_lower lowered, Node.lookups_literal]

mutual

theorem Value.lookups_lower (v : Value) (read : v.IsRead) {program : Node}
    (lowered : v.lower = .ok program) : program.lookups = v.leaves.flatMap Token.lookups := by
  have tokensRead := read.tokens.2
  have owned := read.ownsTokens
  cases v with
  | mk kind expression dataType =>
      cases expression with
      | mk tokens template =>
          simp only [Value.lower] at lowered
          split at lowered
          next result literal =>
            cases lowered
            obtain ⟨text, found, _⟩ := Option.map_eq_some_iff.mp literal
            obtain ⟨label, constant, alone⟩ := Value.literal?_eq_some found
            dsimp only at alone constant
            subst alone constant
            have origin : label.origin = .const := owned (.input label) List.mem_cons_self
            simp [Value.leaves, Token.leavesAll, Token.leaves, Token.lookups_of_const origin]
          next =>
            simp only [Expression.lower] at lowered
            obtain ⟨nodes, loweredTokens, rfl⟩ := map_eq_ok.mp lowered
            rw [Node.lookups_ofParts, Value.leaves]
            exact Token.lookupsAll_lower tokens tokensRead loweredTokens

theorem Value.lookupsAll_lower (values : List Value) (read : ∀ v ∈ values, v.IsRead)
    {nodes : List Node} (lowered : Value.lowerAll values = .ok nodes) :
    nodes.flatMap Node.lookups = (Value.leavesAll values).flatMap Token.lookups := by
  cases values with
  | nil =>
      cases lowered
      rfl
  | cons value rest =>
      simp only [Value.lowerAll, bind_eq_ok] at lowered
      obtain ⟨node, loweredValue, others, loweredRest, returned⟩ := lowered
      cases returned
      rw [List.forall_mem_cons] at read
      rw [Value.leavesAll, List.flatMap_append, List.flatMap_cons,
        Value.lookups_lower value read.1 loweredValue,
        Value.lookupsAll_lower rest read.2 loweredRest]

theorem Token.lookups_lower (token : Token) {origin : ValueKind} (read : token.IsRead origin)
    {node : Node} (lowered : token.lower = .ok node) :
    node.lookups = token.leaves.flatMap Token.lookups := by
  cases token with
  | field | input | display =>
      rw [Token.leaves, List.flatMap_singleton, Token.lookups_of_lower lowered]
  | call label arguments =>
      simp only [Token.lower] at lowered
      split at lowered
      next => cases lowered
      next =>
        obtain ⟨nodes, loweredArguments, rfl⟩ := map_eq_ok.mp lowered
        rw [Node.lookups_call, Token.leaves]
        exact Value.lookupsAll_lower arguments read.values loweredArguments

theorem Token.lookupsAll_lower (tokens : List Token) {origin : ValueKind}
    (read : ∀ token ∈ tokens, token.IsRead origin) {nodes : List Node}
    (lowered : Token.lowerAll tokens = .ok nodes) :
    nodes.flatMap Node.lookups = (Token.leavesAll tokens).flatMap Token.lookups := by
  cases tokens with
  | nil =>
      cases lowered
      rfl
  | cons token rest =>
      simp only [Token.lowerAll, bind_eq_ok] at lowered
      obtain ⟨node, loweredToken, others, loweredRest, returned⟩ := lowered
      cases returned
      rw [List.forall_mem_cons] at read
      rw [Token.leavesAll, List.flatMap_append, List.flatMap_cons,
        Token.lookups_lower token read.1 loweredToken,
        Token.lookupsAll_lower rest read.2 loweredRest]

end

/-- Binding the tokens inserts results under the keys of their chains and changes nothing else. -/
structure Bindings.BindsKeys (tokens : List Token) (data bound : Bindings) : Prop where
  inserted : ∃ results, results.map Prod.fst = chainKeys tokens ∧ bound = data.putAll results
  present : ∀ key ∈ chainKeys tokens, (bound.value? key).isSome
  kept : ∀ key, key ∉ chainKeys tokens → bound.value? key = data.value? key

theorem Bindings.bindsKeys {data bound : Bindings} {tokens : List Token}
    (succeeded : data.bind tokens = .ok bound) : BindsKeys tokens data bound := by
  refine ⟨?_, ?_, ?_⟩
  · have mapped := succeeded
    rw [bind_eq_map] at mapped
    obtain ⟨results, applied, rfl⟩ := map_eq_ok.mp mapped
    exact ⟨results, keys_of_chainResults applied, rfl⟩
  · intro key member
    obtain ⟨token, inTokens, keyed⟩ := mem_chainKeys.mp member
    apply (extend_value? succeeded key).elim
    · intro kept
      exact absurd keyed (kept.2 token inTokens)
    · intro found
      obtain ⟨_, _, _, _, _, _, _, found⟩ := found
      rw [found, Option.isSome_some]
  · intro key absent
    apply (extend_value? succeeded key).elim
    · exact And.left
    · intro found
      obtain ⟨token, inTokens, keyed, _⟩ := found
      exact absurd (mem_chainKeys.mpr ⟨token, inTokens, keyed⟩) absent

/-- What binding and compiling agree on.  The program looks up what its leaves look up, in their
order; the leaves with a chain are the tokens that are collected for binding, and they are looked up
by just the keys that binding inserts. -/
structure ChainsAgree (mentions : Token → Prop) (leaves chained : List Token) (program : Node) :
    Prop where
  lookups : program.lookups = leaves.flatMap Token.lookups
  collected : chained = Token.withChain leaves
  mentioned : ∀ token, token ∈ chained ↔ token.IsChained ∧ mentions token
  keys : chained.map Token.lookups = (Bindings.chainKeys chained).map fun key => [[key]]
  bound : ∀ data bound, Bindings.bind data chained = .ok bound →
    Bindings.BindsKeys chained data bound

theorem ChainsAgree.of_leaves {mentions : Token → Prop} {leaves chained : List Token}
    {program : Node} (lookups : program.lookups = leaves.flatMap Token.lookups)
    (collected : chained = Token.withChain leaves)
    (mentioned : ∀ token, token ∈ chained ↔ token.IsChained ∧ mentions token) :
    ChainsAgree mentions leaves chained program := by
  refine ⟨lookups, collected, mentioned, ?_, fun data bound => Bindings.bindsKeys⟩
  apply Token.map_lookups
  intro token member
  exact ((mentioned token).mp member).1

theorem Value.IsRead.chainsAgree {v : Value} (read : v.IsRead) {program : Node}
    (compiles : v.lower = .ok program) :
    ChainsAgree (fun token => v.Mentions token) v.leaves v.chained program :=
  .of_leaves (v.lookups_lower read compiles) v.chained_eq fun _ => Value.mem_chained v

end FlowLogic
