import FlowLogic.Condition.Lowering
import FlowLogic.Proofs.Condition.Operands
import FlowLogic.Proofs.Definition.Chains
import FlowLogic.Proofs.Program.Subtree

/-!
The paths that definitions name.  A program looks up the paths that its definition names, and the
keys that the results of chains are bound under.
-/

namespace FlowLogic

open Outcome

mutual

/-- The path is that of a field or of a lookup in source text, in the token, in an argument of it or
in a field that its members refer to. -/
inductive Token.Names (path : List String) : Token → Prop
  | field {label : Label} (leads : label.path = path) : Token.Names path (.field label)
  | fragment {label : Label} {terms : List Node.Fragment.Term} (source : label.origin = .expression)
      (read : Node.Fragment.read? label.text = some terms) (member : .lookup path ∈ terms) :
      Token.Names path (.input label)
  | argument {label : Label} {arguments : List Value} {v : Value} (member : v ∈ arguments)
      (inner : Value.Names path v) : Token.Names path (.call label arguments)
  | entry {label : Label} {kind : DisplayKind} {payload : Json} {members : List Member} {v : Value}
      (member : .reference v ∈ members) (inner : Value.Names path v) :
      Token.Names path (.display label kind payload members)

inductive Value.Names (path : List String) : Value → Prop
  | token {v : Value} {token : Token} (member : token ∈ v.expression.tokens)
      (inner : Token.Names path token) : Value.Names path v

end

def Expression.Names (path : List String) (e : Expression) : Prop :=
  ∃ token ∈ e.tokens, token.Names path

def Condition.Names (path : List String) (c : Condition) : Prop :=
  ∃ v, Condition.Operand v c ∧ v.Names path

/-- The path is the key of the result of some chain. -/
def Token.ResultPath (tokens : List Token) (path : List String) : Prop :=
  ∃ token ∈ tokens, ∃ key, token.label.chainKey? = some key ∧ path = [key]

variable {path : List String} {node : Node}

theorem Value.names_of_expression {v : Value} (named : v.expression.Names path) : v.Names path := by
  obtain ⟨token, member, inner⟩ := named
  exact .token member inner

theorem Value.Mentions.names {token : Token} {v : Value} (mentions : v.Mentions token)
    (named : token.Names path) : v.Names path := by
  induction mentions with
  | direct member => exact .token member named
  | argument call member _ ih => exact .token call (.argument member ih)

theorem Value.names_of_chained {token : Token} {v : Value} (member : token ∈ v.chained) :
    v.Names token.label.path := by
  obtain ⟨chained, mentions⟩ := (Value.mem_chained v).mp member
  obtain ⟨label, rfl⟩ := chained.exists_field
  exact mentions.names (.field rfl)

theorem Expression.names_of_chained {token : Token} {e : Expression} (member : token ∈ e.chained) :
    e.Names token.label.path := by
  have chained : token ∈ Value.chained ⟨.const, e, none⟩ := by rwa [Value.chained]
  obtain ⟨inTokens, inner⟩ := Value.names_of_chained chained
  exact ⟨_, inTokens, inner⟩

theorem Condition.names_of_chained {token : Token} {c : Condition} (member : token ∈ c.chained) :
    c.Names token.label.path := by
  obtain ⟨v, operand, chained⟩ := (Condition.mem_chained c).mp member
  exact ⟨v, operand, Value.names_of_chained chained⟩

theorem Token.ResultPath.mono {tokens others : List Token} (result : ResultPath tokens path)
    (within : tokens ⊆ others) : ResultPath others path := by
  obtain ⟨token, member, key, keyed, same⟩ := result
  exact ⟨token, within member, key, keyed, same⟩

namespace Node

theorem Within.exists_child {inner outer : Node} (within : Within inner outer)
    (other : inner ≠ outer) : ∃ child ∈ outer.children, Within inner child := by
  cases within with
  | self => exact absurd rfl other
  | child member within => exact ⟨_, member, within⟩

theorem Within.of_only_child {inner outer child : Node} (within : Within inner outer)
    (other : inner ≠ outer) (only : outer.children = [child]) : Within inner child := by
  obtain ⟨found, member, within⟩ := within.exists_child other
  rw [only, List.mem_singleton] at member
  exact member ▸ within

theorem Within.eq_of_childless {inner outer : Node} (within : Within inner outer)
    (childless : outer.children = []) : inner = outer := by
  cases within with
  | self => rfl
  | child member => simp [childless] at member

theorem Fragment.Term.eq_lookup_of_within {term : Term}
    (within : Within (.lookup path) term.node) : term = .lookup path := by
  cases term with
  | literal value => cases within.eq_of_childless rfl
  | lookup other =>
      cases within.eq_of_childless rfl
      rfl

theorem lookup_of_readFragment {source : String} (read : readFragment? source = some node)
    (within : Within (.lookup path) node) :
    ∃ terms, Fragment.read? source = some terms ∧ .lookup path ∈ terms := by
  unfold readFragment? at read
  split at read
  next =>
    cases read
    cases within.eq_of_childless rfl
  next term _ found =>
    cases read
    exact ⟨[term], found, List.mem_singleton.mpr (Fragment.Term.eq_lookup_of_within within).symm⟩
  next terms _ _ found =>
    cases read
    obtain ⟨part, member, within⟩ := within.exists_child (by simp)
    obtain ⟨term, inTerms, rfl⟩ := List.mem_map.mp member
    exact ⟨terms, found, Fragment.Term.eq_lookup_of_within within ▸ inTerms⟩
  next => cases read

theorem lookup_of_ofParts {template : Bool} {parts : List Node}
    (within : Within (.lookup path) (ofParts template parts)) :
    ∃ part ∈ parts, Within (.lookup path) part := by
  unfold ofParts at within
  split at within
  next part =>
    split at within
    next => exact within.exists_child (by simp)
    next => exact ⟨part, List.mem_singleton.mpr rfl, within⟩
  next => exact within.exists_child (by simp)

end Node

open Node (Within)

namespace Label

variable {label : Label}

theorem lookup_of_lowerField (lowered : label.lowerField = .ok node)
    (within : Within (.lookup path) node) :
    label.path = path ∨ ∃ key, label.chainKey? = some key ∧ path = [key] := by
  unfold lowerField at lowered
  split at lowered
  next key keyed =>
    cases lowered
    cases within.eq_of_childless rfl
    exact .inr ⟨key, keyed, rfl⟩
  next =>
    split at lowered
    next => cases lowered
    next =>
      cases lowered
      cases within.eq_of_childless rfl
      exact .inl rfl

theorem names_of_lowerInput (lowered : label.lowerInput = .ok node)
    (within : Within (.lookup path) node) : Token.Names path (.input label) := by
  unfold lowerInput at lowered
  split at lowered
  next =>
    cases lowered
    cases within.eq_of_childless rfl
  next source =>
    unfold lowerFragment at lowered
    split at lowered
    next =>
      cases lowered
      cases within.eq_of_childless rfl
    next =>
      split at lowered
      next read =>
        cases lowered
        obtain ⟨terms, found, member⟩ := Node.lookup_of_readFragment read within
        exact .fragment source found member
      next => cases lowered

end Label

theorem Token.no_lookup_of_lowerDisplay {kind : DisplayKind} {payload : Json}
    {members : List Member} (lowered : Token.lowerDisplay kind payload members = .ok node) :
    ¬ Within (.lookup path) node := by
  intro within
  obtain ⟨value, rfl⟩ : ∃ value, node = .literal value := by
    unfold lowerDisplay at lowered
    split at lowered
    next =>
      obtain ⟨ids, _, rfl⟩ := map_eq_ok.mp lowered
      exact ⟨.arr ids, rfl⟩
    next =>
      split at lowered
      next value _ =>
        cases lowered
        exact ⟨value, rfl⟩
      next => cases lowered
  cases within.eq_of_childless rfl

mutual

theorem Token.lookup_of_lower (token : Token) {node : Node} (lowered : token.lower = .ok node)
    (within : Within (.lookup path) node) :
    token.Names path ∨ Token.ResultPath token.chained path := by
  cases token with
  | field label =>
      simp only [Token.lower] at lowered
      rcases Label.lookup_of_lowerField lowered within with leads | ⟨key, keyed, same⟩
      · exact .inl (.field leads)
      · obtain ⟨chain, chained, _⟩ := Option.map_eq_some_iff.mp keyed
        have member : Token.field label ∈ Token.chained (.field label) := by
          simp [Token.chained, chained]
        exact .inr ⟨_, member, key, keyed, same⟩
  | input label =>
      simp only [Token.lower] at lowered
      exact .inl (Label.names_of_lowerInput lowered within)
  | display label kind payload members =>
      simp only [Token.lower] at lowered
      exact absurd within (Token.no_lookup_of_lowerDisplay lowered)
  | call label arguments =>
      simp only [Token.lower] at lowered
      split at lowered
      next => cases lowered
      next =>
        obtain ⟨nodes, loweredArguments, rfl⟩ := map_eq_ok.mp lowered
        obtain ⟨child, member, within⟩ := within.exists_child (by simp)
        rcases Value.lookup_of_lowerAll arguments loweredArguments member within with
          ⟨v, inArguments, named⟩ | result
        · exact .inl (.argument inArguments named)
        · exact .inr (by rwa [Token.chained])

theorem Token.lookup_of_lowerAll (tokens : List Token) {nodes : List Node}
    (lowered : Token.lowerAll tokens = .ok nodes) {node : Node} (member : node ∈ nodes)
    (within : Within (.lookup path) node) :
    (∃ token ∈ tokens, token.Names path) ∨ Token.ResultPath (Token.chainedAll tokens) path := by
  cases tokens with
  | nil =>
      cases lowered
      cases member
  | cons token rest =>
      simp only [Token.lowerAll, bind_eq_ok] at lowered
      obtain ⟨first, loweredToken, others, loweredRest, returned⟩ := lowered
      cases returned
      rw [Token.chainedAll]
      rcases List.mem_cons.mp member with rfl | inOthers
      · rcases Token.lookup_of_lower token loweredToken within with named | result
        · exact .inl ⟨token, List.mem_cons_self, named⟩
        · exact .inr (result.mono (List.subset_append_left _ _))
      · rcases Token.lookup_of_lowerAll rest loweredRest inOthers within with
          ⟨later, inRest, named⟩ | result
        · exact .inl ⟨later, List.mem_cons_of_mem token inRest, named⟩
        · exact .inr (result.mono (List.subset_append_right _ _))

theorem Expression.lookup_of_lower (e : Expression) {node : Node} (lowered : e.lower = .ok node)
    (within : Within (.lookup path) node) :
    e.Names path ∨ Token.ResultPath e.chained path := by
  cases e with
  | mk tokens template =>
      simp only [Expression.lower] at lowered
      obtain ⟨nodes, loweredTokens, rfl⟩ := map_eq_ok.mp lowered
      obtain ⟨part, member, within⟩ := Node.lookup_of_ofParts within
      rw [Expression.chained]
      exact Token.lookup_of_lowerAll tokens loweredTokens member within

theorem Value.lookup_of_lower (v : Value) {node : Node} (lowered : v.lower = .ok node)
    (within : Within (.lookup path) node) :
    v.Names path ∨ Token.ResultPath v.chained path := by
  cases v with
  | mk kind expression dataType =>
      simp only [Value.lower] at lowered
      split at lowered
      next =>
        cases lowered
        cases within.eq_of_childless rfl
      next =>
        rw [Value.chained]
        exact (Expression.lookup_of_lower expression lowered within).imp_left
          Value.names_of_expression

theorem Value.lookup_of_lowerAll (values : List Value) {nodes : List Node}
    (lowered : Value.lowerAll values = .ok nodes) {node : Node} (member : node ∈ nodes)
    (within : Within (.lookup path) node) :
    (∃ v ∈ values, v.Names path) ∨ Token.ResultPath (Value.chainedAll values) path := by
  cases values with
  | nil =>
      cases lowered
      cases member
  | cons value rest =>
      simp only [Value.lowerAll, bind_eq_ok] at lowered
      obtain ⟨first, loweredValue, others, loweredRest, returned⟩ := lowered
      cases returned
      rw [Value.chainedAll]
      rcases List.mem_cons.mp member with rfl | inOthers
      · rcases Value.lookup_of_lower value loweredValue within with named | result
        · exact .inl ⟨value, List.mem_cons_self, named⟩
        · exact .inr (result.mono (List.subset_append_left _ _))
      · rcases Value.lookup_of_lowerAll rest loweredRest inOthers within with
          ⟨later, inRest, named⟩ | result
        · exact .inl ⟨later, List.mem_cons_of_mem value inRest, named⟩
        · exact .inr (result.mono (List.subset_append_right _ _))

end

theorem Relation.lookup_of_node {asked : Relation} {loose : Bool} {left right : Node}
    (within : Within (.lookup path) (asked.node loose left right)) :
    Within (.lookup path) left ∨ Within (.lookup path) right := by
  have sides : ∀ child ∈ [left, right], Within (.lookup path) child →
      Within (.lookup path) left ∨ Within (.lookup path) right := by
    simpa using And.intro Or.inl Or.inr
  cases asked with
  | noContains =>
      have within := within.of_only_child (by simp [node]) rfl
      obtain ⟨child, member, within⟩ := within.exists_child (by simp)
      exact sides child member within
  | _ =>
      obtain ⟨child, member, within⟩ := within.exists_child (by simp [node])
      exact sides child member within

theorem Presence.lookup_of_node {asked : Presence} {inner : Node}
    (within : Within (.lookup path) (asked.node inner)) : Within (.lookup path) inner := by
  cases asked with
  | notEmpty => exact within.of_only_child (by simp [node]) rfl
  | empty => exact (within.of_only_child (by simp [node]) rfl).of_only_child (by simp) rfl
  | valuable | noValuable =>
      obtain ⟨side, member, inSide⟩ := within.exists_child (by simp [node])
      rcases List.mem_cons.mp member with same | member
      · subst same
        exact inSide.of_only_child (by simp) rfl
      · rw [List.mem_singleton.mp member] at inSide
        cases inSide.eq_of_childless rfl

theorem Presence.lookup_of_lower {asked : Presence} {v : Value} {node : Node}
    (lowered : asked.lower v = .ok node) (within : Within (.lookup path) node) :
    ∃ inner, v.lower = .ok inner ∧ Within (.lookup path) inner := by
  unfold Presence.lower at lowered
  split at lowered
  next =>
    cases lowered
    cases within.eq_of_childless rfl
  next =>
    obtain ⟨inner, loweredValue, rfl⟩ := map_eq_ok.mp lowered
    exact ⟨inner, loweredValue, Presence.lookup_of_node within⟩

mutual

theorem Condition.lookup_of_lower (c : Condition) {node : Node} (lowered : c.lower = .ok node)
    (within : Within (.lookup path) node) :
    ∃ v inner, Condition.Operand v c ∧ v.lower = .ok inner ∧ Within (.lookup path) inner := by
  cases c with
  | mk connective children =>
      simp only [Condition.lower] at lowered
      obtain ⟨nodes, loweredChildren, rfl⟩ := map_eq_ok.mp lowered
      obtain ⟨part, member, within⟩ := within.exists_child (by simp)
      obtain ⟨child, inChildren, v, inner, operand, found⟩ :=
        ConditionChild.lookup_of_lowerAll children loweredChildren member within
      exact ⟨v, inner, .child inChildren operand, found⟩

theorem ConditionChild.lookup_of_lower (child : ConditionChild) {node : Node}
    (lowered : child.lower = .ok node) (within : Within (.lookup path) node) :
    ∃ v inner, ConditionChild.Operand v child ∧ v.lower = .ok inner ∧
      Within (.lookup path) inner := by
  cases child with
  | group c =>
      simp only [ConditionChild.lower] at lowered
      obtain ⟨v, inner, operand, found⟩ := Condition.lookup_of_lower c lowered within
      exact ⟨v, inner, .group operand, found⟩
  | truth value =>
      simp only [ConditionChild.lower] at lowered
      obtain ⟨inner, loweredValue, rfl⟩ := map_eq_ok.mp lowered
      exact ⟨value, inner, .truth, loweredValue, within.of_only_child (by simp) rfl⟩
  | relation asked left right =>
      obtain ⟨l, r, loweredLeft, loweredRight, rfl⟩ := ConditionChild.relation_of_lower lowered
      rcases Relation.lookup_of_node (within.of_only_child (by simp) rfl) with within | within
      · exact ⟨left, l, .left asked right, loweredLeft, within⟩
      · exact ⟨right, r, .right asked left, loweredRight, within⟩
  | presence asked value =>
      simp only [ConditionChild.lower] at lowered
      obtain ⟨inner, loweredPresence, rfl⟩ := map_eq_ok.mp lowered
      obtain ⟨operand, loweredValue, found⟩ :=
        Presence.lookup_of_lower loweredPresence (within.of_only_child (by simp) rfl)
      exact ⟨value, operand, .presence asked, loweredValue, found⟩

theorem ConditionChild.lookup_of_lowerAll (children : List ConditionChild) {nodes : List Node}
    (lowered : ConditionChild.lowerAll children = .ok nodes) {node : Node} (member : node ∈ nodes)
    (within : Within (.lookup path) node) :
    ∃ child ∈ children, ∃ v inner, ConditionChild.Operand v child ∧ v.lower = .ok inner ∧
      Within (.lookup path) inner := by
  cases children with
  | nil =>
      cases lowered
      cases member
  | cons child rest =>
      simp only [ConditionChild.lowerAll, bind_eq_ok] at lowered
      obtain ⟨first, loweredChild, others, loweredRest, returned⟩ := lowered
      cases returned
      rcases List.mem_cons.mp member with rfl | inOthers
      · exact ⟨child, List.mem_cons_self,
          ConditionChild.lookup_of_lower child loweredChild within⟩
      · obtain ⟨later, inRest, found⟩ :=
          ConditionChild.lookup_of_lowerAll rest loweredRest inOthers within
        exact ⟨later, List.mem_cons_of_mem child inRest, found⟩

end

theorem Condition.names_of_lower {c : Condition} (lowered : c.lower = .ok node)
    (within : Within (.lookup path) node) : c.Names path ∨ Token.ResultPath c.chained path := by
  obtain ⟨v, inner, operand, loweredValue, found⟩ := Condition.lookup_of_lower c lowered within
  rcases Value.lookup_of_lower v loweredValue found with named | result
  · exact .inl ⟨v, operand, named⟩
  · exact .inr (result.mono fun token chained =>
      (Condition.mem_chained c).mpr ⟨v, operand, chained⟩)

end FlowLogic
