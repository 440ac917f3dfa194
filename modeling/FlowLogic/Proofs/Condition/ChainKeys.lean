import FlowLogic.Proofs.Condition.Result
import FlowLogic.Proofs.Definition.ChainKeys

/-!
The keys of chains in conditions.  Groups, comparisons and right operands are walked through by
binding and by compiling alike; an answer that is compiled in leaves no lookup out.
-/

namespace FlowLogic

open Outcome

mutual

/-- The tokens at the leaves of the condition that are no calls, in the order of the document. -/
def Condition.leaves : Condition → List Token
  | ⟨_, children⟩ => ConditionChild.leavesAll children

def ConditionChild.leaves : ConditionChild → List Token
  | .group condition => condition.leaves
  | .truth value | .presence _ value => value.leaves
  | .relation _ left right => left.leaves ++ right.leaves

def ConditionChild.leavesAll : List ConditionChild → List Token
  | [] => []
  | child :: rest => child.leaves ++ ConditionChild.leavesAll rest

end

mutual

theorem Condition.chained_eq (c : Condition) : c.chained = Token.withChain c.leaves := by
  cases c with
  | mk connective children =>
      rw [Condition.chained, Condition.leaves]
      exact ConditionChild.chainedAll_eq children

theorem ConditionChild.chained_eq (child : ConditionChild) :
    child.chained = Token.withChain child.leaves := by
  cases child with
  | group c =>
      rw [ConditionChild.chained, ConditionChild.leaves]
      exact Condition.chained_eq c
  | truth value | presence asked value =>
      rw [ConditionChild.chained, ConditionChild.leaves]
      exact value.chained_eq
  | relation asked left right =>
      rw [ConditionChild.chained, ConditionChild.leaves, Token.withChain_append, left.chained_eq,
        right.chained_eq]

theorem ConditionChild.chainedAll_eq (children : List ConditionChild) :
    ConditionChild.chainedAll children = Token.withChain (ConditionChild.leavesAll children) := by
  cases children with
  | nil => rfl
  | cons child rest =>
      rw [ConditionChild.chainedAll, ConditionChild.leavesAll, Token.withChain_append,
        ConditionChild.chained_eq child, ConditionChild.chainedAll_eq rest]

end

namespace Node

theorem lookups_relation (asked : Relation) (loose : Bool) (left right : Node) :
    (asked.node loose left right).lookups = left.lookups ++ right.lookups := by
  cases asked <;> simp [Relation.node]

theorem lookups_presence (asked : Presence) (value : Node) :
    (asked.node value).lookups = value.lookups := by
  cases asked <;> simp [Presence.node]

end Node

/-- A question about a literal is settled without its operand, whose token looks nothing up. -/
theorem Presence.lookups_lower {asked : Presence} {v : Value} (read : v.IsRead) {program : Node}
    (lowered : asked.lower v = .ok program) : program.lookups = v.leaves.flatMap Token.lookups := by
  cases found : literalValue? v with
  | some literal =>
      simp only [lower, found] at lowered
      cases lowered
      obtain ⟨node, loweredValue, constant⟩ := lower_of_literalValue? found read.ownsTokens
      rw [Node.lookups_literal, ← v.lookups_lower read loweredValue, constant.lookups]
  | none =>
      simp only [lower, found] at lowered
      obtain ⟨node, loweredValue, rfl⟩ := map_eq_ok.mp lowered
      rw [Node.lookups_presence]
      exact v.lookups_lower read loweredValue

mutual

theorem Condition.lookups_lower (c : Condition) (read : c.IsRead) {program : Node}
    (lowered : c.lower = .ok program) : program.lookups = c.leaves.flatMap Token.lookups := by
  have childrenRead := read.children.2
  cases c with
  | mk connective children =>
      simp only [Condition.lower] at lowered
      obtain ⟨nodes, loweredChildren, rfl⟩ := map_eq_ok.mp lowered
      rw [Node.lookups_logical, Condition.leaves]
      exact ConditionChild.lookupsAll_lower children childrenRead loweredChildren

theorem ConditionChild.lookups_lower (child : ConditionChild) (read : child.IsRead)
    {program : Node} (lowered : child.lower = .ok program) :
    program.lookups = child.leaves.flatMap Token.lookups := by
  cases child with
  | group c =>
      cases read with
      | group readGroup => exact Condition.lookups_lower c readGroup lowered
  | truth value =>
      simp only [ConditionChild.lower] at lowered
      obtain ⟨inner, loweredValue, rfl⟩ := map_eq_ok.mp lowered
      rw [Node.lookups_paren]
      cases read with
      | truth readValue => exact value.lookups_lower readValue loweredValue
  | relation asked left right =>
      obtain ⟨l, r, loweredLeft, loweredRight, rfl⟩ := ConditionChild.relation_of_lower lowered
      rw [Node.lookups_paren, Node.lookups_relation, ConditionChild.leaves, List.flatMap_append]
      cases read with
      | relation _ readLeft readRight =>
          rw [left.lookups_lower readLeft loweredLeft, right.lookups_lower readRight loweredRight]
  | presence asked value =>
      simp only [ConditionChild.lower] at lowered
      obtain ⟨inner, loweredPresence, rfl⟩ := map_eq_ok.mp lowered
      rw [Node.lookups_paren]
      cases read with
      | presence _ readValue => exact Presence.lookups_lower readValue loweredPresence

theorem ConditionChild.lookupsAll_lower (children : List ConditionChild)
    (read : ∀ child ∈ children, child.IsRead) {nodes : List Node}
    (lowered : ConditionChild.lowerAll children = .ok nodes) :
    nodes.flatMap Node.lookups = (ConditionChild.leavesAll children).flatMap Token.lookups := by
  cases children with
  | nil =>
      cases lowered
      rfl
  | cons child rest =>
      simp only [ConditionChild.lowerAll, bind_eq_ok] at lowered
      obtain ⟨node, loweredChild, others, loweredRest, returned⟩ := lowered
      cases returned
      rw [List.forall_mem_cons] at read
      rw [ConditionChild.leavesAll, List.flatMap_append, List.flatMap_cons,
        ConditionChild.lookups_lower child read.1 loweredChild,
        ConditionChild.lookupsAll_lower rest read.2 loweredRest]

end

theorem Condition.IsRead.chainsAgree {c : Condition} (read : c.IsRead) {program : Node}
    (compiles : c.lower = .ok program) :
    ChainsAgree (fun token => c.Mentions token) c.leaves c.chained program :=
  .of_leaves (c.lookups_lower read compiles) c.chained_eq
    fun _ => Condition.mem_chained_iff_mentions

/-- Binding and compiling agree on the fields with a chain, in values and in conditions. -/
theorem chainsAgree_of_read (document : Json) :
    (∀ (v : Value) (program : Node), Value.read document = .ok (some v) → v.lower = .ok program →
        ChainsAgree (fun token => v.Mentions token) v.leaves v.chained program) ∧
      ∀ (registry : Registry) (c : Condition),
        Condition.readChecked registry document = .ok (some c) →
          ∃ program, c.lower = .ok program ∧
            ChainsAgree (fun token => c.Mentions token) c.leaves c.chained program := by
  constructor
  · intro v program read compiles
    have readValue : v.IsRead := ⟨[], document, read⟩
    exact readValue.chainsAgree compiles
  · intro registry c accepted
    obtain ⟨described, program, compiles, _⟩ := Condition.readChecked_eq_some accepted
    have readCondition : c.IsRead := ⟨[], document, described⟩
    exact ⟨program, compiles, readCondition.chainsAgree compiles⟩

theorem chainsAgree_of_read_of_nested :
    ∃ (document described : Json) (v : Value) (program : Node) (c : Condition) (counted : Token),
      Value.read document = .ok (some v) ∧ v.lower = .ok program ∧ v.chained = [counted] ∧
        ChainsAgree (fun token => v.Mentions token) v.leaves v.chained program ∧
        Condition.readChecked .empty described = .ok (some c) ∧ c.chained = [counted] ∧
        ∃ verdict, c.lower = .ok verdict ∧
          ChainsAgree (fun token => c.Mentions token) c.leaves c.chained verdict := by
  let field : Json := .obj [("expression_value", .arr [
    .obj [("trans", .str "count()"), ("type", .str "field"), ("value", .str "tags")]])]
  let document : Json := .obj [("expression_value", .arr [
    .obj [("args", .arr [field]), ("name", .str "upper"), ("type", .str "method")]])]
  let described : Json := .obj [("children", .arr [.obj [("children", .arr [.obj [
    ("condition", .str "gt"), ("left_operands", .obj [("const_value", .arr [
      .obj [("type", .str "input"), ("value", .str "3")]])]),
    ("right_operands", field)]])]])]
  let counted : Token := .field ⟨"tags", "", .expression, some "count()", none⟩
  let counting : Value := ⟨.expression, ⟨[counted], false⟩, none⟩
  let call : Token := .call ⟨"", "upper", .expression, none, none⟩ [counting]
  let v : Value := ⟨.expression, ⟨[call], false⟩, none⟩
  let three : Value := ⟨.const, ⟨[.input (.ofText .const "3")], false⟩, none⟩
  let c : Condition := ⟨.and, [.group ⟨.and, [.relation .gt three counting]⟩]⟩
  have read : Value.read document = .ok (some v) := rfl
  obtain ⟨program, compiles⟩ : ∃ program, v.lower = .ok program := ⟨_, rfl⟩
  have accepted : Condition.readChecked .empty described = .ok (some c) := rfl
  have agree := (chainsAgree_of_read document).1 v program read compiles
  have agreeThere := (chainsAgree_of_read described).2 .empty c accepted
  exact ⟨document, described, v, program, c, counted, read, compiles, rfl, agree, accepted, rfl,
    agreeThere⟩

end FlowLogic
