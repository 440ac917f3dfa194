import FlowLogic.Condition.Lowering
import FlowLogic.Condition.Reader
import FlowLogic.Proofs.Definition.Chains
import FlowLogic.Proofs.Definition.Reading
import FlowLogic.Proofs.Outcome

/-!
The operands of a condition: the values at its leaves, in groups of any depth.  The chains of a
condition are those of its operands, and the operands of a condition that was read were read.
-/

namespace FlowLogic

open Outcome

mutual

inductive Condition.Operand (value : Value) : Condition → Prop
  | child {c : Condition} {child : ConditionChild} (member : child ∈ c.children)
      (inner : ConditionChild.Operand value child) : Condition.Operand value c

inductive ConditionChild.Operand (value : Value) : ConditionChild → Prop
  | group {c : Condition} (inner : Condition.Operand value c) :
      ConditionChild.Operand value (.group c)
  | truth : ConditionChild.Operand value (.truth value)
  | left (asked : Relation) (right : Value) :
      ConditionChild.Operand value (.relation asked value right)
  | right (asked : Relation) (left : Value) :
      ConditionChild.Operand value (.relation asked left value)
  | presence (asked : Presence) : ConditionChild.Operand value (.presence asked value)

end

mutual

theorem Condition.mem_chained {token : Token} (c : Condition) :
    token ∈ c.chained ↔ ∃ v, Condition.Operand v c ∧ token ∈ v.chained := by
  cases c with
  | mk connective children =>
      rw [Condition.chained, ConditionChild.mem_chainedAll children]
      constructor
      · rintro ⟨child, member, v, operand, chained⟩
        exact ⟨v, .child member operand, chained⟩
      · rintro ⟨v, ⟨member, operand⟩, chained⟩
        exact ⟨_, member, v, operand, chained⟩

theorem ConditionChild.mem_chained {token : Token} (child : ConditionChild) :
    token ∈ child.chained ↔ ∃ v, ConditionChild.Operand v child ∧ token ∈ v.chained := by
  cases child with
  | group c =>
      rw [ConditionChild.chained, Condition.mem_chained c]
      constructor
      · rintro ⟨v, operand, chained⟩
        exact ⟨v, .group operand, chained⟩
      · rintro ⟨v, ⟨operand⟩, chained⟩
        exact ⟨v, operand, chained⟩
  | truth value =>
      rw [ConditionChild.chained]
      exact ⟨fun chained => ⟨value, .truth, chained⟩, fun ⟨_, .truth, chained⟩ => chained⟩
  | presence asked value =>
      rw [ConditionChild.chained]
      exact ⟨fun chained => ⟨value, .presence asked, chained⟩,
        fun ⟨_, .presence _, chained⟩ => chained⟩
  | relation asked left right =>
      rw [ConditionChild.chained, List.mem_append]
      constructor
      · rintro (chained | chained)
        · exact ⟨left, .left asked right, chained⟩
        · exact ⟨right, .right asked left, chained⟩
      · rintro ⟨v, operand, chained⟩
        cases operand with
        | left => exact .inl chained
        | right => exact .inr chained

theorem ConditionChild.mem_chainedAll {token : Token} (children : List ConditionChild) :
    token ∈ ConditionChild.chainedAll children ↔
      ∃ child ∈ children, ∃ v, ConditionChild.Operand v child ∧ token ∈ v.chained := by
  cases children with
  | nil => simp [ConditionChild.chainedAll]
  | cons first rest =>
      rw [ConditionChild.chainedAll, List.mem_append, ConditionChild.mem_chained first,
        ConditionChild.mem_chainedAll rest, List.exists_mem_cons_iff]

end

theorem ConditionChild.relation_of_lower {asked : Relation} {left right : Value} {program : Node}
    (lowered : (ConditionChild.relation asked left right).lower = .ok program) :
    ∃ l r, left.lower = .ok l ∧ right.lower = .ok r ∧
      program = .paren (asked.node (left.isNumericLiteral || right.isNumericLiteral) l r) := by
  simp only [ConditionChild.lower, Relation.lower] at lowered
  obtain ⟨inner, loweredRelation, rfl⟩ := map_eq_ok.mp lowered
  obtain ⟨l, loweredLeft, loweredRelation⟩ := bind_eq_ok.mp loweredRelation
  obtain ⟨r, loweredRight, returned⟩ := bind_eq_ok.mp loweredRelation
  cases returned
  exact ⟨l, r, loweredLeft, loweredRight, rfl⟩

/-- A document at some place describes the group. -/
def Condition.IsRead (c : Condition) : Prop :=
  ∃ path document, Condition.readAt path document = .ok (some c)

inductive ConditionChild.IsRead : ConditionChild → Prop
  | group {c : Condition} (read : c.IsRead) : IsRead (.group c)
  | truth {v : Value} (read : v.IsRead) : IsRead (.truth v)
  | relation (asked : Relation) {left right : Value} (readLeft : left.IsRead)
      (readRight : right.IsRead) : IsRead (.relation asked left right)
  | presence (asked : Presence) {v : Value} (read : v.IsRead) : IsRead (.presence asked v)

theorem Condition.ofChildren?_eq_some {connective : Connective} {children : List ConditionChild}
    {c : Condition} (kept : Condition.ofChildren? connective children = some c) :
    children ≠ [] ∧ c = ⟨connective, children⟩ := by
  unfold Condition.ofChildren? at kept
  split at kept
  next => cases kept
  next effective =>
    cases kept
    exact ⟨by simpa using effective, rfl⟩

namespace ConditionChild

variable {path : Path} {fields : Dict Json} {child : ConditionChild}
  {children : List ConditionChild}

theorem readOperand_isRead {key : String} {v : Value}
    (read : readOperand key path fields = .ok v) : v.IsRead := by
  simp only [readOperand, bind_eq_ok] at read
  obtain ⟨_ | value, readValue, returned⟩ := read
  · cases returned
  · cases returned
    exact ⟨_, _, readValue⟩

theorem readCompare_isRead (read : readCompare path fields = .ok child) : child.IsRead := by
  simp only [readCompare, bind_eq_ok] at read
  obtain ⟨left, readLeft, asked | asked, _, read⟩ := read
  · simp only [bind_eq_ok] at read
    obtain ⟨right, readRight, returned⟩ := read
    cases returned
    exact .relation asked (readOperand_isRead readLeft) (readOperand_isRead readRight)
  · cases read
    exact .presence asked (readOperand_isRead readLeft)

theorem readLeaf_isRead (read : readLeaf path fields = .ok child) : child.IsRead := by
  simp only [readLeaf, bind_eq_ok] at read
  obtain ⟨type, _, read⟩ := read
  split at read
  · exact readCompare_isRead read
  · simp only [bind_eq_ok] at read
    obtain ⟨value, readValue, returned⟩ := read
    cases returned
    exact .truth (readOperand_isRead readValue)
  · cases read

theorem readAt_isRead {document : Json} (read : readAt path document = .ok (some child)) :
    child.IsRead := by
  cases document with
  | obj fields =>
      simp only [readAt] at read
      split at read
      · simp only [bind_eq_ok] at read
        obtain ⟨connective, readConnective, children, readChildren, returned⟩ := read
        obtain ⟨c, kept, rfl⟩ := Option.map_eq_some_iff.mp (Except.ok.inj returned)
        apply IsRead.group
        refine ⟨path, .obj fields, ?_⟩
        rw [Condition.readAt, readConnective, ok_bind, readChildren, ok_bind, kept, pure_eq_ok]
      · simp only [bind_eq_ok] at read
        obtain ⟨leaf, readLeaf, returned⟩ := read
        cases returned
        exact readLeaf_isRead readLeaf
  | null | bool | num | str | arr => simp [readAt] at read

theorem readAll_isRead {position : Nat} {documents : List Json}
    (read : readAll path position documents = .ok children) :
    ∀ child ∈ children, child.IsRead := by
  induction documents generalizing position children with
  | nil =>
      simp only [readAll] at read
      cases read
      simp
  | cons document rest ih =>
      simp only [readAll, bind_eq_ok] at read
      obtain ⟨child?, readChild, others, readRest, returned⟩ := read
      cases returned
      intro child member
      apply (List.mem_append.mp member).elim
      · intro inFirst
        obtain rfl := Option.mem_toList.mp inFirst
        exact readAt_isRead readChild
      · exact ih readRest child

theorem readList_isRead {document : Json} (read : readList path document = .ok children) :
    ∀ child ∈ children, child.IsRead := by
  cases document with
  | null =>
      simp only [readList] at read
      cases read
      simp
  | arr items =>
      simp only [readList] at read
      exact readAll_isRead read
  | bool | num | str | obj => simp [readList] at read

theorem readUnder_eq (path : Path) (fields : Dict Json) :
    readUnder path fields = ((fields.value? "children").map (readList path)).getD (.ok []) :=
  Dict.search_eq (by rw [readUnder]) (fun _ _ _ => by rw [readUnder]) fields

theorem readUnder_isRead (read : readUnder path fields = .ok children) :
    ∀ child ∈ children, child.IsRead := by
  rw [readUnder_eq] at read
  cases found : fields.value? "children" with
  | none =>
      rw [found] at read
      cases read
      simp
  | some document =>
      rw [found] at read
      exact readList_isRead read

end ConditionChild

theorem Condition.IsRead.children {c : Condition} (read : c.IsRead) :
    c.children ≠ [] ∧ ∀ child ∈ c.children, child.IsRead := by
  obtain ⟨path, document, read⟩ := read
  cases document with
  | obj fields =>
      simp only [Condition.readAt, bind_eq_ok] at read
      obtain ⟨connective, _, children, readChildren, returned⟩ := read
      obtain ⟨filled, rfl⟩ := Condition.ofChildren?_eq_some (Except.ok.inj returned)
      exact ⟨filled, ConditionChild.readUnder_isRead readChildren⟩
  | null | bool | num | str | arr => simp [Condition.readAt] at read

mutual

theorem Condition.Operand.isRead {v : Value} {c : Condition} :
    Condition.Operand v c → c.IsRead → v.IsRead
  | .child member inner, read => inner.isRead (read.children.2 _ member)

theorem ConditionChild.Operand.isRead {v : Value} {child : ConditionChild} :
    ConditionChild.Operand v child → child.IsRead → v.IsRead
  | .group inner, .group read => inner.isRead read
  | .truth, .truth read => read
  | .left _ _, .relation _ readLeft _ => readLeft
  | .right _ _, .relation _ _ readRight => readRight
  | .presence _, .presence _ read => read

end

theorem Condition.readAt_operands {path : Path} (document : Json) {c : Condition} {v : Value}
    (read : Condition.readAt path document = .ok (some c)) (operand : Condition.Operand v c) :
    v.IsRead :=
  operand.isRead ⟨path, document, read⟩

end FlowLogic
