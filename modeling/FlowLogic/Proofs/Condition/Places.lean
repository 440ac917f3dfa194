import FlowLogic.Condition.Reader
import FlowLogic.Proofs.Definition.Places

/-!
The place where a condition stands.  As with values, it is told in errors only.
-/

namespace FlowLogic

open Outcome

theorem Condition.toOption_readConnective (path other : Path) (fields : Dict Json) :
    (readConnective path fields).toOption = (readConnective other fields).toOption := by
  unfold readConnective
  split
  · rfl
  · rfl
  · split <;> rfl
  · rfl

namespace ConditionChild

theorem toOption_readOperand (key : String) (path other : Path) (fields : Dict Json) :
    (readOperand key path fields).toOption = (readOperand key other fields).toOption := by
  unfold readOperand
  refine toOption_bind_congr (Value.toOption_readAt _ _ _) ?_
  rintro (_ | value) <;> rfl

theorem toOption_readOperator (path other : Path) (fields : Dict Json) :
    (readOperator path fields).toOption = (readOperator other fields).toOption := by
  unfold readOperator
  split
  · split <;> rfl
  · rfl

theorem toOption_readCompare (path other : Path) (fields : Dict Json) :
    (readCompare path fields).toOption = (readCompare other fields).toOption := by
  unfold readCompare
  refine toOption_bind_congr (toOption_readOperand _ path other fields) fun left => ?_
  refine toOption_bind_congr (toOption_readOperator path other fields) ?_
  rintro (asked | asked)
  · exact toOption_bind_congr (toOption_readOperand _ path other fields) fun _ => rfl
  · rfl

theorem toOption_readType (path other : Path) (fields : Dict Json) :
    (readType path fields).toOption = (readType other fields).toOption := by
  unfold readType
  split
  · rfl
  · split
    · rfl
    · split <;> rfl

theorem toOption_readLeaf (path other : Path) (fields : Dict Json) :
    (readLeaf path fields).toOption = (readLeaf other fields).toOption := by
  unfold readLeaf
  refine toOption_bind_congr (toOption_readType path other fields) fun type => ?_
  split
  · exact toOption_readCompare path other fields
  · exact toOption_bind_congr (toOption_readOperand _ path other fields) fun _ => rfl
  · rfl

mutual

theorem toOption_readAt (document : Json) (path other : Path) :
    (readAt path document).toOption = (readAt other document).toOption := by
  cases document with
  | obj fields =>
      simp only [readAt]
      split
      · refine toOption_bind_congr (Condition.toOption_readConnective path other fields) ?_
        intro connective
        exact toOption_bind_congr (toOption_readUnder fields _ _) fun _ => rfl
      · exact toOption_bind_congr (toOption_readLeaf path other fields) fun _ => rfl
  | null => simp only [readAt]
  | bool | num | str | arr =>
      simp only [readAt]
      rfl

theorem toOption_readUnder (fields : List (String × Json)) (path other : Path) :
    (readUnder path fields).toOption = (readUnder other fields).toOption := by
  cases fields with
  | nil => simp only [readUnder]
  | cons field rest =>
      cases field with
      | mk name value =>
          simp only [readUnder]
          split
          · exact toOption_readList value path other
          · exact toOption_readUnder rest path other

theorem toOption_readList (document : Json) (path other : Path) :
    (readList path document).toOption = (readList other document).toOption := by
  cases document with
  | null => simp only [readList]
  | arr items =>
      simp only [readList]
      exact toOption_readAll items path other 0 0
  | bool | num | str | obj =>
      simp only [readList]
      rfl

theorem toOption_readAll (items : List Json) (path other : Path) (position otherPosition : Nat) :
    (readAll path position items).toOption = (readAll other otherPosition items).toOption := by
  cases items with
  | nil => simp only [readAll]
  | cons item rest =>
      simp only [readAll]
      refine toOption_bind_congr (toOption_readAt item _ _) fun child? => ?_
      exact toOption_bind_congr (toOption_readAll rest path other _ _) fun _ => rfl

end

end ConditionChild

end FlowLogic
