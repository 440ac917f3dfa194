import FlowLogic.Definition.Reader
import FlowLogic.Proofs.Outcome

/-!
The place where a definition stands.  It is told in errors only: what a document reads as, if it can
be read, is the same at any place.
-/

namespace FlowLogic

open Outcome

theorem Token.toOption_readKind (path other : Path) (fields : Dict Json) :
    (readKind path fields).toOption = (readKind other fields).toOption := by
  unfold readKind
  split
  · rfl
  · split <;> rfl

theorem Token.toOption_readText (path other : Path) (fields : Dict Json) :
    (readText path fields).toOption = (readText other fields).toOption := by
  unfold readText
  split <;> rfl

theorem Value.toOption_readKind (path other : Path) (fields : Dict Json) :
    (readKind path fields).toOption = (readKind other fields).toOption := by
  unfold readKind
  split
  · split <;> rfl
  · rfl
  · rfl

theorem Value.toOption_readDataType (path other : Path) (fields : Dict Json) :
    (readDataType path fields).toOption = (readDataType other fields).toOption := by
  unfold readDataType
  split
  · rfl
  · rfl
  · split
    · rfl
    · split <;> rfl
  · rfl

mutual

theorem Value.toOption_readAt (document : Json) (path other : Path) :
    (Value.readAt path document).toOption = (Value.readAt other document).toOption := by
  cases document with
  | obj fields =>
      simp only [Value.readAt, pure_eq_ok]
      split
      · rfl
      · refine toOption_bind_congr (Value.toOption_readKind path other fields) ?_
        rintro (_ | kind)
        · rfl
        · refine toOption_bind_congr (Expression.toOption_readUnder fields _ kind _ _) ?_
          rintro (_ | e)
          · rfl
          · exact toOption_bind_congr (Value.toOption_readDataType path other fields) fun _ => rfl
  | null | bool | num | str | arr => simp only [Value.readAt]

theorem Expression.toOption_readUnder (fields : List (String × Json)) (key : String)
    (origin : ValueKind) (path other : Path) :
    (Expression.readUnder key origin path fields).toOption =
      (Expression.readUnder key origin other fields).toOption := by
  cases fields with
  | nil => simp only [Expression.readUnder]
  | cons field rest =>
      cases field with
      | mk name value =>
          simp only [Expression.readUnder]
          split
          · exact Expression.toOption_readAt value origin path other
          · exact Expression.toOption_readUnder rest key origin path other

theorem Expression.toOption_readAt (document : Json) (origin : ValueKind) (path other : Path) :
    (Expression.readAt origin path document).toOption =
      (Expression.readAt origin other document).toOption := by
  cases document with
  | arr items =>
      simp only [Expression.readAt]
      exact toOption_bind_congr (Token.toOption_readAll items origin path other 0 0) fun _ => rfl
  | null => simp only [Expression.readAt]
  | bool | num | str | obj =>
      simp only [Expression.readAt]
      rfl

theorem Token.toOption_readAll (items : List Json) (origin : ValueKind) (path other : Path)
    (position otherPosition : Nat) :
    (Token.readAll origin path position items).toOption =
      (Token.readAll origin other otherPosition items).toOption := by
  cases items with
  | nil => simp only [Token.readAll]
  | cons item rest =>
      simp only [Token.readAll]
      refine toOption_bind_congr (Token.toOption_readAt item origin _ _) fun token => ?_
      exact toOption_bind_congr (Token.toOption_readAll rest origin path other _ _) fun _ => rfl

theorem Token.toOption_readAt (document : Json) (origin : ValueKind) (path other : Path) :
    (Token.readAt origin path document).toOption =
      (Token.readAt origin other document).toOption := by
  cases document with
  | obj fields =>
      simp only [Token.readAt]
      refine toOption_bind_congr (Token.toOption_readKind path other fields) fun kind => ?_
      refine toOption_bind_congr (Token.toOption_readText path other fields) fun text => ?_
      cases kind with
      | field | input | display => rfl
      | call => exact toOption_bind_congr (Value.toOption_readArguments fields _ _) fun _ => rfl
  | null | bool | num | str | arr =>
      simp only [Token.readAt]
      rfl

theorem Value.toOption_readArguments (fields : List (String × Json)) (path other : Path) :
    (Value.readArguments path fields).toOption = (Value.readArguments other fields).toOption := by
  cases fields with
  | nil => simp only [Value.readArguments]
  | cons field rest =>
      cases field with
      | mk name value =>
          simp only [Value.readArguments]
          split
          · exact Value.toOption_readList value path other
          · exact Value.toOption_readArguments rest path other

theorem Value.toOption_readList (document : Json) (path other : Path) :
    (Value.readList path document).toOption = (Value.readList other document).toOption := by
  cases document with
  | arr items =>
      simp only [Value.readList]
      exact Value.toOption_readAll items path other 0 0
  | null | bool | num | str | obj =>
      simp only [Value.readList]
      rfl

theorem Value.toOption_readAll (items : List Json) (path other : Path)
    (position otherPosition : Nat) :
    (Value.readAll path position items).toOption =
      (Value.readAll other otherPosition items).toOption := by
  cases items with
  | nil => simp only [Value.readAll]
  | cons item rest =>
      simp only [Value.readAll]
      refine toOption_bind_congr (Value.toOption_readAt item _ _) fun value? => ?_
      exact toOption_bind_congr (Value.toOption_readAll rest path other _ _) fun _ => rfl

end

end FlowLogic
