import FlowLogic.Evaluation.Basic
import FlowLogic.Proofs.Condition.Operands
import FlowLogic.Proofs.Condition.Places
import FlowLogic.Proofs.Dict
import Mathlib.Logic.Relation

/-!
Children without effect.  A null child is left out of a condition, and so is a group of nothing but
such children; a document reads the same with and without them, in groups of any depth.
-/

namespace FlowLogic

open Outcome

def Condition.ConnectiveFits (fields : Dict Json) : Prop :=
  fields.value? "ops" = none ∨ fields.value? "ops" = some .null ∨
    ∃ tag, fields.value? "ops" = some (.str tag) ∧ (Connective.ofTag? tag).isSome

/-- The entry is null, or a group with no list of children or with only such entries in it. -/
inductive Json.Ineffective : Json → Prop
  | null : Ineffective .null
  | childless {fields : Dict Json} (group : ConditionChild.isGroup fields = true)
      (fits : Condition.ConnectiveFits fields)
      (none : fields.value? "children" = none ∨ fields.value? "children" = some .null) :
      Ineffective (.obj fields)
  | group {fields : Dict Json} {items : List Json} (fits : Condition.ConnectiveFits fields)
      (children : fields.value? "children" = some (.arr items))
      (only : ∀ item ∈ items, Ineffective item) : Ineffective (.obj fields)

/-- An entry without effect was put into the list of children of a group, at any depth. -/
inductive Condition.Widens : Json → Json → Prop
  | here (before : Dict Json) {after : Dict Json} (items : List Json) {others : List Json}
      {entry : Json} (ineffective : entry.Ineffective) :
      Widens (.obj (before ++ ("children", .arr (items ++ others)) :: after))
        (.obj (before ++ ("children", .arr (items ++ entry :: others)) :: after))
  | inside (before : Dict Json) {after : Dict Json} (items : List Json) {others : List Json}
      {child wider : Json} (inner : Widens child wider) :
      Widens (.obj (before ++ ("children", .arr (items ++ child :: others)) :: after))
        (.obj (before ++ ("children", .arr (items ++ wider :: others)) :: after))

/-! Entries of a list of children read alike behind the same entries, or with others in front. -/

namespace ConditionChild

theorem toOption_readAll_append {others more : List Json}
    (same : ∀ (path other : Path) (position otherPosition : Nat),
      (readAll path position others).toOption = (readAll other otherPosition more).toOption)
    (items : List Json) (path other : Path) (position otherPosition : Nat) :
    (readAll path position (items ++ others)).toOption =
      (readAll other otherPosition (items ++ more)).toOption := by
  induction items generalizing position otherPosition with
  | nil => exact same path other position otherPosition
  | cons item rest ih =>
      simp only [List.cons_append, readAll]
      refine toOption_bind_congr (toOption_readAt item _ _) fun child? => ?_
      exact toOption_bind_congr (ih _ _) fun _ => rfl

theorem toOption_readAll_cons {child wider : Json}
    (same : ∀ path other : Path, (readAt path child).toOption = (readAt other wider).toOption)
    (rest : List Json) (path other : Path) (position otherPosition : Nat) :
    (readAll path position (child :: rest)).toOption =
      (readAll other otherPosition (wider :: rest)).toOption := by
  simp only [readAll]
  refine toOption_bind_congr (same _ _) fun child? => ?_
  exact toOption_bind_congr (toOption_readAll rest path other _ _) fun _ => rfl

theorem toOption_readAll_skip {entry : Json} (none : ∀ path : Path, readAt path entry = .ok none)
    (rest : List Json) (path other : Path) (position otherPosition : Nat) :
    (readAll path position rest).toOption =
      (readAll other otherPosition (entry :: rest)).toOption := by
  rw [readAll, none, ok_bind, toOption_readAll rest path other position (otherPosition + 1)]
  cases readAll other (otherPosition + 1) rest <;> rfl

theorem readAll_eq_nil {items : List Json} {path : Path} {position : Nat}
    (none : ∀ item ∈ items, ∀ path : Path, readAt path item = .ok none) :
    readAll path position items = .ok [] := by
  induction items generalizing position with
  | nil => rw [readAll]
  | cons item rest ih =>
      rw [List.forall_mem_cons] at none
      rw [readAll, none.1, ok_bind, ih none.2]
      rfl

end ConditionChild

theorem Condition.ConnectiveFits.readConnective {fields : Dict Json}
    (fits : Condition.ConnectiveFits fields) (path : Path) :
    ∃ connective, Condition.readConnective path fields = .ok connective := by
  unfold Condition.readConnective
  rcases fits with absent | null | ⟨tag, stated, known⟩
  · exact ⟨.and, by rw [absent]⟩
  · exact ⟨.and, by rw [null]⟩
  · obtain ⟨connective, found⟩ := Option.isSome_iff_exists.mp known
    exact ⟨connective, by simp only [stated, found]⟩

theorem ConditionChild.isGroup_of_children {fields : Dict Json} {children : Json}
    (found : fields.value? "children" = some children) : isGroup fields = true := by
  simp [isGroup, Dict.hasKey, found]

theorem ConditionChild.readAt_eq_none {fields : Dict Json} (group : isGroup fields = true)
    (fits : Condition.ConnectiveFits fields) {path : Path}
    (empty : readUnder (path.key "children") fields = .ok []) :
    readAt path (.obj fields) = .ok none := by
  obtain ⟨connective, stated⟩ := fits.readConnective path
  rw [readAt, if_pos group, stated, ok_bind, empty]
  rfl

theorem Json.Ineffective.readAt {entry : Json} (ineffective : entry.Ineffective) (path : Path) :
    ConditionChild.readAt path entry = .ok none := by
  induction ineffective generalizing path with
  | null => rw [ConditionChild.readAt]
  | childless group fits none =>
      apply ConditionChild.readAt_eq_none group fits
      rw [ConditionChild.readUnder_eq]
      rcases none with absent | null
      · rw [absent, Option.map_none, Option.getD_none]
      · rw [null, Option.map_some, Option.getD_some, ConditionChild.readList]
  | group fits children only ih =>
      apply ConditionChild.readAt_eq_none (ConditionChild.isGroup_of_children children) fits
      rw [ConditionChild.readUnder_eq, children, Option.map_some, Option.getD_some,
        ConditionChild.readList]
      exact ConditionChild.readAll_eq_nil ih

/-! A list of children under its key, as a group and as the child of one. -/

section

variable {before after : Dict Json} {items others : List Json}

theorem ConditionChild.toOption_readUnder_replaced
    (same : ∀ (path other : Path) (position otherPosition : Nat),
      (readAll path position items).toOption = (readAll other otherPosition others).toOption)
    (path other : Path) :
    (readUnder path (before ++ ("children", .arr items) :: after)).toOption =
      (readUnder other (before ++ ("children", .arr others) :: after)).toOption := by
  rw [readUnder_eq, readUnder_eq, Dict.value?_entry, Dict.value?_entry]
  cases before.value? "children" with
  | none =>
      simp only [Option.getD_none, Option.map_some, Option.getD_some, readList]
      exact same path other 0 0
  | some earlier => exact toOption_readList earlier path other

theorem Condition.toOption_readConnective_replaced (path other : Path) :
    (Condition.readConnective path (before ++ ("children", .arr items) :: after)).toOption =
      (Condition.readConnective other (before ++ ("children", .arr others) :: after)).toOption := by
  rw [Condition.toOption_readConnective path other]
  unfold Condition.readConnective
  rw [Dict.value?_replaced (by decide)]

theorem Condition.toOption_readAt_replaced
    (same : ∀ (path other : Path) (position otherPosition : Nat),
      (ConditionChild.readAll path position items).toOption =
        (ConditionChild.readAll other otherPosition others).toOption) (path other : Path) :
    (Condition.readAt path (.obj (before ++ ("children", .arr items) :: after))).toOption =
      (Condition.readAt other (.obj (before ++ ("children", .arr others) :: after))).toOption := by
  simp only [Condition.readAt]
  refine toOption_bind_congr (Condition.toOption_readConnective_replaced path other) fun _ => ?_
  exact toOption_bind_congr (ConditionChild.toOption_readUnder_replaced same _ _) fun _ => rfl

theorem ConditionChild.toOption_readAt_replaced
    (same : ∀ (path other : Path) (position otherPosition : Nat),
      (readAll path position items).toOption = (readAll other otherPosition others).toOption)
    (path other : Path) :
    (readAt path (.obj (before ++ ("children", .arr items) :: after))).toOption =
      (readAt other (.obj (before ++ ("children", .arr others) :: after))).toOption := by
  simp only [readAt, isGroup_of_children Dict.value?_entry, if_true]
  refine toOption_bind_congr (Condition.toOption_readConnective_replaced path other) fun _ => ?_
  exact toOption_bind_congr (toOption_readUnder_replaced same _ _) fun _ => rfl

end

namespace Condition.Widens

variable {document wider : Json}

theorem toOption_readChild (widens : Widens document wider) (path other : Path) :
    (ConditionChild.readAt path document).toOption =
      (ConditionChild.readAt other wider).toOption := by
  induction widens generalizing path other with
  | here _ _ ineffective =>
      apply ConditionChild.toOption_readAt_replaced
      exact ConditionChild.toOption_readAll_append
        (ConditionChild.toOption_readAll_skip ineffective.readAt _) _
  | inside _ _ inner ih =>
      apply ConditionChild.toOption_readAt_replaced
      exact ConditionChild.toOption_readAll_append (ConditionChild.toOption_readAll_cons ih _) _

theorem toOption_readAt (widens : Widens document wider) (path other : Path) :
    (Condition.readAt path document).toOption = (Condition.readAt other wider).toOption := by
  cases widens with
  | here _ _ ineffective =>
      apply Condition.toOption_readAt_replaced
      exact ConditionChild.toOption_readAll_append
        (ConditionChild.toOption_readAll_skip ineffective.readAt _) _
  | inside _ _ inner =>
      apply Condition.toOption_readAt_replaced
      exact ConditionChild.toOption_readAll_append
        (ConditionChild.toOption_readAll_cons inner.toOption_readChild _) _

theorem toOption_readChecked (widens : Widens document wider) (registry : Registry) :
    (readChecked registry document).toOption = (readChecked registry wider).toOption := by
  unfold readChecked Condition.read
  refine toOption_bind_congr ?_ fun _ => rfl
  rw [toOption_mapError, toOption_mapError]
  exact widens.toOption_readAt [] []

end Condition.Widens

/-- Entries without effect can stand anywhere among the children of a condition, in groups of any
depth: what it reads as, and whether it is accepted, is the same without them. -/
theorem Condition.readChecked_of_widened {document wider : Json}
    (widened : Relation.ReflTransGen Widens document wider) (registry : Registry)
    (outcome : Option Condition) :
    readChecked registry document = .ok outcome ↔ readChecked registry wider = .ok outcome := by
  rw [← toOption_eq_some, ← toOption_eq_some]
  induction widened with
  | refl => rfl
  | tail _ step ih => rw [ih, step.toOption_readChecked registry]

theorem Condition.readChecked_of_widened_in_group :
    ∃ (document wider : Json) (c : Condition),
      Relation.ReflTransGen Widens document wider ∧ document ≠ wider ∧
        readChecked .empty document = .ok (some c) ∧ readChecked .empty wider = .ok (some c) := by
  let leaf : Json := .obj [("operands", .obj [("const_value", .arr [
    .obj [("type", .str "input"), ("value", .str "yes")]])])]
  let idle : Json := .obj [("children", .arr [.null]), ("ops", .str "and")]
  let group (children : List Json) : Json := .obj [("children", .arr children), ("ops", .str "or")]
  let whole (children : List Json) : Json := .obj [("children", .arr children)]
  let answer : Value := ⟨.const, ⟨[.input (.ofText .const "yes")], false⟩, none⟩
  have idles : idle.Ineffective := by
    refine .group (.inr (.inr ⟨"and", rfl, rfl⟩)) rfl ?_
    simpa using Json.Ineffective.null
  have inGroup : Widens (whole [group [leaf]]) (whole [group [leaf, idle]]) :=
    .inside [] [] (.here [] [leaf] idles)
  have inFront : Widens (whole [group [leaf, idle]]) (whole [.null, group [leaf, idle]]) :=
    .here [] [] .null
  have widened : Relation.ReflTransGen Widens (whole [group [leaf]])
      (whole [.null, group [leaf, idle]]) :=
    .tail (.single inGroup) inFront
  have read : readChecked .empty (whole [group [leaf]]) =
      .ok (some ⟨.and, [.group ⟨.or, [.truth answer]⟩]⟩) := rfl
  exact ⟨_, _, _, widened, nofun, read,
    (readChecked_of_widened widened .empty _).mp read⟩

end FlowLogic
