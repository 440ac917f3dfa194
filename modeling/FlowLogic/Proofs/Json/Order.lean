import FlowLogic.Proofs.Json.Equality
import FlowLogic.Sandbox.Interpreter

/-!
The order of values.  It calls two values equal exactly where they are loosely equal, but for two
arrays, of which it sees the lengths alone, and two objects, which have no order.  Exchanging the
values turns the order round.
-/

namespace FlowLogic

theorem Binary64.compare_swap (x y : Binary64) :
    y.compare x = (x.compare y).map Ordering.swap := by
  cases x with
  | nan => cases y <;> rfl
  | infinite negative =>
      cases y with
      | infinite other => cases negative <;> cases other <;> rfl
      | nan | finite => cases negative <;> rfl
  | finite a =>
      cases y with
      | finite b => simp [compare, ← Std.OrientedOrd.eq_swap]
      | infinite other => cases other <;> rfl
      | nan => rfl

namespace Json

theorem isTrue_null : Json.null.isTrue = false := rfl

theorem scalarOrder_eq_iff {a b : Json} : scalarOrder a b = some .eq ↔ scalarEq a b = true := by
  unfold scalarOrder scalarEq
  cases a.toNumber? with
  | none => simp
  | some x =>
      cases b.toNumber? with
      | none => simp
      | some y => simp [Binary64.numEq]

theorem scalarOrder_swap (a b : Json) :
    scalarOrder b a = (scalarOrder a b).map Ordering.swap := by
  unfold scalarOrder
  cases a.toNumber? with
  | none => cases b.toNumber? <;> simp [← Std.OrientedOrd.eq_swap]
  | some x =>
      cases b.toNumber? with
      | none => simp [← Std.OrientedOrd.eq_swap]
      | some y => exact Binary64.compare_swap x y

theorem order?_swap (a b : Json) : order? b a = (order? a b).map Ordering.swap := by
  cases a with
  | null | bool | arr | obj => cases b <;> simp [order?, ← Std.OrientedOrd.eq_swap]
  | num | str => cases b <;> simp [order?, ← Std.OrientedOrd.eq_swap, ← scalarOrder_swap]

theorem looseEqItems_length {items others : List Json} (equal : looseEqItems items others = true) :
    items.length = others.length := by
  induction items generalizing others with
  | nil => cases others <;> simp_all [looseEqItems]
  | cons item rest ih =>
      cases others with
      | nil => cases equal
      | cons other others =>
          rw [looseEqItems, Bool.and_eq_true] at equal
          rw [List.length_cons, List.length_cons, ih equal.2]

theorem order?_bool_eq_iff (a : Json) (truth : Bool) :
    order? a (.bool truth) = some .eq ↔ looseEq a (.bool truth) = true := by
  have order : order? a (.bool truth) = some (compare a.isTrue truth) := by
    cases a <;> rfl
  have equal : looseEq a (.bool truth) = (a.isTrue == truth) := by
    cases a <;> simp [looseEq, isTrue, Bool.beq_comm]
  rw [order, equal, Option.some_inj, compare_eq_iff_eq, beq_iff_eq]

theorem order?_null_eq_iff (a : Json) :
    order? a .null = some .eq ↔ looseEq a .null = true := by
  cases a <;> simp [order?, looseEq, isTrue_null]

theorem order?_eq_iff {a b : Json} (arrays : ¬ (a.kind = .array ∧ b.kind = .array))
    (objects : ¬ (a.kind = .object ∧ b.kind = .object)) :
    order? a b = some .eq ↔ looseEq a b = true := by
  have exchange : order? a b = some .eq ↔ order? b a = some .eq := by
    rw [order?_swap b a]
    cases order? b a with
    | none => simp
    | some order => cases order <;> simp
  cases a with
  | bool truth => rw [exchange, looseEq_comm, order?_bool_eq_iff]
  | null => rw [exchange, looseEq_comm, order?_null_eq_iff]
  | num | str =>
      cases b with
      | bool truth => exact order?_bool_eq_iff _ truth
      | null => exact order?_null_eq_iff _
      | num | str | arr | obj => simp [order?, looseEq, scalarOrder_eq_iff]
  | arr items =>
      cases b with
      | bool truth => exact order?_bool_eq_iff _ truth
      | null => exact order?_null_eq_iff _
      | arr others => exact absurd ⟨rfl, rfl⟩ arrays
      | num | str | obj => simp [order?, looseEq]
  | obj fields =>
      cases b with
      | bool truth => exact order?_bool_eq_iff _ truth
      | null => exact order?_null_eq_iff _
      | obj others => exact absurd ⟨rfl, rfl⟩ objects
      | num | str | arr => simp [order?, looseEq]

/-- Two values that are not both arrays nor both objects are equal in the order exactly if they are
loosely equal, so one is at least the other if it is greater or loosely equal.  Loosely equal arrays
are equal in the order, too. -/
theorem order_agrees_with_looseEq :
    (∀ a b : Json, ¬ (a.kind = .array ∧ b.kind = .array) →
      ¬ (a.kind = .object ∧ b.kind = .object) →
        (order? a b = some .eq ↔ looseEq a b = true) ∧
          Comparator.ge.test a b = (Comparator.gt.test a b || Comparator.looseEq.test a b) ∧
          Comparator.le.test a b = (Comparator.lt.test a b || Comparator.looseEq.test a b)) ∧
      ∀ items others, looseEq (.arr items) (.arr others) = true →
        order? (.arr items) (.arr others) = some .eq := by
  constructor
  · intro a b arrays objects
    have agrees := order?_eq_iff arrays objects
    have same : (order? a b == some .eq) = looseEq a b := by
      rw [Bool.eq_iff_iff, beq_iff_eq, agrees]
    exact ⟨agrees, by simp only [Comparator.test, same], by simp only [Comparator.test, same]⟩
  · intro items others equal
    rw [looseEq] at equal
    rw [order?, looseEqItems_length equal, Std.ReflOrd.compare_self]

theorem order_agrees_with_looseEq_of_padded_numeral :
    ∃ text number : Json, text = .str " 1e1 " ∧ number = .num (.int 10 (by decide)) ∧
      order? text number = some .eq ∧ looseEq text number = true ∧
      Comparator.ge.test text number = true ∧ Comparator.gt.test text number = false ∧
      order? (.arr [text]) (.arr [number]) = some .eq := by
  have equal : looseEq (.str " 1e1 ") (.num (.int 10 (by decide))) = true := by decide +kernel
  obtain ⟨scalars, arrays⟩ := order_agrees_with_looseEq
  obtain ⟨agrees, atLeast, _⟩ :=
    scalars (.str " 1e1 ") (.num (.int 10 (by decide))) (by simp [kind]) (by simp [kind])
  have order := agrees.mpr equal
  have greater : Comparator.gt.test (.str " 1e1 ") (.num (.int 10 (by decide))) = false := by
    rw [Comparator.test, order]
    rfl
  refine ⟨_, _, rfl, rfl, order, equal, ?_, greater, arrays [_] [_] ?_⟩
  · rw [atLeast, greater]
    exact equal
  · rw [looseEq, looseEqItems, equal]
    rfl

end Json

end FlowLogic
