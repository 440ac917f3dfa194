import FlowLogic.Sandbox.Function
import FlowLogic.Transform.Basic
import FlowLogic.Proofs.Definition.NumberText
import FlowLogic.Proofs.Outcome

/-!
Functions that calculate.  Each of them takes its operands for numbers one after the other and fails
at the first that is none, so that it succeeds exactly where every operand is one.  Which texts are
numbers is the same for these functions, for the test whether a value is numeric, for conversion to
a number and for the step of a chain that makes one.
-/

namespace FlowLogic

namespace Json

/-- The value counts as a number where one is wanted: `null` and the truth values do, next to
numbers and numeric texts. -/
def IsOperand : Json → Prop
  | null | bool _ => True
  | value => ∃ number, value.toNumber? = some number

theorem isOperand_str_iff {text : String} : (str text).IsOperand ↔ IsNumericText text :=
  exists_toNumber?_iff

end Json

theorem Arity.accepts_exactly_iff {count given : Nat} :
    (exactly count).accepts given = true ↔ given = count := by
  change (decide (count ≤ given) && decide (given ≤ count)) = true ↔ given = count
  rw [Bool.and_eq_true, decide_eq_true_iff, decide_eq_true_iff, Nat.le_antisymm_iff, and_comm]

namespace Builtin

open Outcome

variable {clock : Int} {builtin : Builtin} {arguments values : List Json} {position : Nat}

theorem exists_numeric_iff (position : Nat) {value : Json} :
    (∃ number, numeric position value = .ok number) ↔ value.IsOperand := by
  cases value with
  | null | bool => exact ⟨fun _ => trivial, fun _ => ⟨_, rfl⟩⟩
  | num | str | arr | obj =>
      simp only [numeric, Json.IsOperand]
      split
      next number found => simp [found]
      next missing => simp [missing]

theorem exists_numbersFrom_iff (position : Nat) :
    (∃ numbers, numbersFrom position values = .ok numbers) ↔ ∀ value ∈ values, value.IsOperand := by
  induction values generalizing position with
  | nil => exact ⟨fun _ value member => (List.not_mem_nil member).elim, fun _ => ⟨[], rfl⟩⟩
  | cons value rest ih =>
      rw [List.forall_mem_cons, ← exists_numeric_iff position, ← ih (position + 1), numbersFrom,
        exists_bind_eq_ok, ← exists_and_right]
      exact exists_congr fun number =>
        and_congr_right fun _ => exists_bind_eq_ok_of_total fun _ => ⟨_, rfl⟩

/-- The functions that calculate.  The greatest and the least of some values are not among them: they
are picked by the order of values, which has a place for every value. -/
def calculating : List Builtin := [.abs, .round, .floor, .ceil, .sum, .avg]

def operands : Builtin → List Json → List Json
  | .sum, arguments | .avg, arguments => spread arguments
  | _, arguments => arguments

theorem exists_mapNumber_iff {f : Binary64 → Binary64}
    (accepted : (Arity.exactly 1).accepts arguments.length = true) :
    (∃ result, mapNumber f arguments = .ok result) ↔ ∀ value ∈ arguments, value.IsOperand := by
  obtain ⟨value, rfl⟩ := List.length_eq_one_iff.mp (Arity.accepts_exactly_iff.mp accepted)
  rw [List.forall_mem_singleton, ← exists_numeric_iff 0]
  exact exists_map_eq_ok

theorem exists_roundTo_iff (accepted : Builtin.round.arity.accepts arguments.length = true) :
    (∃ result, roundTo arguments = .ok result) ↔ ∀ value ∈ arguments, value.IsOperand := by
  match arguments, accepted with
  | [value], _ =>
      rw [List.forall_mem_singleton, ← exists_numeric_iff 0]
      exact exists_bind_eq_ok_of_total fun _ => ⟨_, rfl⟩
  | [value, places], _ =>
      rw [List.forall_mem_cons, List.forall_mem_singleton, ← exists_numeric_iff 0,
        ← exists_numeric_iff 1, roundTo, exists_bind_eq_ok, ← exists_and_right]
      refine exists_congr fun number => and_congr_right fun _ => ?_
      exact (exists_bind_eq_ok_of_total fun _ => ⟨_, rfl⟩).trans exists_map_eq_ok

theorem exists_sumAll_iff :
    (∃ result, sumAll arguments = .ok result) ↔ ∀ value ∈ spread arguments, value.IsOperand := by
  rw [← exists_numbersFrom_iff 0]
  exact exists_bind_eq_ok_of_total fun _ => ⟨_, rfl⟩

theorem exists_average_iff :
    (∃ result, average arguments = .ok result) ↔ ∀ value ∈ spread arguments, value.IsOperand := by
  rw [← exists_numbersFrom_iff 0]
  refine exists_bind_eq_ok_of_total fun numbers => ?_
  cases numbers with
  | nil => exact ⟨_, rfl⟩
  | cons => exact ⟨_, rfl⟩

/-- A function that calculates succeeds exactly where each of its operands counts as a number. -/
theorem exists_run_iff (member : builtin ∈ calculating)
    (accepted : builtin.arity.accepts arguments.length = true) :
    (∃ result, run clock builtin arguments = .ok result) ↔
      ∀ value ∈ builtin.operands arguments, value.IsOperand := by
  simp only [calculating, List.mem_cons, List.not_mem_nil, or_false] at member
  rcases member with rfl | rfl | rfl | rfl | rfl | rfl
  · exact exists_mapNumber_iff accepted
  · exact exists_roundTo_iff accepted
  · exact exists_mapNumber_iff accepted
  · exact exists_mapNumber_iff accepted
  · exact exists_sumAll_iff
  · exact exists_average_iff

theorem exists_numberAt_iff {value : Json} (given : arguments[position]? = some value) :
    (∃ number, numberAt arguments position = .ok number) ↔ value.IsOperand := by
  rw [numberAt, given]
  exact exists_numeric_iff position

end Builtin

namespace Transform

variable {text : String}

theorem toNumber_apply_str :
    toNumber.apply (.str text) = numberText (.str text) :=
  if_pos rfl

theorem toNumber_of_readNumber? {value : Json}
    (read : Json.readNumber? (Text.trimText text) = some value) :
    toNumber.apply (.str text) = .ok (.str value.asText) := by
  have shown : (Json.str text).asText = text := String.ofList_toList
  rw [toNumber_apply_str]
  simp only [numberText, shown, read]

theorem toNumber_of_unread (unread : Json.readNumber? (Text.trimText text) = none) :
    toNumber.apply (.str text) = .error (.notNumeric .toNumber text) := by
  have shown : (Json.str text).asText = text := String.ofList_toList
  rw [toNumber_apply_str]
  simp only [numberText, shown, unread]

theorem exists_toNumber_iff :
    (∃ value, toNumber.apply (.str text) = .ok value) ↔ Json.IsNumericText text := by
  rw [← Json.exists_readNumber?_iff]
  cases read : Json.readNumber? (Text.trimText text) with
  | some value => exact ⟨fun _ => ⟨value, rfl⟩, fun _ => ⟨_, toNumber_of_readNumber? read⟩⟩
  | none => simp [toNumber_of_unread read]

end Transform

namespace Json

theorem run_isNumeric_iff {clock : Int} {text : String} :
    Builtin.run clock .isNumeric [.str text] = .ok (.bool true) ↔ IsNumericText text := by
  rw [← exists_toNumber?_iff, ← Option.isSome_iff_exists]
  simp [Builtin.run, Builtin.argument]

/-- Every part of the program takes the same texts for numbers: the test, each function that
calculates with a text among its operands, whatever else takes an argument for a number, conversion
to a number and the step of a chain.  Where the nearest float is finite, the converted text and the
text of the step have the value of the text itself. -/
theorem numericText_everywhere (clock : Int) (text : String) :
    (Builtin.run clock .isNumeric [.str text] = .ok (.bool true) ↔ IsNumericText text) ∧
    (∀ builtin ∈ Builtin.calculating, ∀ arguments,
      builtin.arity.accepts arguments.length = true →
      .str text ∈ builtin.operands arguments →
      (∀ other ∈ builtin.operands arguments, other ≠ .str text → other.IsOperand) →
      ((∃ result, builtin.run clock arguments = .ok result) ↔ IsNumericText text)) ∧
    (∀ arguments position, arguments[position]? = some (.str text) →
      ((∃ number, Builtin.numberAt arguments position = .ok number) ↔ IsNumericText text)) ∧
    ((∃ value, DataType.number.coerce (.str text) = .ok value) ↔ IsNumericText text) ∧
    ((∃ value, Transform.toNumber.apply (.str text) = .ok value) ↔ IsNumericText text) ∧
    ∀ x : Finite64, (str text).toNumber? = some (.finite x) →
      ∃ converted shown y z,
        DataType.number.coerce (.str text) = .ok converted ∧
        Transform.toNumber.apply (.str text) = .ok shown ∧
        converted.toNumber? = some y ∧ y.numEq (.finite x) = true ∧
        shown.toNumber? = some z ∧ z.numEq (.finite x) = true := by
  refine ⟨run_isNumeric_iff, ?calculating, ?argument, DataType.exists_coerce_number_iff,
    Transform.exists_toNumber_iff, ?value⟩
  case calculating =>
    intro builtin member arguments accepted given others
    rw [Builtin.exists_run_iff member accepted, ← isOperand_str_iff]
    constructor
    · intro all
      exact all _ given
    · intro counted other inside
      by_cases same : other = .str text
      · exact same ▸ counted
      · exact others other inside same
  case argument =>
    intro arguments position given
    exact (Builtin.exists_numberAt_iff given).trans isOperand_str_iff
  case value =>
    intro x nearest
    obtain ⟨n, _, read, equal⟩ := exists_number_of_finite nearest
    obtain ⟨z, shown, same⟩ := n.numEq_asText
    exact ⟨.num n, .str (num n).asText, n.toBinary64, z, DataType.coerce_of_readNumber? read,
      Transform.toNumber_of_readNumber? read, rfl, equal, shown,
      Binary64.numEq_trans same equal⟩

theorem numericText_everywhere_of_padded_integer :
    (∃ result, Builtin.sum.run 0 [.arr [.bool true, .str " 12 "]] = .ok result) ∧
    (∃ number, Builtin.numberAt [.bool true, .str " 12 "] 1 = .ok number) ∧
    ∃ converted y, DataType.number.coerce (.str " 12 ") = .ok converted ∧
      converted.toNumber? = some y ∧ y.numEq (.ofInt 12) = true := by
  have read : Numeral.read? (Text.trimText " 12 ").toList = some (.ofInt 12) := by rfl
  obtain ⟨x, finite⟩ := @Binary64.exists_ofInt_finite 12 (by decide)
  have nearest : (str " 12 ").toNumber? = some (.finite x) := by
    rw [← finite]
    exact toNumber?_str_eq_some.mpr ⟨_, read, Numeral.toBinary64?_ofInt 12⟩
  have numeric : IsNumericText " 12 " := exists_toNumber?_iff.mp ⟨_, nearest⟩
  obtain ⟨_, calculating, argument, _, _, value⟩ := numericText_everywhere 0 " 12 "
  obtain ⟨converted, _, y, _, coerced, _, number, equal, _⟩ := value x nearest
  refine ⟨(calculating .sum (by decide) _ rfl (by simp [Builtin.operands, Builtin.spread]) ?_).mpr
    numeric, (argument _ 1 rfl).mpr numeric, converted, y, coerced, number, finite ▸ equal⟩
  simp [Builtin.operands, Builtin.spread, IsOperand]

end Json

end FlowLogic
