import FlowLogic.Proofs.Condition.SoleLeaf
import FlowLogic.Proofs.Evaluation.Context
import FlowLogic.Proofs.Json.Scalars

/-!
Questions about the presence of a value.  Asked of a result, `empty` is true of what is unset, and
`valuable` of the blank text and `false` as well.  Literals are not evaluated: both are true of the
same ones, those whose text counts as empty, zeros and the word `false` among them.
-/

namespace FlowLogic

open Outcome

variable {env : Environment} {data bound : Bindings}

namespace Json

theorem isUnset_iff {value : Json} : value.isUnset = true ↔ value = .null ∨ value = .arr [] := by
  cases value <;> simp [isUnset]

theorem looseEq_blank_iff {value : Json} :
    value.looseEq (.str "") = true ↔ value = .null ∨ value = .str "" ∨ value = .bool false := by
  have unread : (Json.str "").toNumber? = none := rfl
  have blank : (Json.str "").asText = "" := rfl
  cases value with
  | num n =>
      have filled : (Json.num n).asText ≠ "" := by
        intro empty
        have visible := n.isBlankText_asText
        rw [empty] at visible
        cases visible
      simp [looseEq, scalarEq, unread, blank, filled]
  | str text =>
      have shown : (Json.str text).asText = text := by simp [asText, asChars]
      simp [looseEq, scalarEq, unread, blank, shown]
  | null | arr | obj => simp [looseEq]
  | bool truth => cases truth <;> simp [looseEq, isTrue]

end Json

theorem Node.readFragment?_eq_raw {source code : String} {value : Json}
    (means : readFragment? source = some (.raw code value)) :
    Fragment.read? source = some [.literal value] := by
  unfold readFragment? at means
  split at means
  next literal read =>
    cases means
    exact read
  next term notLiteral read =>
    cases term with
    | literal => exact absurd rfl (notLiteral _)
    | lookup => cases means
  next => cases means
  next => cases means

namespace Value

variable {v : Value} {result : Json} {program : Node}

theorem exists_bound (found : v.given env data = .ok result) :
    ∃ bound, data.bind v.chained = .ok bound := by
  obtain ⟨kind, e, dataType⟩ := v
  rw [chained]
  cases literal : literalResult? ⟨kind, e, dataType⟩ with
  | some value =>
      obtain ⟨_, alone, _⟩ := Option.map_eq_some_iff.mp literal
      unfold literal? at alone
      split at alone
      next label _ single =>
        obtain rfl : e = ⟨[.input label], false⟩ := Expression.single?_eq_some.mp single
        exact ⟨data, rfl⟩
      next => cases alone
  | none =>
      simp only [given, literal] at found
      unfold Expression.resolve at found
      split at found
      next => exact ⟨data, rfl⟩
      next =>
        obtain ⟨bound, binds, _⟩ := bind_eq_ok.mp found
        exact ⟨bound, mapError_eq_ok.mp binds⟩

theorem computed_of_result (found : v.untyped.result env data = .ok result)
    (compiles : v.lower = .ok program) :
    ∃ bound, data.bind v.chained = .ok bound ∧ v.computed env bound = .ok result := by
  rw [result_untyped] at found
  obtain ⟨bound, binds⟩ := exists_bound found
  refine ⟨bound, binds, ?_⟩
  rw [computed, compiles, mapError_ok, ok_bind, ← given_eq_execute compiles binds, found]

theorem computed_field {label : Label} (alone : v.expression = ⟨[.field label], false⟩)
    (plain : label.chain = none) (leads : label.path ≠ []) (env : Environment) (data : Bindings) :
    v.computed env data = .ok ((data.lookup? label.path).getD .null) := by
  obtain ⟨kind, e, dataType⟩ := v
  subst alone
  have unkeyed : label.chainKey? = none := by rw [Label.chainKey?, plain, Option.map_none]
  have lowered : lower ⟨kind, ⟨[.field label], false⟩, dataType⟩ = .ok (.lookup label.path) := by
    have notLiteral : literalResult? ⟨kind, ⟨[.field label], false⟩, dataType⟩ = none := by
      cases kind <;> rfl
    simp [lower, notLiteral, Expression.lower_alone, Token.lower, Label.lowerField, unkeyed, leads]
  rw [computed, lowered]
  rfl

end Value

/-- The input states the literal: as a constant, or as source text with nothing else in it.  Blank
source text stands for itself. -/
inductive Label.States (label : Label) : Json → Prop
  | constant (origin : label.origin = .const) : States label (Value.literalValue label.text)
  | blank (origin : label.origin = .expression) (blank : Text.isBlankText label.text = true) :
      States label (.str label.text)
  | fragment {literal : Json} (origin : label.origin = .expression)
      (visible : Text.isBlankText label.text = false)
      (read : Node.Fragment.read? label.text = some [.literal literal]) : States label literal

def Value.IsLiteral (v : Value) (literal : Json) : Prop :=
  ∃ label : Label, v.expression = ⟨[.input label], false⟩ ∧ label.States literal

namespace Presence

def Asks : Presence → Json → Prop
  | .empty, result => result = .null ∨ result = .arr []
  | .notEmpty, result => ¬ (result = .null ∨ result = .arr [])
  | .valuable, result =>
    result = .null ∨ result = .arr [] ∨ result = .str "" ∨ result = .bool false
  | .noValuable, result =>
    ¬ (result = .null ∨ result = .arr [] ∨ result = .str "" ∨ result = .bool false)

def AsksLiteral : Presence → Json → Prop
  | .empty, literal | .valuable, literal =>
    literal = .null ∨ literal.asText ∈ ["", "0", "false", "[]"]
  | .notEmpty, literal | .noValuable, literal =>
    ¬ (literal = .null ∨ literal.asText ∈ ["", "0", "false", "[]"])

theorem holds_iff (asked : Presence) (result : Json) :
    asked.holds false result = true ↔ asked.Asks result := by
  have blank : (result.isUnset || result.looseEq (.str "")) = true ↔
      result = .null ∨ result = .arr [] ∨ result = .str "" ∨ result = .bool false := by
    rw [Bool.or_eq_true, Json.isUnset_iff, Json.looseEq_blank_iff]
    tauto
  cases asked with
  | empty => exact Json.isUnset_iff
  | notEmpty => rw [holds, Asks, Bool.not_eq_true', ← Bool.not_eq_true, Json.isUnset_iff]
  | valuable => exact blank
  | noValuable => rw [holds, Asks, Bool.not_eq_true', ← Bool.not_eq_true, blank]

theorem holds_literal_iff (asked : Presence) (literal : Json) :
    asked.holds true literal = true ↔ asked.AsksLiteral literal := by
  have counts : isEmptyLiteral literal = true ↔
      literal = .null ∨ literal.asText ∈ ["", "0", "false", "[]"] := by
    cases literal <;> simp [isEmptyLiteral, emptyTexts]
  cases asked with
  | empty | valuable => exact counts
  | notEmpty | noValuable =>
      rw [holds, AsksLiteral, Bool.not_eq_true', ← Bool.not_eq_true, counts]

theorem inputValue?_eq_some {label : Label} {literal : Json} :
    inputValue? label = some literal ↔ label.States literal := by
  constructor
  · intro found
    unfold inputValue? at found
    split at found
    next origin =>
      cases found
      exact .constant origin
    next origin =>
      split at found
      next code value lowered =>
        cases found
        unfold Label.lowerFragment at lowered
        split at lowered
        next blank =>
          cases lowered
          exact .blank origin blank
        next visible =>
          split at lowered
          next node read =>
            cases lowered
            exact .fragment origin (by simpa using visible) (Node.readFragment?_eq_raw read)
          next => cases lowered
      next => cases found
  · rintro (origin | ⟨origin, blank⟩ | ⟨origin, visible, read⟩)
    · simp [inputValue?, origin]
    · simp [inputValue?, origin, Label.lowerFragment, blank]
    · simp [inputValue?, origin, Label.lowerFragment, visible, Node.readFragment?, read]

theorem literalValue?_eq_some {v : Value} {literal : Json} :
    literalValue? v = some literal ↔ v.IsLiteral literal := by
  constructor
  · intro found
    unfold literalValue? at found
    split at found
    next label single =>
      exact ⟨label, Expression.single?_eq_some.mp single, inputValue?_eq_some.mp found⟩
    next => cases found
  · rintro ⟨label, alone, states⟩
    rw [literalValue?, Expression.single?_eq_some.mpr alone]
    exact inputValue?_eq_some.mpr states

theorem computed_of_literal (asked : Presence) {v : Value} {literal : Json}
    (folds : literalValue? v = some literal) (env : Environment) (data : Bindings) :
    (ConditionChild.presence asked v).computed env data = .ok (asked.holds true literal) := by
  rw [← ofLiteral_eq, ConditionChild.computed, ConditionChild.lower, lower, folds]
  rfl

theorem computed_of_result (asked : Presence) {v : Value} {result : Json}
    (unsettled : literalValue? v = none) (found : v.computed env data = .ok result) :
    (ConditionChild.presence asked v).computed env data = .ok (asked.holds false result) := by
  obtain ⟨node, lowered, resolved, evaluated⟩ := Value.computed_eq_ok.mp found
  rw [ConditionChild.computed_eq_ok]
  refine ⟨.paren (asked.node node), .bool (asked.holds false result), ?_, ?_, ?_, rfl⟩
  · simp only [ConditionChild.lower, lower, unsettled, lowered, map_ok]
  · rw [Node.resolved_iff_calls, Node.calls, calls_node, ← Node.resolved_iff_calls]
    exact resolved
  · rw [Node.eval, eval_node, evaluated, map_ok]

/-- The outcome is an answer, which is yes exactly if the proposition holds. -/
def Answers (outcome : Except FlowError Bool) (p : Prop) : Prop :=
  ∃ truth, outcome = .ok truth ∧ (truth = true ↔ p)

/-- The truth table of the questions.  A question about a literal has the same answer on all
bindings, which its text decides.  Any other operand is evaluated, and its result decides, whatever
type is declared for it; a field that is not found counts as `null`. -/
theorem answers_as_asked (asked : Presence) (v : Value) :
    (∀ literal, v.IsLiteral literal → ∀ env data,
      Answers ((ConditionChild.presence asked v).computed env data) (asked.AsksLiteral literal) ∧
        ∀ c : Condition, c.SoleLeaf (.presence asked v) →
          Answers (c.result env data) (asked.AsksLiteral literal)) ∧
    ((∀ literal, ¬ v.IsLiteral literal) → ∀ env data result,
      (v.computed env data = .ok result →
        Answers ((ConditionChild.presence asked v).computed env data) (asked.Asks result)) ∧
      (v.untyped.result env data = .ok result → (∃ program, v.lower = .ok program) →
        ∀ c : Condition, c.SoleLeaf (.presence asked v) →
          Answers (c.result env data) (asked.Asks result))) ∧
    ∀ label, v.expression = ⟨[.field label], false⟩ → label.chain = none → label.path ≠ [] →
      ∀ env data, v.computed env data = .ok ((data.lookup? label.path).getD .null) := by
  refine ⟨?_, ?_, fun label alone plain leads => Value.computed_field alone plain leads⟩
  · intro literal isLiteral env data
    have folds := literalValue?_eq_some.mpr isLiteral
    have answer := asked.computed_of_literal folds env
    refine ⟨⟨_, answer data, holds_literal_iff asked literal⟩, fun c sole => ?_⟩
    obtain ⟨label, alone, _⟩ := isLiteral
    have chainless : (ConditionChild.presence asked v).chained = [] := by
      obtain ⟨kind, e, dataType⟩ := v
      subst alone
      rfl
    refine ⟨_, ?_, holds_literal_iff asked literal⟩
    rw [sole.result_eq, chainless]
    exact answer data
  · intro notLiteral env data result
    have unsettled : literalValue? v = none := by
      rw [Option.eq_none_iff_forall_ne_some]
      exact fun literal folds => notLiteral literal (literalValue?_eq_some.mp folds)
    constructor
    · intro found
      exact ⟨_, asked.computed_of_result unsettled found, holds_iff asked result⟩
    · rintro found ⟨program, compiles⟩ c sole
      obtain ⟨bound, binds, computed⟩ := Value.computed_of_result found compiles
      refine ⟨_, ?_, holds_iff asked result⟩
      rw [sole.result_eq, ConditionChild.chained, binds]
      exact asked.computed_of_result unsettled computed

theorem answers_as_asked_of_zeros :
    ∃ (env : Environment) (data : Bindings) (zero count missing : Value),
      zero.IsLiteral (.num (.int 0 (by decide))) ∧ (∀ literal, ¬ count.IsLiteral literal) ∧
        count.untyped.result env data = .ok (.str "0") ∧
        (∀ literal, ¬ missing.IsLiteral literal) ∧ missing.untyped.result env data = .ok .null ∧
        Condition.result env data ⟨.and, [.presence .valuable zero]⟩ = .ok true ∧
        Condition.result env data ⟨.or, [.group ⟨.and, [.presence .valuable count]⟩]⟩ = .ok false ∧
        Condition.result env data ⟨.and, [.presence .empty missing]⟩ = .ok true := by
  let env : Environment := ⟨.empty, 0⟩
  let data : Bindings := [("count", .str "0")]
  let zero : Value := ⟨.const, ⟨[.input (.ofText .const "0")], false⟩, none⟩
  have isZero : zero.IsLiteral (.num (.int 0 (by decide))) := ⟨_, rfl, .constant rfl⟩
  have field (path : String) (literal : Json) : ¬ (Value.ofField path).IsLiteral literal := by
    rintro ⟨_, ⟨⟩, _⟩
  have counted : (Value.ofField "count").untyped.result env data = .ok (.str "0") := rfl
  have missed : (Value.ofField "none").untyped.result env data = .ok .null := rfl
  obtain ⟨literal, _⟩ := answers_as_asked .valuable zero
  obtain ⟨_, evaluated, _⟩ := answers_as_asked .valuable (.ofField "count")
  obtain ⟨_, absent, _⟩ := answers_as_asked .empty (.ofField "none")
  obtain ⟨yes, answered, asks⟩ := (literal _ isZero env data).2 _ (.alone .and)
  obtain ⟨no, answeredCount, asksCount⟩ :=
    (evaluated (field "count") env data _).2 counted ⟨_, rfl⟩ _ (.inner .or (.alone .and))
  obtain ⟨unset, answeredMissing, asksMissing⟩ :=
    (absent (field "none") env data _).2 missed ⟨_, rfl⟩ _ (.alone .and)
  obtain rfl : yes = true := asks.mpr (.inr (by decide))
  obtain rfl : no = false := by
    rw [← Bool.not_eq_true, asksCount]
    simp [Asks]
  obtain rfl : unset = true := asksMissing.mpr (.inl rfl)
  exact ⟨env, data, zero, .ofField "count", .ofField "none", isZero, field "count", counted,
    field "none", missed, answered, answeredCount, answeredMissing⟩

end Presence

end FlowLogic
