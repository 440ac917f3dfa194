import FlowLogic.Proofs.Definition.Reading
import FlowLogic.Proofs.Evaluation.Shortcuts
import FlowLogic.Proofs.Json.Numbers

/-!
Templates of constants.  They need no bindings and call nothing, so they always have a result: the
literals one after another.  A literal that is the numeral of a number comes out as numbers are
printed, which is the same text only where it was written so; any other literal comes out as it is.
-/

namespace FlowLogic

open Outcome

namespace Value

/-- How a literal comes out of a template.  Nothing is said of a numeral that is too large for a
number. -/
structure ComesOutAs (text piece : String) : Prop where
  verbatim : (∀ numeral, Numeral.read? text.toList = some numeral → numeral.hasValue = false) →
    piece = text
  /-- As it is, if numbers are printed like that. -/
  unchanged : ∀ n : JsonNumber, n.Exact → text = String.ofList n.chars → piece = text
  integer : ∀ numeral value, Numeral.read? text.toList = some numeral →
    numeral.toInt? = some value → -9223372036854775808 ≤ value → value < 9223372036854775808 →
    piece = String.ofList (intChars value)
  nearest : ∀ numeral x, Numeral.read? text.toList = some numeral →
    (∀ value, numeral.toInt? = some value →
      ¬ (-9223372036854775808 ≤ value ∧ value < 9223372036854775808)) →
    numeral.toBinary64? = some (.finite x) → piece = String.ofList (Json.numberChars (.float x))
  kept : ∀ n, Json.readNumber? text = some (.num n) → Json.readNumber? piece = some (.num n)

theorem asText_literalValue_of_number {text : String} {n : JsonNumber}
    (read : Json.readNumber? text = some (.num n)) :
    (literalValue text).asText = String.ofList (Json.numberChars n) := by
  simp [literalValue, read, Json.asText, Json.asChars]

theorem comesOutAs_literalValue (text : String) : ComesOutAs text (literalValue text).asText where
  verbatim noValue := by
    simp [literalValue, Json.readNumber?_of_no_value noValue, Json.asText, Json.asChars]
  unchanged n exact printed := by
    have read := exact.readNumber?
    rw [Json.numberChars_of_exact exact, ← printed] at read
    rw [asText_literalValue_of_number read, Json.numberChars_of_exact exact, printed]
  integer numeral value read whole low high := by
    have range : -9223372036854775808 ≤ value ∧ value < 18446744073709551616 := ⟨low, by omega⟩
    have number : Json.readNumber? text = some (.num (.int value range)) := by
      rw [Json.readNumber?_of_integer read whole low high, Json.ofInt?, dif_pos range]
    rw [asText_literalValue_of_number number, Json.numberChars]
  nearest numeral x read outside finite := by
    rw [literalValue, Json.readNumber?_of_outside read outside, finite, Option.map_some,
      Option.getD_some, Json.asText, Json.asChars_ofNumber]
  kept n read := by
    obtain ⟨_, _, ⟨m, same, exact⟩ | ⟨absurd, _⟩⟩ := Json.readNumber?_cases read
    · cases same
      rw [asText_literalValue_of_number read, exact.readNumber?]
    · cases absurd

end Value

namespace Node

variable {env : Environment} {data : Bindings}

theorem evalAll_literals (values : List Json) :
    evalAll env data (values.map literal) = .ok values := by
  induction values with
  | nil => rfl
  | cons value rest ih => simp [evalAll, eval, ih]

theorem callsAll_literals (values : List Json) : callsAll (values.map literal) = [] := by
  induction values with
  | nil => rfl
  | cons value rest ih => simp [callsAll, calls, ih]

theorem execute_literals (env : Environment) (data : Bindings) (values : List Json) :
    env.execute (concat (values.map literal)) data = .ok (.appended values) := by
  have resolved : (concat (values.map literal)).Resolved env.registry := by
    rw [resolved_iff_calls, calls, callsAll_literals]
    simp
  rw [Environment.execute_of_resolved data resolved, eval_concat, evalAll_literals, map_ok,
    mapError_ok]

end Node

namespace Token

variable {labels : List Label}

theorem chainedAll_inputs (labels : List Label) : chainedAll (labels.map input) = [] := by
  induction labels with
  | nil => rfl
  | cons label rest ih => simp [chainedAll, chained, ih]

theorem lowerAll_inputs (constant : ∀ label ∈ labels, label.origin = .const) :
    lowerAll (labels.map input) =
      .ok ((labels.map (Value.literalValue ·.text)).map Node.literal) := by
  induction labels with
  | nil => rfl
  | cons label rest ih =>
      rw [List.forall_mem_cons] at constant
      simp [lowerAll, lower, Label.lowerInput, constant.1, ih constant.2]

end Token

namespace Value

theorem lower_of_literals {labels : List Label} (constant : ∀ label ∈ labels, label.origin = .const)
    (several : 2 ≤ labels.length) (template : Bool) :
    lower ⟨.const, ⟨labels.map .input, template⟩, none⟩ =
      .ok (.concat ((labels.map (literalValue ·.text)).map .literal)) := by
  match labels, several with
  | first :: second :: rest, _ =>
      have notAlone : literalResult? ⟨.const, ⟨(first :: second :: rest).map .input, template⟩, none⟩ =
          none := rfl
      rw [lower, notAlone]
      simp only [Expression.lower, Token.lowerAll_inputs constant, map_ok]
      rfl

/-- A constant of several literals has a text as its result on any bindings, made of what becomes of
the literals in their order. -/
theorem result_of_literals {document : Json} {v : Value} {labels : List Label}
    (read : Value.read document = .ok (some v)) (constant : v.kind = .const)
    (inputs : v.expression.tokens = labels.map .input) (several : 2 ≤ labels.length)
    (untyped : v.dataType = none) (env : Environment) (data : Bindings) :
    ∃ pieces, List.Forall₂ (fun label piece => ComesOutAs label.text piece) labels pieces ∧
      v.result env data = .ok (.str (String.join pieces)) := by
  have owned := readAt_ownsTokens read
  obtain ⟨kind, ⟨tokens, template⟩, dataType⟩ := v
  dsimp only at constant inputs untyped
  subst constant inputs untyped
  have origins : ∀ label ∈ labels, label.origin = .const :=
    fun label mem => owned (.input label) (List.mem_map_of_mem mem)
  refine ⟨labels.map fun label => (literalValue label.text).asText, ?_, ?_⟩
  · rw [List.forall₂_map_right_iff, List.forall₂_same]
    exact fun label _ => comesOutAs_literalValue label.text
  · have compiles := lower_of_literals origins several template
    have binds : data.bind (chained ⟨.const, ⟨labels.map .input, template⟩, none⟩) = .ok data := by
      rw [chained, Expression.chained, Token.chainedAll_inputs]
      rfl
    rw [result, resolve_eq_given, given_eq_execute compiles binds, Node.execute_literals]
    simp [convert, Json.appended, Function.comp_def]

theorem result_of_literals_with_numerals :
    ∃ (document : Json) (v : Value) (labels : List Label),
      Value.read document = .ok (some v) ∧ v.kind = .const ∧
        v.expression.tokens = labels.map .input ∧ v.dataType = none ∧
        labels.map Label.text = ["007", " or ", "-42"] ∧
        v.result ⟨.empty, 0⟩ [] = .ok (.str "7 or -42") := by
  let token (text : String) : Json := .obj [("type", .str "input"), ("value", .str text)]
  let document : Json :=
    .obj [("const_value", .arr [token "007", token " or ", token "-42"])]
  let labels : List Label := ["007", " or ", "-42"].map (Label.ofText .const)
  let v : Value := ⟨.const, ⟨labels.map .input, true⟩, none⟩
  have read : Value.read document = .ok (some v) := rfl
  obtain ⟨pieces, become, result⟩ :=
    result_of_literals read rfl rfl (by decide : 2 ≤ labels.length) rfl ⟨.empty, 0⟩ []
  obtain ⟨seven, _, first, becomeRest, rfl⟩ := List.forall₂_cons_left_iff.mp become
  obtain ⟨or, _, second, becomeLast, rfl⟩ := List.forall₂_cons_left_iff.mp becomeRest
  obtain ⟨fortyTwo, _, third, becomeNone, rfl⟩ := List.forall₂_cons_left_iff.mp becomeLast
  obtain rfl := List.forall₂_nil_left_iff.mp becomeNone
  have numeral : Numeral.read? "007".toList = some ⟨false, "007".toList, none, none⟩ := rfl
  obtain rfl := first.integer _ 7 numeral rfl (by decide) (by decide)
  obtain rfl := second.verbatim fun numeral none => by cases none
  obtain rfl := third.unchanged (.int (-42) (by decide)) (by simp [JsonNumber.Exact]) rfl
  exact ⟨document, v, labels, read, rfl, rfl, rfl, rfl, result⟩

/-- The zeros in front of a numeral are lost in a template, as the numeral is printed anew. -/
theorem zeros_lost_in_template :
    ∃ (document : Json) (v : Value),
      Value.read document = .ok (some v) ∧ v.kind = .const ∧ v.dataType = none ∧
        v.expression.tokens = ["007", "x"].map (.input <| .ofText .const ·) ∧
        v.result ⟨.empty, 0⟩ [] = .ok (.str "7x") ∧ String.join ["007", "x"] ≠ "7x" := by
  let token (text : String) : Json := .obj [("type", .str "input"), ("value", .str text)]
  exact ⟨.obj [("const_value", .arr [token "007", token "x"])], _, rfl, rfl, rfl, rfl, rfl, by decide⟩

end Value

end FlowLogic
