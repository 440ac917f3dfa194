import FlowLogic.Proofs.Condition.SoleLeaf
import FlowLogic.Proofs.Evaluation.Templates
import FlowLogic.Proofs.Json.Scalars

/-!
Constants of one number or boolean.  The scalar becomes the text of an input, and evaluation takes a
numeral for its number again; so a number means an equal number, and a boolean its text.
-/

namespace FlowLogic

open Outcome

/-- The document describes a constant whose only token is an input with the scalar as its value. -/
structure Json.ScalarConstant (document token scalar : Json) : Prop where
  kind : ∀ type, document.value? "type" = some type → type = .str "const"
  tokens : document.value? "const_value" = some (.arr [token])
  input : ∃ tag, token.value? "type" = some (.str tag) ∧ TokenKind.ofTag? tag = some .input
  value : token.value? "value" = some scalar

/-- The value has the result, unless a type is declared, and a condition that asks for nothing but
its truth is accepted and gives that truth. -/
structure Value.Means (env : Environment) (data : Bindings) (v : Value) (result : Json)
    (truth : Bool) : Prop where
  result : v.dataType = none → v.result env data = .ok result
  accepted : ∀ c : Condition, c.SoleLeaf (.truth v) →
    ∃ program, c.validate env.registry = .ok program
  truth : ∀ c : Condition, c.SoleLeaf (.truth v) → c.result env data = .ok truth

/-! The value that is read from such a document. -/

theorem Token.readLabel_text (kind : TokenKind) (origin : ValueKind) (text : String)
    (fields : Dict Json) : (readLabel kind origin text fields).text = text := by
  unfold readLabel
  dsimp only
  split <;> rfl

theorem Value.readTemplate_eq (fields : Dict Json) (tokens : List Token) :
    ∃ template, readTemplate fields ⟨tokens, false⟩ = ⟨tokens, template⟩ ∧
      (template = true ↔ fields.value? "is_string_template" = some (.bool true)) := by
  unfold readTemplate
  split
  next stated found => exact ⟨stated, rfl, by simp [found]⟩
  next unstated => exact ⟨false, rfl, by simpa using unstated true⟩

theorem Expression.ofTokens?_input {label : Label} (visible : Text.isBlankText label.text = false) :
    ofTokens? [.input label] = some ⟨[.input label], false⟩ := by
  simp [ofTokens?, Token.dropBlankFirst, Token.dropBlankLast, Token.isBlankInput, visible]

namespace Json.ScalarConstant

variable {document token scalar : Json}

theorem readAt_token (constant : document.ScalarConstant token scalar)
    (single : scalar.kind = .number ∨ scalar.kind = .boolean) (origin : ValueKind) :
    ∃ label : Label, label.text = scalar.asText ∧ label.origin = origin ∧
      ∀ path, Token.readAt origin path token = .ok (.input label) := by
  obtain ⟨_, _, ⟨tag, type, resolves⟩, value⟩ := constant
  cases token with
  | obj fields =>
      refine ⟨Token.readLabel .input origin scalar.asText fields, Token.readLabel_text ..,
        (Token.readLabel_wellFormed ..).origin, ?_⟩
      intro path
      have kind : Token.readKind path fields = .ok .input := by
        simp only [Json.value?] at type
        simp only [Token.readKind, type, Option.bind_some, Json.text?, resolves]
      have text : Token.readText path fields = .ok scalar.asText := by
        simp only [Json.value?] at value
        rw [Token.readText, value]
        cases scalar with
        | bool | num => rfl
        | null | str | arr | obj => simp [Json.kind] at single
      simp only [Token.readAt, kind, text, ok_bind, pure_eq_ok]
  | null | bool | num | str | arr => cases value

theorem visible (constant : document.ScalarConstant token scalar)
    (single : scalar.kind = .number ∨ scalar.kind = .boolean) :
    Text.isBlankText scalar.asText = false := by
  cases scalar with
  | num n => exact n.isBlankText_asText
  | bool truth => cases truth <;> rfl
  | null | str | arr | obj => simp [Json.kind] at single

theorem exists_readAt (constant : document.ScalarConstant token scalar)
    (single : scalar.kind = .number ∨ scalar.kind = .boolean) :
    ∃ (fields : Dict Json) (label : Label), document = .obj fields ∧
      label.text = scalar.asText ∧ label.origin = .const ∧
      ∀ path, Value.readAt path document = Value.readDataType path fields >>= fun dataType =>
        .ok (some ⟨.const, Value.readTemplate fields ⟨[.input label], false⟩, dataType⟩) := by
  obtain ⟨label, text, origin, readToken⟩ := constant.readAt_token single .const
  have kept := Expression.ofTokens?_input (text ▸ visible constant single)
  obtain ⟨typed, tokens, _, _⟩ := constant
  cases document with
  | obj fields =>
      refine ⟨fields, label, rfl, text, origin, ?_⟩
      intro path
      have filled : fields.isEmpty = false := by
        cases fields with
        | nil => cases tokens
        | cons => rfl
      have under : Dict.value? fields ValueKind.const.tokensKey = some (.arr [token]) := tokens
      have kind : Value.readKind path fields = .ok (some .const) := by
        rw [Value.readKind]
        cases type : Dict.value? fields "type" with
        | none => simp [Dict.hasKey, under]
        | some stated =>
            obtain rfl := typed stated type
            rfl
      have expression : ∀ path, Expression.readUnder ValueKind.const.tokensKey .const path fields =
          .ok (some ⟨[.input label], false⟩) := by
        intro path
        simp only [Expression.readUnder_eq, under, Option.map_some, Option.getD_some,
          Expression.readAt, Token.readAll, readToken, ok_bind, pure_eq_ok, kept]
      simp only [Value.readAt, filled, Bool.false_eq_true, if_false, kind, ok_bind, expression,
        pure_eq_ok]
  | null | bool | num | str | arr => cases tokens

end Json.ScalarConstant

namespace Value

theorem means_of_execute {env : Environment} {data bound : Bindings} {v : Value} {program : Node}
    {result : Json} (compiles : v.lower = .ok program) (binds : data.bind v.chained = .ok bound)
    (owned : v.OwnsTokens) (executed : env.execute program bound = .ok result) :
    Means env data v result result.isTrue := by
  have resolved := ((Environment.execute_eq_ok bound).mp executed).1
  have lowered : (ConditionChild.truth v).lower = .ok (.paren program) := by
    rw [ConditionChild.lower, compiles, map_ok]
  have resolvedLeaf : (Node.paren program).Resolved env.registry := by
    rw [Node.resolved_iff_calls] at resolved ⊢
    exact resolved
  have ownedLeaf : ∀ w, ConditionChild.Operand w (.truth v) → w.OwnsTokens := by
    rintro _ ⟨⟩
    exact owned
  have verdict : (ConditionChild.truth v).verdict env bound = .ok result.isTrue := by
    rw [ConditionChild.verdict, computed, compiles, mapError_ok, ok_bind, executed]
    rfl
  refine ⟨?_, ?_, ?_⟩
  · intro untyped
    rw [Value.result, resolve_eq_given, given_eq_execute compiles binds, executed, untyped]
    rfl
  · exact fun c sole => (sole.accepted lowered resolvedLeaf ownedLeaf).1
  · intro c sole
    rw [(sole.accepted lowered resolvedLeaf ownedLeaf).2 data bound binds, verdict]

variable {label : Label} (constant : label.origin = .const) (template : Bool)
  (dataType : Option DataType)

include constant

theorem lower_input : lower ⟨.const, ⟨[.input label], template⟩, dataType⟩ =
    .ok (if template then .concat [.literal (literalValue label.text)]
      else .literal (literalValue label.text)) := by
  cases template with
  | false => rfl
  | true =>
      have notAlone : literalResult? ⟨.const, ⟨[.input label], true⟩, dataType⟩ = none := rfl
      simp only [lower, notAlone, Expression.lower, Token.lowerAll, Token.lower,
        Label.lowerInput, constant, ok_bind, pure_eq_ok, map_ok, Node.ofParts, if_true]

theorem means_literal (env : Environment) (data : Bindings) {result : Json} {truth : Bool}
    (comes : result = if template then .str (literalValue label.text).asText
      else literalValue label.text) (holds : result.isTrue = truth) :
    Means env data ⟨.const, ⟨[.input label], template⟩, dataType⟩ result truth := by
  subst holds
  have owned : OwnsTokens ⟨.const, ⟨[.input label], template⟩, dataType⟩ := by
    intro token member
    obtain rfl := List.mem_singleton.mp member
    exact constant
  have binds : data.bind (chained ⟨.const, ⟨[.input label], template⟩, dataType⟩) = .ok data := rfl
  apply means_of_execute (lower_input constant template dataType) binds owned
  rw [comes]
  split
  · have appended : Json.appended [literalValue label.text] =
        .str (literalValue label.text).asText := by simp [Json.appended]
    rw [← appended]
    exact Node.execute_literals env data [literalValue label.text]
  · exact Environment.execute_literal env _ data

theorem means_number {n : JsonNumber} (text : label.text = (Json.num n).asText)
    (env : Environment) (data : Bindings) :
    ∃ m : JsonNumber, Json.strictEq (.num m) (.num n) = true ∧ (n.Exact → m = n) ∧
      Means env data ⟨.const, ⟨[.input label], template⟩, dataType⟩
        (if template then .str (Json.num m).asText else .num m) (Json.num n).isTrue := by
  obtain ⟨m, number, exact, equal⟩ := n.exists_readNumber?
  have literal : literalValue label.text = .num m := by
    rw [text, literalValue, Json.asText, Json.asChars, number, Option.getD_some]
  have truth : (if template then Json.str (Json.num m).asText else .num m).isTrue =
      (Json.num n).isTrue := by
    rw [Json.isTrue_eq_of_strictEq equal]
    split
    · exact exact.isTrue_asText
    · rfl
  refine ⟨m, by rwa [Json.strictEq_comm], ?_, ?_⟩
  · intro exactly
    have same := exactly.readNumber?
    rw [number] at same
    cases same
    rfl
  · exact means_literal constant template dataType env data (by rw [literal]) truth

theorem means_boolean {b : Bool} (text : label.text = (Json.bool b).asText) (env : Environment)
    (data : Bindings) :
    Means env data ⟨.const, ⟨[.input label], template⟩, dataType⟩
      (.str (if b then "true" else "false")) true := by
  have literal : literalValue label.text = .str (if b then "true" else "false") := by
    rw [text]
    cases b <;> rfl
  refine means_literal constant template dataType env data ?_ (by cases b <;> rfl)
  rw [literal]
  cases b <;> cases template <;> rfl

end Value

/-- What a constant of one scalar means.  A number means an equal number, the same one unless it is
an integer above the signed range or a float written as an integer; as a template it means the text
of that number; and either way it is true where the number is.  A boolean means its text, which is
true. -/
theorem Value.means_scalar {document token scalar : Json}
    (constant : document.ScalarConstant token scalar)
    (single : scalar.kind = .number ∨ scalar.kind = .boolean) (env : Environment)
    (data : Bindings) :
    (document.value? "data_type" = none →
      ∃ v, Value.read document = .ok (some v) ∧ v.dataType = none) ∧
    ∀ path v, Value.readAt path document = .ok (some v) →
      (v.expression.template = true ↔ document.value? "is_string_template" = some (.bool true)) ∧
      (∀ n, scalar = .num n → ∃ m : JsonNumber, Json.strictEq (.num m) (.num n) = true ∧
        (n.Exact → m = n) ∧
        v.Means env data (if v.expression.template then .str (Json.num m).asText else .num m)
          (Json.num n).isTrue) ∧
      ∀ b, scalar = .bool b → v.Means env data (.str (if b then "true" else "false")) true := by
  obtain ⟨fields, label, rfl, text, origin, read⟩ := constant.exists_readAt single
  constructor
  · intro untyped
    have plain : Value.readDataType [] fields = .ok none := by
      rw [readDataType, show fields.value? "data_type" = none from untyped]
    exact ⟨_, by rw [Value.read, read, plain, ok_bind], rfl⟩
  · intro path v described
    rw [read] at described
    obtain ⟨dataType, _, returned⟩ := bind_eq_ok.mp described
    cases returned
    obtain ⟨template, stated, asked⟩ := readTemplate_eq fields [.input label]
    rw [stated]
    refine ⟨asked, ?_, ?_⟩
    · rintro n rfl
      exact means_number origin template dataType text env data
    · rintro b rfl
      exact means_boolean origin template dataType text env data

theorem Value.means_scalar_of_large_integer :
    let largest : JsonNumber := .int 18446744073709551615 (by decide)
    ∃ (document token : Json) (v : Value) (m : JsonNumber),
      document.ScalarConstant token (.num largest) ∧ Value.read document = .ok (some v) ∧
        Json.strictEq (.num m) (.num largest) = true ∧
        v.result ⟨.empty, 0⟩ [] = .ok (.num m) ∧
        Condition.result ⟨.empty, 0⟩ [] ⟨.or, [.group ⟨.and, [.truth v]⟩]⟩ = .ok true := by
  intro largest
  let token : Json := .obj [("type", .str "input_count"), ("value", .num largest)]
  let document : Json := .obj [("const_value", .arr [token])]
  have constant : document.ScalarConstant token (.num largest) := by
    refine ⟨?_, rfl, ⟨"input_count", rfl, rfl⟩, rfl⟩
    rintro _ ⟨⟩
  obtain ⟨reads, means⟩ := means_scalar constant (.inl rfl) ⟨.empty, 0⟩ []
  obtain ⟨v, read, untyped⟩ := reads rfl
  obtain ⟨asked, number, _⟩ := means [] v read
  obtain ⟨m, equal, _, meant⟩ := number largest rfl
  have plain : v.expression.template = false := by
    rw [Bool.eq_false_iff, ne_eq, asked]
    rintro ⟨⟩
  rw [plain] at meant
  exact ⟨document, token, v, m, constant, read, equal, meant.result untyped,
    meant.truth _ (.inner .or (.alone .and))⟩

/-- A boolean becomes a text, which is not equal to it and is true for both booleans; and a template
makes a text of a number. -/
theorem Value.scalars_become_texts :
    let document (scalar : Json) (template : Bool) : Json := .obj [
      ("const_value", .arr [.obj [("type", .str "input"), ("value", scalar)]]),
      ("is_string_template", .bool template)]
    ∃ v w : Value,
      Value.read (document (.bool false) false) = .ok (some v) ∧
        v.result ⟨.empty, 0⟩ [] = .ok (.str "false") ∧
        Json.strictEq (.str "false") (.bool false) = false ∧
        Condition.result ⟨.empty, 0⟩ [] ⟨.and, [.truth v]⟩ = .ok true ∧
      Value.read (document (.num (.int 1 (by decide))) true) = .ok (some w) ∧
        w.result ⟨.empty, 0⟩ [] = .ok (.str "1") ∧
        Json.strictEq (.str "1") (.num (.int 1 (by decide))) = false :=
  ⟨_, _, rfl, rfl, rfl, rfl, rfl, rfl, rfl⟩

end FlowLogic
