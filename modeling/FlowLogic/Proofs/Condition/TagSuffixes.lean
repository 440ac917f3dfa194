import FlowLogic.Evaluation.Basic
import FlowLogic.Proofs.Condition.Operands
import FlowLogic.Proofs.Definition.Tags
import FlowLogic.Proofs.Dict
import Mathlib.Logic.Relation

/-!
Documents whose tokens are tagged with a suffix.  A suffix behind an exact tag changes nothing of
what a document reads as, wherever in it the token stands.
-/

namespace FlowLogic

open Outcome TokenKind

inductive Json.Role where
  | value
  | token
  | condition

/-- The tag of one token in the document got an underscore and a suffix. -/
inductive Json.Suffixed : Json.Role → Json → Json → Prop
  | tag (before : Dict Json) {after : Dict Json} {tag : String} (exact : (exactTag? tag).isSome)
      (apart : tag ≠ jointTag) (suffix : String) :
      Suffixed .token (.obj (before ++ ("type", .str tag) :: after))
        (.obj (before ++ ("type", .str (tag ++ "_" ++ suffix)) :: after))
  | argument (before : Dict Json) {after : Dict Json} (items : List Json) {others : List Json}
      {value suffixed : Json} (inner : Suffixed .value value suffixed) :
      Suffixed .token (.obj (before ++ ("args", .arr (items ++ value :: others)) :: after))
        (.obj (before ++ ("args", .arr (items ++ suffixed :: others)) :: after))
  | token (before : Dict Json) {after : Dict Json} (kind : ValueKind) (items : List Json)
      {others : List Json} {token suffixed : Json} (inner : Suffixed .token token suffixed) :
      Suffixed .value (.obj (before ++ (kind.tokensKey, .arr (items ++ token :: others)) :: after))
        (.obj (before ++ (kind.tokensKey, .arr (items ++ suffixed :: others)) :: after))
  | operand (before : Dict Json) {after : Dict Json} {key : String} {value suffixed : Json}
      (place : key ∈ ["left_operands", "right_operands", "operands"])
      (inner : Suffixed .value value suffixed) :
      Suffixed .condition (.obj (before ++ (key, value) :: after))
        (.obj (before ++ (key, suffixed) :: after))
  | child (before : Dict Json) {after : Dict Json} (items : List Json) {others : List Json}
      {child suffixed : Json} (inner : Suffixed .condition child suffixed) :
      Suffixed .condition (.obj (before ++ ("children", .arr (items ++ child :: others)) :: after))
        (.obj (before ++ ("children", .arr (items ++ suffixed :: others)) :: after))

/-- Both read alike at any place, errors included; a part of a condition does so as a whole
document and as a child. -/
def Json.ReadAlike : Json.Role → Json → Json → Prop
  | .value, document, other => ∀ path, Value.readAt path document = Value.readAt path other
  | .token, document, other =>
    ∀ origin path, Token.readAt origin path document = Token.readAt origin path other
  | .condition, document, other =>
    ∀ path, Condition.readAt path document = Condition.readAt path other ∧
      ConditionChild.readAt path document = ConditionChild.readAt path other

variable {fields others : Dict Json} {before after : Dict Json}

/-! A token is read from its kind, its arguments and what stands under the other keys. -/

namespace Token

theorem payloadKey_ne (kind : TokenKind) : "type" ≠ kind.payloadKey ∧ "args" ≠ kind.payloadKey := by
  rcases kind with _ | _ | _ | (_ | _ | _ | _ | _ | _ | _) <;> decide

theorem readAt_congr (kind : ∀ path, readKind path fields = readKind path others)
    (arguments : ∀ path, Value.readArguments path fields = Value.readArguments path others)
    (rest : ∀ key, "type" ≠ key → "args" ≠ key → fields.value? key = others.value? key)
    (origin : ValueKind) (path : Path) :
    readAt origin path (.obj fields) = readAt origin path (.obj others) := by
  have text : ∀ path, readText path fields = readText path others := by
    intro path
    rw [readText, readText, rest "value" (by decide) (by decide)]
  have label : ∀ kind text,
      readLabel kind origin text fields = readLabel kind origin text others := by
    intro kind text
    simp only [readLabel, textUnder?, rest "name" (by decide) (by decide),
      rest "component_id" (by decide) (by decide), rest "trans" (by decide) (by decide)]
  have payload : ∀ kind : TokenKind,
      fields.value? kind.payloadKey = others.value? kind.payloadKey := fun kind =>
    rest _ (payloadKey_ne kind).1 (payloadKey_ne kind).2
  have members : ∀ kind : TokenKind, Member.readUnder kind.payloadKey fields =
      Member.readUnder kind.payloadKey others := by
    intro kind
    rw [Member.readUnder_eq, Member.readUnder_eq, payload]
  simp only [readAt, kind, text, label, arguments, payload, members]

theorem readAll_congr {token other : Json} (same : Json.ReadAlike .token token other)
    (items rest : List Json) (origin : ValueKind) (path : Path) (position : Nat) :
    readAll origin path position (items ++ token :: rest) =
      readAll origin path position (items ++ other :: rest) := by
  induction items generalizing position with
  | nil => rw [List.nil_append, List.nil_append, readAll, readAll, same]
  | cons item items ih => rw [List.cons_append, List.cons_append, readAll, readAll, ih]

end Token

namespace Value

theorem readAll_congr {value other : Json} (same : Json.ReadAlike .value value other)
    (items rest : List Json) (path : Path) (position : Nat) :
    readAll path position (items ++ value :: rest) =
      readAll path position (items ++ other :: rest) := by
  induction items generalizing position with
  | nil => rw [List.nil_append, List.nil_append, readAll, readAll, same]
  | cons item items ih => rw [List.cons_append, List.cons_append, readAll, readAll, ih]

end Value

theorem Value.readAt_congr (filled : fields.isEmpty = others.isEmpty)
    (kind : ∀ path, readKind path fields = readKind path others)
    (tokens : ∀ (kind : ValueKind) path, Expression.readUnder kind.tokensKey kind path fields =
      Expression.readUnder kind.tokensKey kind path others)
    (dataType : fields.value? "data_type" = others.value? "data_type")
    (template : fields.value? "is_string_template" = others.value? "is_string_template") :
    Json.ReadAlike .value (.obj fields) (.obj others) := by
  intro path
  simp only [readAt, filled, kind, tokens, readDataType, readTemplate, dataType, template]

theorem Condition.readAlike_congr (connective : fields.value? "ops" = others.value? "ops")
    (children : ∀ path,
      ConditionChild.readUnder path fields = ConditionChild.readUnder path others)
    (keys : ∀ key, fields.hasKey key = others.hasKey key)
    (leaf : ConditionChild.isGroup others = false →
      ∀ path, ConditionChild.readLeaf path fields = ConditionChild.readLeaf path others) :
    Json.ReadAlike .condition (.obj fields) (.obj others) := by
  intro path
  have group : ConditionChild.isGroup fields = ConditionChild.isGroup others := by
    rw [ConditionChild.isGroup, ConditionChild.isGroup, keys, keys]
  refine ⟨?_, ?_⟩
  · simp only [Condition.readAt, readConnective, connective, children]
  · simp only [ConditionChild.readAt, readConnective, connective, children, group]
    split
    · rfl
    next alone => rw [leaf (Bool.eq_false_iff.mpr alone)]

theorem ConditionChild.readAll_congr {child other : Json}
    (same : Json.ReadAlike .condition child other) (items rest : List Json) (path : Path)
    (position : Nat) :
    readAll path position (items ++ child :: rest) =
      readAll path position (items ++ other :: rest) := by
  induction items generalizing position with
  | nil => rw [List.nil_append, List.nil_append, readAll, readAll, (same _).2]
  | cons item items ih => rw [List.cons_append, List.cons_append, readAll, readAll, ih]

theorem ValueKind.tokensKey_ne (kind : ValueKind) : kind.tokensKey ≠ "type" ∧
    kind.tokensKey ≠ "data_type" ∧ kind.tokensKey ≠ "is_string_template" := by
  cases kind <;> decide

namespace Json.Suffixed

theorem readKind_tag {tag : String} (exact : (exactTag? tag).isSome) (apart : tag ≠ jointTag)
    (suffix : String) (path : Path) :
    Token.readKind path (before ++ ("type", .str tag) :: after) =
      Token.readKind path (before ++ ("type", .str (tag ++ "_" ++ suffix)) :: after) := by
  obtain ⟨kind, exact⟩ := Option.isSome_iff_exists.mp exact
  have whole : ofTag? tag = some kind := by rw [ofTag?, exact, Option.some_or]
  unfold Token.readKind
  rw [Dict.value?_entry, Dict.value?_entry]
  cases before.value? "type" with
  | some earlier => rfl
  | none => simp only [Option.getD_none, Option.bind_some, Json.text?, whole,
      ofTag?_suffixed exact apart suffix]

theorem readAlike_tag {tag : String} (exact : (exactTag? tag).isSome) (apart : tag ≠ jointTag)
    (suffix : String) :
    ReadAlike .token (.obj (before ++ ("type", .str tag) :: after))
      (.obj (before ++ ("type", .str (tag ++ "_" ++ suffix)) :: after)) := by
  apply Token.readAt_congr (readKind_tag exact apart suffix)
  · intro path
    rw [Value.readArguments_eq, Value.readArguments_eq, Dict.value?_replaced (by decide)]
  · exact fun key other _ => Dict.value?_replaced other

theorem readAlike_argument {items rest : List Json} {value other : Json}
    (same : ReadAlike .value value other) :
    ReadAlike .token (.obj (before ++ ("args", .arr (items ++ value :: rest)) :: after))
      (.obj (before ++ ("args", .arr (items ++ other :: rest)) :: after)) := by
  apply Token.readAt_congr
  · intro path
    rw [Token.readKind, Token.readKind, Dict.value?_replaced (by decide)]
  · intro path
    rw [Value.readArguments_eq, Value.readArguments_eq]
    refine Dict.value?_entry_congr (fun found => (found.map (Value.readList path)).getD _) ?_
    simp only [Option.map_some, Option.getD_some, Value.readList]
    exact Value.readAll_congr same items rest path 0
  · exact fun key _ other => Dict.value?_replaced other

theorem readAlike_token (kind : ValueKind) {items rest : List Json} {token other : Json}
    (same : ReadAlike .token token other) :
    ReadAlike .value (.obj (before ++ (kind.tokensKey, .arr (items ++ token :: rest)) :: after))
      (.obj (before ++ (kind.tokensKey, .arr (items ++ other :: rest)) :: after)) := by
  apply Value.readAt_congr (by cases before <;> rfl)
  · intro path
    have type : (before ++ (kind.tokensKey, Json.arr (items ++ token :: rest)) :: after).value?
        "type" = (before ++ (kind.tokensKey, Json.arr (items ++ other :: rest)) :: after).value?
        "type" := Dict.value?_replaced kind.tokensKey_ne.1
    have keys : ∀ name,
        (before ++ (kind.tokensKey, Json.arr (items ++ token :: rest)) :: after).hasKey name =
        (before ++ (kind.tokensKey, Json.arr (items ++ other :: rest)) :: after).hasKey name :=
      fun _ => Dict.hasKey_replaced
    simp only [Value.readKind, type, keys]
  · intro read path
    rw [Expression.readUnder_eq, Expression.readUnder_eq]
    by_cases key : kind.tokensKey = read.tokensKey
    · rw [← key]
      refine Dict.value?_entry_congr
        (fun found => (found.map (Expression.readAt read path)).getD _) ?_
      simp only [Option.map_some, Option.getD_some, Expression.readAt]
      rw [Token.readAll_congr same]
    · rw [Dict.value?_replaced key]
  · exact Dict.value?_replaced kind.tokensKey_ne.2.1
  · exact Dict.value?_replaced kind.tokensKey_ne.2.2

theorem readAlike_operand {key : String} {value other : Json}
    (place : key ∈ ["left_operands", "right_operands", "operands"])
    (same : ReadAlike .value value other) :
    ReadAlike .condition (.obj (before ++ (key, value) :: after))
      (.obj (before ++ (key, other) :: after)) := by
  obtain ⟨notType, notAsked, notOps, notChildren⟩ :
      key ≠ "type" ∧ key ≠ "condition" ∧ key ≠ "ops" ∧ key ≠ "children" := by
    simp only [List.mem_cons, List.not_mem_nil, or_false] at place
    rcases place with rfl | rfl | rfl <;> decide
  have under : ∀ name, key ≠ name → (before ++ (key, value) :: after).value? name =
      (before ++ (key, other) :: after).value? name := fun _ => Dict.value?_replaced
  have keys : ∀ name, (before ++ (key, value) :: after).hasKey name =
      (before ++ (key, other) :: after).hasKey name := fun _ => Dict.hasKey_replaced
  have operand : ∀ name path,
      ConditionChild.readOperand name path (before ++ (key, value) :: after) =
        ConditionChild.readOperand name path (before ++ (key, other) :: after) := by
    intro name path
    unfold ConditionChild.readOperand
    by_cases here : key = name
    · subst here
      rw [Dict.value?_entry, Dict.value?_entry]
      cases before.value? key with
      | some earlier => rfl
      | none => simp only [Option.getD_none, Option.getD_some, same (path.key key)]
    · rw [under name here]
  apply Condition.readAlike_congr
  · exact under "ops" notOps
  · intro path
    rw [ConditionChild.readUnder_eq, ConditionChild.readUnder_eq, under "children" notChildren]
  · exact keys
  · intro _ path
    simp only [ConditionChild.readLeaf, ConditionChild.readType, ConditionChild.readCompare,
      ConditionChild.readOperator, operand, keys, under "type" notType,
      under "condition" notAsked]

theorem readAlike_child {items rest : List Json} {child other : Json}
    (same : ReadAlike .condition child other) :
    ReadAlike .condition
      (.obj (before ++ ("children", .arr (items ++ child :: rest)) :: after))
      (.obj (before ++ ("children", .arr (items ++ other :: rest)) :: after)) := by
  apply Condition.readAlike_congr
  · exact Dict.value?_replaced (by decide)
  · intro path
    rw [ConditionChild.readUnder_eq, ConditionChild.readUnder_eq]
    refine Dict.value?_entry_congr
      (fun found => (found.map (ConditionChild.readList path)).getD _) ?_
    simp only [Option.map_some, Option.getD_some, ConditionChild.readList]
    exact ConditionChild.readAll_congr same items rest path 0
  · exact fun name => Dict.hasKey_replaced
  · intro leaf
    simp [ConditionChild.isGroup, Dict.hasKey, Dict.value?_entry] at leaf

theorem readAlike {role : Role} {document suffixed : Json}
    (grown : Suffixed role document suffixed) : ReadAlike role document suffixed := by
  induction grown with
  | tag _ exact apart suffix => exact readAlike_tag exact apart suffix
  | argument _ _ _ ih => exact readAlike_argument ih
  | token _ kind _ _ ih => exact readAlike_token kind ih
  | operand _ place _ ih => exact readAlike_operand place ih
  | child _ _ _ ih => exact readAlike_child ih

end Json.Suffixed

/-- Tokens can have suffixes behind their tags, in values and conditions of any depth: the document
reads as the same tree, and is accepted or refused alike.  The tag with an underscore in it is not
among these tags, and the payload of a display token is no part of its tokens. -/
theorem read_of_suffixed (document suffixed : Json) :
    (Relation.ReflTransGen (Json.Suffixed .value) document suffixed →
      Value.read suffixed = Value.read document) ∧
    (Relation.ReflTransGen (Json.Suffixed .condition) document suffixed →
      ∀ registry, Condition.readChecked registry suffixed =
        Condition.readChecked registry document) := by
  constructor
  · intro grown
    induction grown with
    | refl => rfl
    | tail _ step ih => rw [← ih, Value.read, Value.read, step.readAlike]
  · intro grown registry
    induction grown with
    | refl => rfl
    | tail _ step ih =>
        rw [← ih]
        simp only [Condition.readChecked, Condition.read, (step.readAlike []).1]

theorem read_of_suffixed_in_arguments :
    ∃ (value other condition otherCondition : Json) (v : Value) (c : Condition),
      Relation.ReflTransGen (Json.Suffixed .value) value other ∧ value ≠ other ∧
        Value.read value = .ok (some v) ∧ Value.read other = .ok (some v) ∧
      Relation.ReflTransGen (Json.Suffixed .condition) condition otherCondition ∧
        condition ≠ otherCondition ∧ Condition.readChecked .empty condition = .ok (some c) ∧
        Condition.readChecked .empty otherCondition = .ok (some c) := by
  let input (tag : String) : Json := .obj [("const_value", .arr [
    .obj [("type", .str tag), ("value", .str "a")]])]
  let call (tag argument : String) : Json := .obj [("expression_value", .arr [
    .obj [("args", .arr [input argument]), ("name", .str "upper"), ("type", .str tag)]])]
  let asked (tag : String) : Json := .obj [("children", .arr [.obj [("operands", input tag)]])]
  let letter : Value := ⟨.const, ⟨[.input (.ofText .const "a")], false⟩, none⟩
  let raised : Value :=
    ⟨.expression, ⟨[.call ⟨"", "upper", .expression, none, none⟩ [letter]], false⟩, none⟩
  have inner : (input "input").Suffixed .value (input "input_names_1") :=
    .token [] .const [] (.tag [] rfl (by decide) "names_1")
  have argument : (call "methods" "input").Suffixed .value (call "methods" "input_names_1") :=
    .token [] .expression [] (.argument [] [] inner)
  have outer : (call "methods" "input_names_1").Suffixed .value
      (call "methods_" "input_names_1") :=
    .token [] .expression [] (.tag [_, _] rfl (by decide) "")
  have operand : (asked "input").Suffixed .condition (asked "input_names_1") :=
    .child [] [] (.operand [] (by decide) inner)
  have grown : Relation.ReflTransGen (Json.Suffixed .value) (call "methods" "input")
      (call "methods_" "input_names_1") := .tail (.single argument) outer
  have read : Value.read (call "methods" "input") = .ok (some raised) := rfl
  have accepted : Condition.readChecked .empty (asked "input") =
      .ok (some ⟨.and, [.truth letter]⟩) := rfl
  exact ⟨_, _, _, _, _, _, grown, by simp [call], read,
    ((read_of_suffixed _ _).1 grown).trans read, .single operand, by simp [asked, input], accepted,
    ((read_of_suffixed _ _).2 (.single operand) .empty).trans accepted⟩

/-- The tag with an underscore in it resolves only without a suffix: what stands before its first
underscore is no tag.  And the payload of a display token is part of the tree as it stands. -/
theorem suffixed_reads_otherwise :
    let shown (tag : String) : Json := .obj [("const_value", .arr [.obj [("type", .str tag)]])]
    let referred (tag : String) : Json := .arr [.obj [("type", .str "field"), ("value", .obj [
      ("expression_value", .arr [.obj [("type", .str tag), ("value", .str "ids")]])])]]
    let member (tag : String) : Json := .obj [("const_value", .arr [.obj [
      ("member_value", referred tag), ("type", .str "member")]])]
    (∃ v, Value.read (shown "department_names") = .ok (some v)) ∧
      Value.read (shown "department_names_1") =
        .error ⟨.unknownTokenType "department_names_1",
          [.key "const_value", .index 0, .key "type"]⟩ ∧
      (∃ v, Value.read (member "fields") = .ok (some v)) ∧
        Value.read (member "fields_1") ≠ Value.read (member "fields") := by
  intro shown referred member
  have keeps : ∀ tag, ∃ label members, Value.read (member tag) =
      .ok (some ⟨.const, ⟨[.display label .member (referred tag) members], false⟩, none⟩) :=
    fun tag => ⟨_, _, rfl⟩
  refine ⟨⟨_, rfl⟩, rfl, ⟨_, rfl⟩, fun same => ?_⟩
  obtain ⟨_, _, read⟩ := keeps "fields"
  obtain ⟨_, _, other⟩ := keeps "fields_1"
  rw [read, other] at same
  simp [referred] at same

end FlowLogic
