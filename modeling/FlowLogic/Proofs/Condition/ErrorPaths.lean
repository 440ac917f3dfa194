import FlowLogic.Condition.Reader
import FlowLogic.Evaluation.Basic
import FlowLogic.Proofs.Definition.ErrorPaths

/-!
Where the build errors of conditions point, from the root of the whole document: to a group or a
leaf, to an operand it lacks, or into the value of an operand.
-/

namespace FlowLogic

open Outcome

variable {root : Json} {path : Path} {fields : Dict Json} {e : BuildError}

theorem Condition.readConnective_eq_error (failed : readConnective path fields = .error e) :
    e.path = path.key "ops" := by
  unfold readConnective at failed
  split at failed
  next => cases failed
  next => cases failed
  next =>
    split at failed <;> cases failed
    rfl
  next =>
    cases failed
    rfl

namespace ConditionChild

theorem readOperator_eq_error (failed : readOperator path fields = .error e) :
    e.path = path.key "condition" := by
  unfold readOperator at failed
  split at failed
  next =>
    split at failed <;> cases failed
    rfl
  next =>
    cases failed
    rfl

theorem readType_eq_error (failed : readType path fields = .error e) :
    e.path = path.key "type" := by
  unfold readType at failed
  split at failed
  next => cases failed
  next =>
    split at failed
    · cases failed
    · split at failed <;> cases failed
      rfl

theorem readOperand_pointsInto (reaches : root.Reaches path (.obj fields)) {key : String}
    (plain : (Step.key key).IsPlain) (failed : readOperand key path fields = .error e) :
    e.PointsInto root := by
  simp only [readOperand] at failed
  apply (bind_eq_error.mp failed).elim
  · intro failedValue
    cases found : fields.value? key with
    | none => simp [found, Value.readAt] at failedValue
    | some operand =>
        rw [found, Option.getD_some] at failedValue
        exact Value.readAt_pointsInto operand (reaches.key plain found) failedValue
  · intro missing
    obtain ⟨_ | value, _, missing⟩ := missing
    · cases missing
      exact reaches.blame_key plain rfl
    · cases missing

theorem readCompare_pointsInto (reaches : root.Reaches path (.obj fields))
    (failed : readCompare path fields = .error e) : e.PointsInto root := by
  simp only [readCompare] at failed
  apply (bind_eq_error.mp failed).elim
  · exact readOperand_pointsInto reaches (by decide)
  · intro later
    obtain ⟨left, _, later⟩ := later
    apply (bind_eq_error.mp later).elim
    · intro failedOperator
      exact reaches.blame_key (by decide) (readOperator_eq_error failedOperator)
    · intro last
      obtain ⟨asked | asked, _, last⟩ := last
      · exact readOperand_pointsInto reaches (by decide) (bind_ok_eq_error.mp last)
      · cases last

theorem readLeaf_pointsInto (reaches : root.Reaches path (.obj fields))
    (failed : readLeaf path fields = .error e) : e.PointsInto root := by
  simp only [readLeaf] at failed
  apply (bind_eq_error.mp failed).elim
  · intro failedType
    exact reaches.blame_key (by decide) (readType_eq_error failedType)
  · intro later
    obtain ⟨type, _, later⟩ := later
    split at later
    · exact readCompare_pointsInto reaches later
    · exact readOperand_pointsInto reaches (by decide) (bind_ok_eq_error.mp later)
    · cases later
      exact reaches.blame_key (by decide) rfl

mutual

theorem readAt_pointsInto (document : Json) {path : Path} (reaches : root.Reaches path document)
    (failed : readAt path document = .error e) : e.PointsInto root := by
  cases document with
  | obj fields =>
      simp only [readAt] at failed
      split at failed
      · apply (bind_eq_error.mp failed).elim
        · intro failedConnective
          exact reaches.blame_key (by decide) (Condition.readConnective_eq_error failedConnective)
        · intro later
          obtain ⟨connective, _, later⟩ := later
          exact readUnder_pointsInto fields (reaches.under (by decide)) (bind_ok_eq_error.mp later)
      · exact readLeaf_pointsInto reaches (bind_ok_eq_error.mp failed)
  | null => simp [readAt] at failed
  | bool | num | str | arr =>
      simp only [readAt] at failed
      cases failed
      exact reaches.blame rfl

theorem readUnder_pointsInto (fields : List (String × Json)) {path : Path}
    (under : root.ReachesUnder path "children" fields)
    (failed : readUnder path fields = .error e) : e.PointsInto root := by
  cases fields with
  | nil => simp [readUnder] at failed
  | cons field rest =>
      cases field with
      | mk name value =>
          simp only [readUnder] at failed
          split at failed
          next same => exact readList_pointsInto value (under.head same) failed
          next other => exact readUnder_pointsInto rest (under.tail other) failed

theorem readList_pointsInto (document : Json) {path : Path} (reaches : root.Reaches path document)
    (failed : readList path document = .error e) : e.PointsInto root := by
  cases document with
  | null => simp [readList] at failed
  | arr items =>
      simp only [readList] at failed
      exact readAll_pointsInto items reaches.items failed
  | bool | num | str | obj =>
      simp only [readList] at failed
      cases failed
      exact reaches.blame rfl

theorem readAll_pointsInto (items : List Json) {path : Path} {position : Nat}
    (listed : root.ReachesAll path position items)
    (failed : readAll path position items = .error e) : e.PointsInto root := by
  cases items with
  | nil => simp [readAll] at failed
  | cons item rest =>
      simp only [readAll] at failed
      apply (bind_eq_error.mp failed).elim
      · exact readAt_pointsInto item listed.head
      · intro later
        obtain ⟨_, _, later⟩ := later
        exact readAll_pointsInto rest listed.tail (bind_ok_eq_error.mp later)

end

end ConditionChild

theorem Condition.readAt_pointsInto {document : Json} (reaches : root.Reaches path document)
    (failed : Condition.readAt path document = .error e) : e.PointsInto root := by
  cases document with
  | obj fields =>
      simp only [Condition.readAt] at failed
      apply (bind_eq_error.mp failed).elim
      · intro failedConnective
        exact reaches.blame_key (by decide) (readConnective_eq_error failedConnective)
      · intro later
        obtain ⟨connective, _, later⟩ := later
        exact ConditionChild.readUnder_pointsInto fields (reaches.under (by decide))
          (bind_ok_eq_error.mp later)
  | null | bool | num | str | arr => simp [Condition.readAt] at failed

/-- Only reading the document gives build errors; what the condition compiles to gives others. -/
theorem Condition.readChecked_eq_build {registry : Registry} {document : Json}
    (failed : Condition.readChecked registry document = .error (.build e)) :
    Condition.read document = .error e := by
  simp only [readChecked] at failed
  apply (bind_eq_error.mp failed).elim
  · intro failedRead
    obtain ⟨cause, failedRead, same⟩ := mapError_eq_error.mp failedRead
    cases same
    exact failedRead
  · intro later
    obtain ⟨_ | c, _, later⟩ := later
    · cases later
    · have invalid := bind_ok_eq_error.mp later
      simp only [validate] at invalid
      apply (bind_eq_error.mp invalid).elim
      · intro failedLower
        obtain ⟨_, _, other⟩ := mapError_eq_error.mp failedLower
        cases other
      · intro rejected
        obtain ⟨_, _, rejected⟩ := rejected
        obtain ⟨_, _, other⟩ := mapError_eq_error.mp (bind_ok_eq_error.mp rejected)
        cases other

/-- The path of every build error stands for a place in the document that was read, or for a key
that an object in it has not got. -/
theorem buildError_pointsInto (document : Json) (e : BuildError) :
    (Value.read document = .error e → e.PointsInto document) ∧
      (∀ origin, Expression.read origin document = .error e → e.PointsInto document) ∧
      ∀ registry, Condition.readChecked registry document = .error (.build e) →
        e.PointsInto document := by
  have root := Json.Reaches.here document
  refine ⟨?_, ?_, ?_⟩
  · exact Value.readAt_pointsInto document root
  · intro origin
    exact Expression.readAt_pointsInto document root
  · intro registry failed
    exact Condition.readAt_pointsInto root (Condition.readChecked_eq_build failed)

theorem buildError_pointsInto_of_nested :
    ∃ (tokens value condition : Json) (e other missing : BuildError),
      Expression.read .const tokens = .error e ∧ e.path.render = "[1].args[0].const_value" ∧
        e.PointsInto tokens ∧
        Value.read value = .error other ∧
        other.path.render = "expression_value[0].args[0].data_type" ∧ other.PointsInto value ∧
        Condition.readChecked .empty condition = .error (.build missing) ∧
        missing.path.render = "children[1].children[0].right_operands" ∧
        missing.PointsInto condition := by
  let call (argument : Json) : Json := .obj [("args", .arr [argument]), ("type", .str "method")]
  let words : Json := .arr [.obj [("type", .str "input"), ("value", .str "a")]]
  let tokens : Json := .arr [.obj [("type", .str "field")],
    call (.obj [("const_value", .bool true)])]
  let value : Json := .obj [("expression_value",
    .arr [call (.obj [("const_value", words), ("data_type", .str "text")])])]
  let leaf : Json := .obj [("condition", .str "gt"),
    ("left_operands", .obj [("const_value", words)])]
  let condition : Json := .obj [("children", .arr [.null, .obj [("children", .arr [leaf])]])]
  have first : Expression.read .const tokens = .error ⟨.tokensNotArray .boolean,
      [.index 1, .key "args", .index 0, .key "const_value"]⟩ := rfl
  have second : Value.read value = .error ⟨.unknownDataType "text",
      [.key "expression_value", .index 0, .key "args", .index 0, .key "data_type"]⟩ := rfl
  have third : Condition.readChecked .empty condition = .error (.build ⟨
      .operandMissing "right_operands",
      [.key "children", .index 1, .key "children", .index 0, .key "right_operands"]⟩) := rfl
  exact ⟨tokens, value, condition, _, _, _, first, rfl,
    (buildError_pointsInto tokens _).2.1 _ first, second, rfl,
    (buildError_pointsInto value _).1 second, third, rfl,
    (buildError_pointsInto condition _).2.2 _ third⟩

end FlowLogic
