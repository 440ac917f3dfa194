import FlowLogic.Code.Lowering
import FlowLogic.Definition.Reader
import FlowLogic.Proofs.Program.Readability

/-!
The source text of a value.  Fields become lookups and everything else becomes constants, calls and
appendings of these, so values with the same legible source text do the same.
-/

namespace FlowLogic

open Outcome

theorem Node.readFragment?_lowered {source : String} {node : Node}
    (read : Node.readFragment? source = some node) : node.Lowered := by
  unfold Node.readFragment? at read
  split at read
  next value found =>
    cases read
    exact .fragment found
  next term found _ =>
    cases read
    cases term with
    | literal value => exact .literal value
    | lookup path => exact .lookup path
  next terms _ _ _ =>
    cases read
    apply Node.Lowered.concat
    intro node member
    obtain ⟨term, _, rfl⟩ := List.mem_map.mp member
    cases term with
    | literal value => exact .literal value
    | lookup path => exact .lookup path
  next => cases read

theorem Node.Lowered.ofParts {template : Bool} {parts : List Node}
    (lowered : ∀ part ∈ parts, part.Lowered) : (Node.ofParts template parts).Lowered := by
  unfold Node.ofParts
  split
  next node =>
    split
    next => exact .concat lowered
    next => exact lowered node List.mem_cons_self
  next => exact .concat lowered

namespace Label

variable {label : Label} {node : Node}

theorem lowerField_lowered (compiles : label.lowerField = .ok node) : node.Lowered := by
  unfold lowerField at compiles
  split at compiles
  next =>
    cases compiles
    exact .lookup _
  next =>
    split at compiles
    next => cases compiles
    next =>
      cases compiles
      exact .lookup _

theorem lowerInput_lowered (compiles : label.lowerInput = .ok node) : node.Lowered := by
  unfold lowerInput at compiles
  split at compiles
  next =>
    cases compiles
    exact .literal _
  next =>
    unfold lowerFragment at compiles
    split at compiles
    next blank =>
      cases compiles
      exact .blank blank
    next =>
      split at compiles
      next read =>
        cases compiles
        exact Node.readFragment?_lowered read
      next => cases compiles

end Label

theorem Token.lowerDisplay_lowered {kind : DisplayKind} {payload : Json} {members : List Member}
    {node : Node} (compiles : Token.lowerDisplay kind payload members = .ok node) :
    node.Lowered := by
  unfold Token.lowerDisplay at compiles
  split at compiles
  next =>
    obtain ⟨ids, _, rfl⟩ := map_eq_ok.mp compiles
    exact .literal _
  next =>
    split at compiles
    next =>
      cases compiles
      exact .literal _
    next => cases compiles

mutual

theorem Token.lower_lowered (token : Token) {node : Node} (compiles : token.lower = .ok node) :
    node.Lowered := by
  cases token with
  | field label => exact Label.lowerField_lowered compiles
  | input label => exact Label.lowerInput_lowered compiles
  | display label kind payload members => exact Token.lowerDisplay_lowered compiles
  | call label arguments =>
      simp only [Token.lower] at compiles
      split at compiles
      next => cases compiles
      next named =>
        obtain ⟨nodes, compiled, rfl⟩ := map_eq_ok.mp compiles
        exact .call named (Value.lowerAll_lowered arguments compiled)

theorem Token.lowerAll_lowered (tokens : List Token) {nodes : List Node}
    (compiles : Token.lowerAll tokens = .ok nodes) : ∀ node ∈ nodes, node.Lowered := by
  cases tokens with
  | nil =>
      cases compiles
      simp
  | cons token rest =>
      simp only [Token.lowerAll, bind_eq_ok] at compiles
      obtain ⟨node, compiled, others, compiledRest, returned⟩ := compiles
      cases returned
      rw [List.forall_mem_cons]
      exact ⟨Token.lower_lowered token compiled, Token.lowerAll_lowered rest compiledRest⟩

theorem Expression.lower_lowered (e : Expression) {node : Node} (compiles : e.lower = .ok node) :
    node.Lowered := by
  cases e with
  | mk tokens template =>
      simp only [Expression.lower] at compiles
      obtain ⟨nodes, compiled, rfl⟩ := map_eq_ok.mp compiles
      exact .ofParts (Token.lowerAll_lowered tokens compiled)

theorem Value.lower_lowered (v : Value) {node : Node} (compiles : v.lower = .ok node) :
    node.Lowered := by
  cases v with
  | mk kind expression dataType =>
      simp only [Value.lower] at compiles
      split at compiles
      next =>
        cases compiles
        exact .literal _
      next => exact Expression.lower_lowered expression compiles

theorem Value.lowerAll_lowered (values : List Value) {nodes : List Node}
    (compiles : Value.lowerAll values = .ok nodes) : ∀ node ∈ nodes, node.Lowered := by
  cases values with
  | nil =>
      cases compiles
      simp
  | cons value rest =>
      simp only [Value.lowerAll, bind_eq_ok] at compiles
      obtain ⟨node, compiled, others, compiledRest, returned⟩ := compiles
      cases returned
      rw [List.forall_mem_cons]
      exact ⟨Value.lower_lowered value compiled, Value.lowerAll_lowered rest compiledRest⟩

end

/-- Values with the same legible source text run alike. -/
theorem Value.execute_eq_of_code_eq (env : Environment) (data : Bindings) {v w : Value}
    {program other : Node} (compiles : v.lower = .ok program) (compilesOther : w.lower = .ok other)
    (legible : program.Legible) (legibleOther : other.Legible) (same : v.code = w.code) :
    env.execute program data = env.execute other data := by
  have codes : program.code = other.code := by
    simpa [Value.code, compiles, compilesOther] using same
  have lowered := Value.lower_lowered v compiles
  have loweredOther := Value.lower_lowered w compilesOther
  exact Environment.execute_congr (lowered.alike_of_code_eq loweredOther legible legibleOther codes)
    env data

theorem Value.execute_eq_of_code_eq_of_fragment :
    ∃ (env : Environment) (data : Bindings) (v w : Value) (program other : Node),
      v.lower = .ok program ∧ w.lower = .ok other ∧ program ≠ other ∧ program.Legible ∧
        other.Legible ∧ v.code = w.code ∧ env.execute program data = env.execute other data := by
  let env : Environment := ⟨Registry.empty.addFunction "abs" "math" .plain .abs, 0⟩
  let data : Bindings := [("b", .str "x")]
  let call : Token := .call (.ofText .expression "abs") [.ofField "c"]
  let v : Value := ⟨.expression,
    ⟨[.input (.ofText .expression "'a' . data['b']"), call], true⟩, none⟩
  let w : Value := ⟨.expression, ⟨[.input (.ofText .expression "'a'"),
    .field (.ofText .expression "b"), call], true⟩, none⟩
  let called : Node := .call "abs" [.lookup ["c"]]
  let program : Node := .concat [.concat [.literal (.str "a"), .lookup ["b"]], called]
  let other : Node := .concat [.raw "'a'" (.str "a"), .lookup ["b"], called]
  have compiles : v.lower = .ok program := rfl
  have compilesOther : w.lower = .ok other := rfl
  have lookup : ∀ path, (Node.lookup path).Legible :=
    fun path => .of_children (by simp) (by simp) (by simp) (by simp [Node.children])
  have name : ∀ c ∈ "abs".toList, Node.Fragment.isNamePart c = true :=
    List.all_eq_true.mp rfl
  have clear : (Node.call "abs" [.lookup ["c"]]).Legible :=
    .of_children (by rintro _ _ ⟨⟩; exact name) (by simp) (by simp)
      (by simp [Node.children, lookup])
  have written : (Node.literal (.str "a")).Legible ∧ (Node.raw "'a'" (.str "a")).Legible := by
    constructor <;>
      exact .of_children (by simp) (by simp) (by simp) (by simp [Node.children])
  have appended : (Node.concat [.literal (.str "a"), .lookup ["b"]]).Legible :=
    .of_children (by simp) (by simp [Node.leaves, Node.leavesAll]) (by simp)
      (by simp [Node.children, lookup, written])
  have legible : program.Legible :=
    .of_children (by simp [program]) (by simp [program, Node.leaves, Node.leavesAll])
      (by simp [program]) (by simp [program, called, Node.children, clear, appended])
  have legibleOther : other.Legible :=
    .of_children (by simp [other]) (by simp [other, Node.leaves, Node.leavesAll])
      (by simp [other]) (by simp [other, called, Node.children, lookup, clear, written])
  have same : v.code = w.code := rfl
  exact ⟨env, data, v, w, program, other, compiles, compilesOther, by simp [program, other],
    legible, legibleOther, same,
    Value.execute_eq_of_code_eq env data compiles compilesOther legible legibleOther same⟩

/-- A template of one field has the source text of the field, and another result. -/
theorem Value.code_hides_template :
    ∃ (document other : Json) (v w : Value) (program third : Node) (data : Bindings),
      Value.read document = .ok (some v) ∧ Value.read other = .ok (some w) ∧
        v.lower = .ok program ∧ w.lower = .ok third ∧
        Registry.empty.check program = .ok () ∧ Registry.empty.check third = .ok () ∧
        v.code = w.code ∧
        (Environment.mk .empty 0).execute program data = .ok (.ofNat 1) ∧
        (Environment.mk .empty 0).execute third data = .ok (.str "1") := by
  refine ⟨.obj [("type", .str "expression"), ("expression_value", .arr [
      .obj [("type", .str "field"), ("value", .str "a")]])],
    .obj [("type", .str "expression"), ("expression_value", .arr [
      .obj [("type", .str "field"), ("value", .str "a")]]), ("is_string_template", .bool true)],
    _, _, _, _, [("a", .ofNat 1)], rfl, rfl, rfl, rfl, rfl, rfl, rfl, rfl, rfl⟩

end FlowLogic
