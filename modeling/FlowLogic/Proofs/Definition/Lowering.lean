import FlowLogic.Proofs.Definition.Meaning
import FlowLogic.Proofs.Program.Resolution

/-!
Programs of definitions mean what the definitions mean.  Fields, inputs and display tokens give the
same values on both sides; calls and templates follow by induction on the tokens.
-/

namespace FlowLogic

open Outcome

theorem Json.appended_eq (values : List Json) :
    Json.str (String.ofList (values.flatMap Json.asChars)) = .appended values := by
  rw [appended, ← String.ofList_toList (s := String.join _), String.toList_join, List.flatMap_map]
  simp [asText]

def FlowError.ofRun (fault : RunFault) : FlowError := .sandbox (.execution fault)

variable {env : Environment} {data : Bindings}

namespace Node

theorem eval_concat (parts : List Node) :
    (concat parts).eval env data = (evalAll env data parts).map Json.appended := by
  simp only [eval]
  cases evalAll env data parts <;> simp [Json.appended_eq]

namespace Fragment

theorem eval_term (term : Term) : term.node.eval env data = .ok (term.meaning data) := by
  cases term <;> rfl

theorem eval_terms (terms : List Term) :
    (concat (terms.map Term.node)).eval env data =
      .ok (.appended (terms.map (·.meaning data))) := by
  have each : evalAll env data (terms.map Term.node) = .ok (terms.map (·.meaning data)) := by
    induction terms with
    | nil => rfl
    | cons term rest ih => simp [evalAll, eval_term, ih]
  rw [eval_concat, each, map_ok]

theorem eval_readFragment {source : String} {node : Node}
    (read : readFragment? source = some node) :
    ∃ value, node.eval env data = .ok value ∧ meaning? data source = some value := by
  cases found : read? source with
  | none => simp [readFragment?, found] at read
  | some terms =>
      simp only [readFragment?, found] at read
      simp only [meaning?, found]
      match terms with
      | [.literal value] =>
          cases read
          exact ⟨value, rfl, rfl⟩
      | [.lookup path] =>
          cases read
          exact ⟨_, rfl, rfl⟩
      | [] =>
          cases read
          exact ⟨_, eval_terms [], rfl⟩
      | first :: second :: rest =>
          obtain rfl : concat ((first :: second :: rest).map Term.node) = node := by
            simpa using read
          exact ⟨_, eval_terms _, rfl⟩

end Fragment

theorem eval_ofParts (template : Bool) (parts : List Node) :
    (ofParts template parts).eval env data =
      (evalAll env data parts).map (Expression.combine template) := by
  match parts with
  | [] => rfl
  | [part] =>
      cases template with
      | false =>
          simp only [ofParts, evalAll, Bool.false_eq_true, if_false]
          cases part.eval env data <;> rfl
      | true =>
          simp only [ofParts, if_true, eval_concat, evalAll]
          cases part.eval env data <;> rfl
  | first :: second :: rest =>
      simp only [ofParts, eval_concat, evalAll]
      cases first.eval env data with
      | error fault => rfl
      | ok value =>
          cases second.eval env data with
          | error fault => rfl
          | ok next => cases evalAll env data rest <;> rfl

theorem Resolved.ofParts {registry : Registry} {template : Bool} {parts : List Node}
    (resolved : (ofParts template parts).Resolved registry) :
    ∀ part ∈ parts, part.Resolved registry := by
  intro part member
  unfold Node.ofParts at resolved
  split at resolved
  next node =>
    split at resolved
    next => exact resolved.child member
    next =>
      obtain rfl := List.mem_singleton.mp member
      exact resolved
  next => exact resolved.child member

end Node

namespace Label

variable {label : Label} {node : Node}

theorem eval_lowerField (env : Environment) (data : Bindings)
    (lowered : label.lowerField = .ok node) :
    ∃ value, node.eval env data = .ok value ∧ label.fieldMeaning data = .ok value := by
  cases chained : label.chainKey? with
  | some key =>
      simp only [lowerField, chained] at lowered
      cases lowered
      refine ⟨_, rfl, ?_⟩
      simp only [fieldMeaning, chained, Bindings.lookup?]
      cases data.value? key <;> rfl
  | none =>
      simp only [lowerField, chained] at lowered
      split at lowered
      next => cases lowered
      next nonempty =>
        cases lowered
        exact ⟨_, rfl, by simp only [fieldMeaning, chained, if_neg nonempty]⟩

theorem eval_lowerInput (env : Environment) (data : Bindings)
    (lowered : label.lowerInput = .ok node) :
    ∃ value, node.eval env data = .ok value ∧ label.inputMeaning data = .ok value := by
  cases kind : label.origin with
  | const =>
      simp only [lowerInput, kind] at lowered
      cases lowered
      exact ⟨_, rfl, by simp only [inputMeaning, kind]⟩
  | expression =>
      simp only [lowerInput, kind, lowerFragment] at lowered
      simp only [inputMeaning, kind]
      split at lowered
      next blank =>
        cases lowered
        exact ⟨_, rfl, if_pos blank⟩
      next visible =>
        split at lowered
        next read =>
          cases lowered
          obtain ⟨value, evaluated, means⟩ := Node.Fragment.eval_readFragment read
          exact ⟨value, evaluated, by rw [if_neg visible, means]⟩
        next => cases lowered

end Label

theorem Token.eval_lowerDisplay (env : Environment) (data : Bindings) {kind : DisplayKind}
    {payload : Json} {members : List Member} {node : Node}
    (lowered : Token.lowerDisplay kind payload members = .ok node) :
    ∃ value, node.eval env data = .ok value ∧
      kind.staticValue payload members = .ok value := by
  simp only [lowerDisplay] at lowered
  simp only [DisplayKind.staticValue]
  cases lists : kind.listsMembers with
  | true =>
      rw [if_pos lists] at lowered
      obtain ⟨ids, fixed, rfl⟩ := map_eq_ok.mp lowered
      exact ⟨.arr ids, rfl, by simp [fixed]⟩
  | false =>
      cases fixed : kind.fixedValue payload with
      | error refused => simp [lists, fixed] at lowered
      | ok value =>
          simp only [lists, fixed] at lowered
          cases lowered
          exact ⟨value, rfl, rfl⟩

theorem Expression.single?_eq_some {e : Expression} {token : Token} :
    e.single? = some token ↔ e = ⟨[token], false⟩ := by
  obtain ⟨tokens, template⟩ := e
  simp only [single?]
  split <;> simp_all

theorem Expression.lower_alone (token : Token) :
    Expression.lower ⟨[token], false⟩ = token.lower := by
  simp only [Expression.lower, Token.lowerAll]
  cases token.lower <;> rfl

theorem Value.lowerAll_length {values : List Value} {nodes : List Node}
    (lowered : Value.lowerAll values = .ok nodes) : nodes.length = values.length := by
  induction values generalizing nodes with
  | nil =>
      cases lowered
      rfl
  | cons value rest ih =>
      simp only [lowerAll, bind_eq_ok] at lowered
      obtain ⟨node, _, others, loweredRest, returned⟩ := lowered
      cases returned
      rw [List.length_cons, List.length_cons, ih loweredRest]

mutual

theorem Token.eval_lower (token : Token) {node : Node} (lowered : token.lower = .ok node)
    (resolved : node.Resolved env.registry) :
    (node.eval env data).mapError .ofRun = token.meaning env data := by
  cases token with
  | field label =>
      obtain ⟨value, evaluated, means⟩ := Label.eval_lowerField env data lowered
      simp [evaluated, Token.meaning, means]
  | input label =>
      obtain ⟨value, evaluated, means⟩ := Label.eval_lowerInput env data lowered
      simp [evaluated, Token.meaning, means]
  | display label kind payload members =>
      obtain ⟨value, evaluated, means⟩ := Token.eval_lowerDisplay env data lowered
      simp [evaluated, Token.meaning, means]
  | call label arguments =>
      simp only [Token.lower] at lowered
      split at lowered
      next => cases lowered
      next named =>
        obtain ⟨nodes, loweredArguments, rfl⟩ := map_eq_ok.mp lowered
        have means := Value.evalAll_lower arguments loweredArguments fun _ member =>
          resolved.child member
        have lengths := Value.lowerAll_length loweredArguments
        obtain ⟨callee, found⟩ := Registry.resolves_iff.mp resolved.call
        simp only [Node.eval, Token.meaning, if_neg named, found, ← lengths]
        cases callee with
        | constant value => rfl
        | function builtin =>
            rw [← means]
            cases Node.evalAll env data nodes with
            | error fault => rfl
            | ok values =>
                simp only [mapError_ok, ok_bind, Node.invoke]
                cases builtin.run env.clock values <;> rfl

theorem Token.evalAll_lower (tokens : List Token) {nodes : List Node}
    (lowered : Token.lowerAll tokens = .ok nodes)
    (resolved : ∀ node ∈ nodes, node.Resolved env.registry) :
    (Node.evalAll env data nodes).mapError .ofRun = Token.meaningAll env data tokens := by
  cases tokens with
  | nil =>
      cases lowered
      rfl
  | cons token rest =>
      simp only [Token.lowerAll, bind_eq_ok] at lowered
      obtain ⟨node, loweredToken, others, loweredRest, returned⟩ := lowered
      cases returned
      rw [List.forall_mem_cons] at resolved
      rw [Token.meaningAll, ← Token.eval_lower token loweredToken resolved.1,
        ← Token.evalAll_lower rest loweredRest resolved.2]
      simp only [Node.evalAll, mapError_bind]
      rfl

theorem Expression.eval_lower (e : Expression) {node : Node} (lowered : e.lower = .ok node)
    (resolved : node.Resolved env.registry) :
    (node.eval env data).mapError .ofRun = e.meaning env data := by
  cases e with
  | mk tokens template =>
      simp only [Expression.lower] at lowered
      obtain ⟨nodes, loweredTokens, rfl⟩ := map_eq_ok.mp lowered
      rw [Node.eval_ofParts, Expression.meaning,
        ← Token.evalAll_lower tokens loweredTokens (Node.Resolved.ofParts resolved)]
      cases Node.evalAll env data nodes <;> rfl

theorem Value.eval_lower (v : Value) {node : Node} (lowered : v.lower = .ok node)
    (resolved : node.Resolved env.registry) :
    (node.eval env data).mapError .ofRun = v.meaning env data := by
  cases v with
  | mk kind expression dataType =>
      simp only [Value.lower] at lowered
      simp only [Value.meaning]
      cases literal : Value.literalResult? ⟨kind, expression, dataType⟩ with
      | some result =>
          simp only [literal] at lowered
          cases lowered
          rfl
      | none =>
          simp only [literal] at lowered
          exact Expression.eval_lower expression lowered resolved

theorem Value.evalAll_lower (values : List Value) {nodes : List Node}
    (lowered : Value.lowerAll values = .ok nodes)
    (resolved : ∀ node ∈ nodes, node.Resolved env.registry) :
    (Node.evalAll env data nodes).mapError .ofRun = Value.meaningAll env data values := by
  cases values with
  | nil =>
      cases lowered
      rfl
  | cons value rest =>
      simp only [Value.lowerAll, bind_eq_ok] at lowered
      obtain ⟨node, loweredValue, others, loweredRest, returned⟩ := lowered
      cases returned
      rw [List.forall_mem_cons] at resolved
      rw [Value.meaningAll, ← Value.eval_lower value loweredValue resolved.1,
        ← Value.evalAll_lower rest loweredRest resolved.2]
      simp only [Node.evalAll, mapError_bind]
      rfl

end

/-- Running the program of an expression gives what the expression means, failures included. -/
theorem Expression.execute_lower (env : Environment) (data : Bindings) {e : Expression}
    {program : Node} (compiles : e.lower = .ok program)
    (accepted : env.registry.check program = .ok ()) :
    (env.execute program data).mapError .sandbox = e.meaning env data := by
  have resolved := Registry.check_eq_ok.mp accepted
  rw [Environment.execute_of_resolved data resolved, ← Expression.eval_lower e compiles resolved]
  cases program.eval env data <;> rfl

theorem Expression.execute_lower_of_greeting :
    ∃ (env : Environment) (data : Bindings) (e : Expression) (program : Node),
      e.lower = .ok program ∧ env.registry.check program = .ok () ∧
        (env.execute program data).mapError .sandbox = e.meaning env data := by
  let env : Environment := ⟨Registry.empty.addFunction "abs" "math" .plain .abs, 0⟩
  let data : Bindings := [("title", .str "Dr"), ("user", .obj [("name", .str "x")])]
  let e : Expression :=
    ⟨[.input (.ofText .expression "'Dear ' . data['title']"), .input (.ofText .const " "),
      .call (.ofText .expression "abs") [.ofField "user.name"]], true⟩
  exact ⟨env, data, e, _, rfl, rfl, Expression.execute_lower env data rfl rfl⟩

end FlowLogic
