import FlowLogic.Proofs.Condition.Lowering
import FlowLogic.Proofs.Definition.Paths
import FlowLogic.Proofs.Definition.Results
import FlowLogic.Proofs.Evaluation.Shortcuts
import FlowLogic.Proofs.Program.Agreement

/-!
Values as parts of larger definitions.  The chains of the whole definition are bound at once, and a
part then has the result that it has alone, as long as the other chains keep off what it looks up.
The declared type of a part is never applied.
-/

namespace FlowLogic

open Outcome

theorem Node.evalAll_eq_mapM (env : Environment) (data : Bindings) (nodes : List Node) :
    evalAll env data nodes = nodes.mapM (eval env data) := by
  induction nodes with
  | nil => rfl
  | cons node rest ih => rw [evalAll, ih, List.mapM_cons]

theorem Value.lowerAll_eq_mapM (values : List Value) : lowerAll values = values.mapM lower := by
  induction values with
  | nil => rfl
  | cons value rest ih => rw [lowerAll, ih, List.mapM_cons]

theorem Member.exists_fixedIds_iff (kind : DisplayKind) (members : List Member) :
    (∃ ids, fixedIds kind members = .ok ids) ↔ ∀ member ∈ members, ∃ id, member = .plain id := by
  induction members with
  | nil => simp [fixedIds]
  | cons member rest ih =>
      rw [List.forall_mem_cons, ← ih]
      cases member with
      | plain id =>
          simp only [fixedIds, bind_eq_ok, pure_eq_ok]
          constructor
          · rintro ⟨_, ids, fixed, _⟩
            exact ⟨⟨id, rfl⟩, ids, fixed⟩
          · rintro ⟨_, ids, fixed⟩
            exact ⟨id :: ids, ids, fixed, rfl⟩
      | reference | blankReference | brokenReference => simp [fixedIds]

theorem Token.exists_lowerDisplay_iff {kind : DisplayKind} {payload : Json}
    (members : List Member)
    (shown : kind.listsMembers = false → ∃ value, kind.fixedValue payload = .ok value) :
    (∃ program, lowerDisplay kind payload members = .ok program) ↔
      (kind.listsMembers = true → ∀ member ∈ members, ∃ id, member = .plain id) := by
  rw [← Member.exists_fixedIds_iff kind]
  unfold lowerDisplay
  cases lists : kind.listsMembers with
  | true => simp [map_eq_ok]
  | false =>
      obtain ⟨value, fixed⟩ := shown lists
      simp [fixed]

namespace Expression

variable {env : Environment} {data : Bindings} {e : Expression}

/-- The expression is nothing but a list of members, and not all of them are ids. -/
def ListsFields (e : Expression) : Prop :=
  ∃ label kind payload members, e = ⟨[.display label kind payload members], false⟩ ∧
    kind.listsMembers = true ∧ ∃ member ∈ members, ∀ id, member ≠ .plain id

/-- A list of members with fields in it is all that can have a result and no program. -/
theorem compiles_iff {result : Json} (found : e.resolve env data = .ok result) :
    (∃ program, e.lower = .ok program) ↔ ¬ e.ListsFields := by
  unfold resolve at found
  split at found
  next label kind payload members =>
    have shown : kind.listsMembers = false → ∃ value, kind.fixedValue payload = .ok value := by
      intro lists
      cases fixed : kind.fixedValue payload with
      | ok value => exact ⟨value, rfl⟩
      | error refused => simp [lists, fixed] at found
    rw [lower_alone, Token.lower, Token.exists_lowerDisplay_iff members shown]
    constructor
    · rintro plain ⟨_, _, _, _, same, lists, member, inMembers, field⟩
      cases same
      obtain ⟨id, same⟩ := plain lists member inMembers
      exact field id same
    · intro unlisted lists member inMembers
      by_contra field
      exact unlisted ⟨label, kind, payload, members, rfl, lists, member, inMembers,
        fun id same => field ⟨id, same⟩⟩
  next tokens template notDisplay =>
    obtain ⟨_, _, found⟩ := bind_eq_ok.mp found
    obtain ⟨program, compiled, _⟩ := bind_eq_ok.mp found
    refine iff_of_true ⟨program, mapError_eq_ok.mp compiled⟩ ?_
    rintro ⟨label, kind, payload, members, same, _⟩
    cases same
    exact notDisplay label kind payload members rfl rfl

end Expression

namespace Value

def untyped (a : Value) : Value := { a with dataType := none }

def LooksUp (key : String) (a : Value) : Prop :=
  ∃ program rest, a.lower = .ok program ∧ Node.Within (.lookup (key :: rest)) program

/-- The bindings that a definition runs on which has the value somewhere in it: with the results of
the value's chains among those of other tokens, whose keys the value does not look up. -/
structure BoundAmong (data : Bindings) (a : Value) (before after : List Token)
    (bound : Bindings) : Prop where
  binds : data.bind (before ++ a.chained ++ after) = .ok bound
  apart : ∀ token ∈ before ++ after, ∀ key, token.label.chainKey? = some key → ¬ a.LooksUp key

/-- Programs of larger things go by the result `raw` where the value stands in them: as an argument
of a call, on either side of a relation, and where its truth or its presence is asked for. -/
structure StandsFor (env : Environment) (bound : Bindings) (a : Value) (raw : Json) : Prop where
  argument : ∀ label first rest program,
    Token.lower (.call label (first ++ a :: rest)) = .ok program →
      ∃ earlier later, lowerAll first = .ok earlier ∧ lowerAll rest = .ok later ∧
        ∀ builtin, env.registry.resolve label.callee (first ++ a :: rest).length =
            .ok (.function builtin) →
          program.eval env bound = do
            let values ← Node.evalAll env bound earlier
            let others ← Node.evalAll env bound later
            Node.invoke env label.callee builtin (values ++ raw :: others)
  left : ∀ asked right program, (ConditionChild.relation asked a right).lower = .ok program →
    ∃ other, right.lower = .ok other ∧
      program.eval env bound = do
        let result ← other.eval env bound
        return .bool (asked.holds (a.isNumericLiteral || right.isNumericLiteral) raw result)
  right : ∀ asked left program, (ConditionChild.relation asked left a).lower = .ok program →
    ∃ other, left.lower = .ok other ∧
      program.eval env bound = do
        let result ← other.eval env bound
        return .bool (asked.holds (left.isNumericLiteral || a.isNumericLiteral) result raw)
  truth : ∀ program, (ConditionChild.truth a).lower = .ok program →
    program.eval env bound = .ok raw
  presence : a.OwnsTokens → ∀ asked program,
    (ConditionChild.presence asked a).lower = .ok program →
      program.eval env bound = .ok (.bool (asked.holds (Presence.literalValue? a).isSome raw))

variable {env : Environment} {data bound : Bindings} {a : Value} {before after : List Token}
  {raw x : Json} {program : Node}

theorem result_untyped : a.untyped.result env data = a.given env data := by
  rw [result, resolve_eq_given]
  have same : a.untyped.given env data = a.given env data := rfl
  rw [same]
  cases a.given env data <;> rfl

theorem compiles_iff (found : a.given env data = .ok raw) :
    (∃ program, a.lower = .ok program) ↔ ¬ a.expression.ListsFields := by
  obtain ⟨kind, e, dataType⟩ := a
  cases literal : literalResult? ⟨kind, e, dataType⟩ with
  | some result =>
      simp only [lower, literal]
      refine iff_of_true ⟨_, rfl⟩ ?_
      rintro ⟨_, _, _, _, rfl, _⟩
      simp [literalResult?, literal?, Expression.single?] at literal
  | none =>
      simp only [given, literal] at found
      simp only [lower, literal]
      exact Expression.compiles_iff found

theorem eval_of_given (found : a.given env data = .ok raw)
    (among : a.BoundAmong data before after bound) (compiles : a.lower = .ok program) :
    program.eval env bound = .ok raw := by
  obtain ⟨alone, bindsAlone, agree⟩ := Bindings.bind_among among.binds
  rw [given_eq_execute compiles bindsAlone, mapError_eq_ok, Environment.execute_eq_ok] at found
  -- What the other chains put into the bindings is under keys that the program does not look up.
  have alike : program.FindsAlike alone bound := by
    intro path within
    cases path with
    | nil => rfl
    | cons head rest =>
        refine agree head rest fun token member keyed => ?_
        exact among.apart token member head keyed ⟨program, rest, compiles, within⟩
  rw [← Node.eval_agree (fun _ _ _ => rfl) alike]
  exact found.2

theorem standsFor_of_eval
    (means : ∀ program, a.lower = .ok program → program.eval env bound = .ok raw) :
    a.StandsFor env bound raw where
  argument label first rest program compiles := by
    simp only [Token.lower] at compiles
    split at compiles
    next => cases compiles
    next =>
      obtain ⟨nodes, lowered, rfl⟩ := map_eq_ok.mp compiles
      have lengths := lowerAll_length lowered
      simp only [lowerAll_eq_mapM, List.mapM_append, List.mapM_cons, bind_eq_ok] at lowered
      obtain ⟨earlier, loweredFirst, _, ⟨node, loweredHere, later, loweredRest, others⟩, all⟩ :=
        lowered
      cases others
      cases all
      refine ⟨earlier, later, by rwa [lowerAll_eq_mapM], by rwa [lowerAll_eq_mapM], ?_⟩
      intro builtin resolved
      rw [Node.eval, lengths, resolved]
      simp only [Node.evalAll_eq_mapM, List.mapM_append, List.mapM_cons, means node loweredHere,
        ok_bind, bind_assoc, pure_bind]
  left asked right program compiles := by
    obtain ⟨node, other, loweredHere, loweredOther, rfl⟩ :=
      ConditionChild.relation_of_lower compiles
    refine ⟨other, loweredOther, ?_⟩
    rw [Node.eval, Relation.eval_node, means node loweredHere, ok_bind]
  right asked left program compiles := by
    obtain ⟨other, node, loweredOther, loweredHere, rfl⟩ :=
      ConditionChild.relation_of_lower compiles
    refine ⟨other, loweredOther, ?_⟩
    rw [Node.eval, Relation.eval_node, means node loweredHere]
    rfl
  truth program compiles := by
    simp only [ConditionChild.lower] at compiles
    obtain ⟨node, loweredHere, rfl⟩ := map_eq_ok.mp compiles
    rw [Node.eval, means node loweredHere]
  presence owns asked program compiles := by
    simp only [ConditionChild.lower, Presence.lower] at compiles
    obtain ⟨inner, lowered, rfl⟩ := map_eq_ok.mp compiles
    rw [Node.eval]
    cases literal : Presence.literalValue? a with
    | some value =>
        obtain ⟨node, loweredHere, constant⟩ := Presence.lower_of_literalValue? literal owns
        have same : raw = value :=
          Except.ok.inj ((means node loweredHere).symm.trans (constant.eval env bound))
        simp only [literal] at lowered
        cases lowered
        rw [Node.eval, Presence.ofLiteral_eq, same]
        rfl
    | none =>
        simp only [literal] at lowered
        obtain ⟨node, loweredHere, rfl⟩ := map_eq_ok.mp lowered
        rw [Presence.eval_node, means node loweredHere, map_ok]
        rfl

/-- A value that has a result alone stands for that result in larger things too, as long as the
chains of the other parts can be applied and keep off what it looks up.  Only its declared type does
not apply there. -/
theorem standsFor_of_result (found : a.result env data = .ok x)
    (among : a.BoundAmong data before after bound) :
    ∃ raw, a.untyped.result env data = .ok raw ∧ convert true a.dataType raw = .ok x ∧
      (a.dataType = none → raw = x) ∧
      ((∃ program, a.lower = .ok program) ↔ ¬ a.expression.ListsFields) ∧
      a.StandsFor env bound raw := by
  rw [result, resolve_eq_given] at found
  obtain ⟨raw, foundGiven, converted⟩ := bind_eq_ok.mp found
  refine ⟨raw, result_untyped.trans foundGiven, converted, ?_, compiles_iff foundGiven,
    standsFor_of_eval fun program compiles => eval_of_given foundGiven among compiles⟩
  intro untyped
  rw [untyped] at converted
  exact Except.ok.inj converted

theorem standsFor_of_result_beside_chain :
    ∃ (env : Environment) (data bound : Bindings) (other a : Value) (raw x : Json),
      other.chained ≠ [] ∧ a.BoundAmong data other.chained [] bound ∧
        a.result env data = .ok x ∧ raw ≠ x ∧ a.StandsFor env bound raw := by
  let env : Environment := ⟨.empty, 0⟩
  let data : Bindings := [("name", .str "x"), ("tags", .arr [.null])]
  let other : Value :=
    ⟨.expression, ⟨[.field ⟨"tags", "", .expression, some "count()", none⟩], false⟩, none⟩
  let a : Value := ⟨.expression, ⟨[.field (.ofText .expression "name")], false⟩, some .boolean⟩
  obtain ⟨bound, binds⟩ : ∃ bound, data.bind (other.chained ++ a.chained ++ []) = .ok bound :=
    ⟨_, rfl⟩
  have apart : ∀ token ∈ other.chained ++ [], ∀ key, token.label.chainKey? = some key →
      ¬ a.LooksUp key := by
    rintro token member key keyed ⟨program, rest, compiles, within⟩
    obtain rfl := List.mem_singleton.mp member
    cases compiles
    obtain rfl : key = "name" :=
      (List.cons.inj (Node.lookup.inj (within.eq_of_childless rfl))).1
    have same : "tags" ++ ("_" ++ Text.Digest.hex "count()") = "name" := by
      rw [← String.append_assoc]
      exact Option.some.inj keyed
    have letters := congrArg String.toList same
    simp [String.toList_append] at letters
  have among : a.BoundAmong data other.chained [] bound := ⟨binds, apart⟩
  have found : a.result env data = .ok (.bool true) := rfl
  obtain ⟨raw, foundRaw, _, _, _, stands⟩ := standsFor_of_result found among
  obtain rfl : raw = .str "x" := Except.ok.inj (foundRaw.symm.trans rfl)
  exact ⟨env, data, bound, other, a, .str "x", .bool true, nofun, among, found, nofun, stands⟩

theorem argument_not_converted :
    ∃ (env : Environment) (a : Value) (x : Json) (label : Label) (builtin : Builtin)
      (program : Node),
      a.result env [] = .ok x ∧ a.BoundAmong [] [] [] [] ∧
        Token.lower (.call label [a]) = .ok program ∧
        env.registry.resolve label.callee 1 = .ok (.function builtin) ∧
        program.eval env [] ≠ Node.invoke env label.callee builtin [x] := by
  let env : Environment := ⟨Registry.empty.addFunction "json_encode" "json" .plain .jsonEncode, 0⟩
  let a : Value := ⟨.const, ⟨[.input (.ofText .const "abc")], false⟩, some .boolean⟩
  have passed : Node.eval env [] (.call "json_encode" [.literal (.str "abc")]) =
      .ok (.str "\"abc\"") := rfl
  have converted : Node.invoke env "json_encode" .jsonEncode [.bool true] = .ok (.str "true") := rfl
  refine ⟨env, a, .bool true, .ofText .expression "json_encode", .jsonEncode, _, rfl,
    ⟨rfl, nofun⟩, rfl, rfl, fun same => ?_⟩
  have texts : Except.ok (.str "\"abc\"") = (Except.ok (.str "true") : Except RunFault Json) :=
    passed.symm.trans (same.trans converted)
  simp at texts

end Value

end FlowLogic
