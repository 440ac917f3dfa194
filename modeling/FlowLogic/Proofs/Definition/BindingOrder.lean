import FlowLogic.Proofs.Definition.BoundFields
import FlowLogic.Proofs.Definition.Results

/-!
The order in which chains are bound.  The last field wins a key, so that two lists of fields can be
bound in either order if their keys agree: fields of the one and of the other that share a key have
one path and one chain, hence one result.
-/

namespace FlowLogic

open Outcome

namespace Bindings

/-- Fields of the two lists have one key only if they have one path and one chain. -/
def KeysAgree (tokens others : List Token) : Prop :=
  ∀ token ∈ tokens, ∀ other ∈ others, ∀ key, token.label.chainKey? = some key →
    other.label.chainKey? = some key →
      token.label.path = other.label.path ∧ token.label.chain = other.label.chain

variable {data : Bindings} {tokens others : List Token}

theorem keysAgree_of_pointFree (free : ∀ token ∈ tokens ++ others, token.label.PointFree)
    (told : ∀ token ∈ tokens, ∀ other ∈ others, ∀ chain third,
      token.label.chain = some chain → other.label.chain = some third →
        Text.Digest.hex chain = Text.Digest.hex third → chain = third) :
    KeysAgree tokens others := by
  intro token member other memberOther key keyed keyedOther
  obtain ⟨chain, chained, rfl⟩ := Option.map_eq_some_iff.mp keyed
  obtain ⟨third, chainedOther, same⟩ := Option.map_eq_some_iff.mp keyedOther
  obtain ⟨paths, digests⟩ := Label.bindingKey_injective same
  have freeToken := free token (List.mem_append_left others member)
  have freeOther := free other (List.mem_append_right tokens memberOther)
  obtain rfl := told token member other memberOther chain third chained chainedOther digests.symm
  exact ⟨Label.path_eq_of_dotted_eq freeToken freeOther paths.symm,
    chained.trans chainedOther.symm⟩

theorem value?_putAll (data : Bindings) (entries : List (String × Json)) (key : String) :
    (data.putAll entries).value? key =
      (Dict.value? entries.reverse key).or (data.value? key) := by
  induction entries generalizing data with
  | nil => rfl
  | cons entry rest ih =>
      calc (data.putAll (entry :: rest)).value? key
          = (Dict.value? rest.reverse key).or (Dict.value? (data.put entry.1 entry.2) key) :=
            ih (data.put entry.1 entry.2)
        _ = ((Dict.value? rest.reverse key).or (Dict.value? [entry] key)).or (data.value? key) := by
            rw [Dict.value?_put, Option.or_assoc, Dict.value?_cons, Dict.value?_nil]
            split <;> rfl
        _ = (Dict.value? (entry :: rest).reverse key).or (data.value? key) := by
            rw [List.reverse_cons, Dict.value?_append]

theorem mem_chainResults {results : List (String × Json)}
    (applied : chainResults data tokens = .ok results) {key : String} {result : Json}
    (member : (key, result) ∈ results) :
    ∃ token ∈ tokens, token.label.chainKey? = some key ∧
      ∃ chain, token.label.chain = some chain ∧ token.label.transformed data chain = .ok result := by
  induction tokens generalizing results with
  | nil =>
      cases applied
      cases member
  | cons token rest ih =>
      rw [List.exists_mem_cons_iff]
      simp only [chainResults] at applied
      split at applied
      next chain tokenKey chained keyed =>
        obtain ⟨value, transformed, applied⟩ := bind_eq_ok.mp applied
        obtain ⟨others, appliedRest, returned⟩ := bind_eq_ok.mp applied
        cases returned
        rcases List.mem_cons.mp member with same | inRest
        · cases same
          exact .inl ⟨keyed, chain, chained, transformed⟩
        · exact .inr (ih appliedRest inRest)
      next => exact .inr (ih applied member)

theorem KeysAgree.result_eq {results more : List (String × Json)} (agree : KeysAgree tokens others)
    (applied : chainResults data tokens = .ok results)
    (appliedOthers : chainResults data others = .ok more) {key : String} {result other : Json}
    (member : (key, result) ∈ results) (memberMore : (key, other) ∈ more) : result = other := by
  obtain ⟨token, inTokens, keyed, chain, chained, transformed⟩ := mem_chainResults applied member
  obtain ⟨last, inOthers, keyedLast, third, chainedLast, transformedLast⟩ :=
    mem_chainResults appliedOthers memberMore
  obtain ⟨paths, chains⟩ := agree token inTokens last inOthers key keyed keyedLast
  obtain rfl : chain = third := Option.some.inj (chained.symm.trans (chains.trans chainedLast))
  rw [transformed_congr paths, transformedLast] at transformed
  exact (Except.ok.inj transformed).symm

theorem lookup?_putAll_comm {entries more : List (String × Json)}
    (agree : ∀ key value other, (key, value) ∈ entries → (key, other) ∈ more → value = other)
    (data : Bindings) (path : List String) :
    (data.putAll (entries ++ more)).lookup? path = (data.putAll (more ++ entries)).lookup? path := by
  cases path with
  | nil => rfl
  | cons first rest =>
      have same : Dict.value? (more.reverse ++ entries.reverse) first =
          Dict.value? (entries.reverse ++ more.reverse) first := by
        rw [Dict.value?_append, Dict.value?_append]
        cases found : Dict.value? entries.reverse first with
        | none => simp
        | some value =>
            cases foundMore : Dict.value? more.reverse first with
            | none => rfl
            | some other =>
                have member := List.mem_reverse.mp (Dict.mem_of_value? found)
                have memberMore := List.mem_reverse.mp (Dict.mem_of_value? foundMore)
                exact congrArg some (agree first value other member memberMore).symm
      rw [lookup?, lookup?, value?_putAll, value?_putAll, List.reverse_append,
        List.reverse_append, same]

/-- Two lists of fields whose keys agree are bound to the same in either order, if at all. -/
theorem bind_swap (agree : KeysAgree tokens others) (data : Bindings) :
    (∃ failure mirrored, data.bind (tokens ++ others) = .error failure ∧
        data.bind (others ++ tokens) = .error mirrored) ∨
      ∃ bound given, data.bind (tokens ++ others) = .ok bound ∧
        data.bind (others ++ tokens) = .ok given ∧
        ∀ path, bound.lookup? path = given.lookup? path := by
  simp only [bind_eq_map, chainResults_append]
  cases applied : chainResults data tokens with
  | error failure =>
      cases chainResults data others with
      | error mirrored => exact .inl ⟨failure, mirrored, rfl, rfl⟩
      | ok => exact .inl ⟨failure, failure, rfl, rfl⟩
  | ok results =>
      cases appliedOthers : chainResults data others with
      | error failure => exact .inl ⟨failure, failure, rfl, rfl⟩
      | ok more =>
          refine .inr ⟨_, _, rfl, rfl, lookup?_putAll_comm ?_ data⟩
          intro key result other member memberMore
          exact agree.result_eq applied appliedOthers member memberMore

end Bindings

end FlowLogic
