import FlowLogic.Definition.Binding
import FlowLogic.Proofs.Outcome
import Mathlib.Data.List.Basic

/-!
The results that the chains of fields add to bindings.  They are read from the bindings as they were
given and put into them one after another, each under the key of its chain.
-/

namespace FlowLogic.Bindings

open Outcome

def chainResults (data : Bindings) : List Token → Except TransformError (List (String × Json))
  | [] => .ok []
  | token :: rest =>
    match token.label.chain, token.label.chainKey? with
    | some chain, some key => do
      let result ← token.label.transformed data chain
      return (key, result) :: (← chainResults data rest)
    | _, _ => chainResults data rest

def chainKeys (tokens : List Token) : List String := tokens.filterMap (·.label.chainKey?)

def putAll (data : Bindings) (entries : List (String × Json)) : Bindings :=
  entries.foldl (fun bound entry => bound.put entry.1 entry.2) data

variable {data other bound : Bindings} {tokens before after : List Token}
  {results : List (String × Json)}

theorem mem_chainKeys {key : String} :
    key ∈ chainKeys tokens ↔ ∃ token ∈ tokens, token.label.chainKey? = some key :=
  List.mem_filterMap

theorem chainKeys_cons (token : Token) (rest : List Token) :
    chainKeys (token :: rest) = token.label.chainKey?.toList ++ chainKeys rest := by
  rw [chainKeys, List.filterMap_cons, ← chainKeys]
  cases token.label.chainKey? <;> rfl

theorem extend_eq_map (data bound : Bindings) (tokens : List Token) :
    extend data bound tokens = (chainResults data tokens).map bound.putAll := by
  induction tokens generalizing bound with
  | nil => rfl
  | cons token rest ih =>
      cases chained : token.label.chain with
      | none =>
          simp only [extend, chainResults, chained]
          exact ih bound
      | some chain =>
          obtain ⟨key, keyed⟩ : ∃ key, token.label.chainKey? = some key :=
            ⟨_, by rw [Label.chainKey?, chained, Option.map_some]⟩
          simp only [extend, chainResults, chained, keyed]
          cases token.label.transformed data chain with
          | error failure => rfl
          | ok result =>
              rw [ok_bind, ok_bind, ih]
              cases chainResults data rest <;> rfl

theorem bind_eq_map (data : Bindings) (tokens : List Token) :
    data.bind tokens = (chainResults data tokens).map data.putAll :=
  extend_eq_map data data tokens

theorem chainResults_congr (alike : ∀ token ∈ tokens,
    data.lookup? token.label.path = other.lookup? token.label.path) :
    chainResults data tokens = chainResults other tokens := by
  induction tokens with
  | nil => rfl
  | cons token rest ih =>
      rw [List.forall_mem_cons] at alike
      simp only [chainResults, Label.transformed, alike.1, ih alike.2]

theorem chainResults_append (data : Bindings) (tokens others : List Token) :
    chainResults data (tokens ++ others) = do
      let results ← chainResults data tokens
      let more ← chainResults data others
      return results ++ more := by
  induction tokens with
  | nil => simp only [List.nil_append, chainResults, ok_bind, bind_pure]
  | cons token rest ih =>
      simp only [List.cons_append, chainResults, ih]
      split
      next => simp only [bind_assoc, pure_bind, List.cons_append]
      next => rfl

theorem keys_of_chainResults (applied : chainResults data tokens = .ok results) :
    results.map Prod.fst = chainKeys tokens := by
  induction tokens generalizing results with
  | nil =>
      cases applied
      rfl
  | cons token rest ih =>
      simp only [chainResults] at applied
      split at applied
      next chain key _ keyed =>
        obtain ⟨result, _, applied⟩ := bind_eq_ok.mp applied
        obtain ⟨others, appliedRest, returned⟩ := bind_eq_ok.mp applied
        cases returned
        rw [List.map_cons, ih appliedRest, chainKeys_cons, keyed, Option.toList_some,
          List.singleton_append]
      next unkeyed =>
        have keyless : token.label.chainKey? = none := by
          rw [Option.eq_none_iff_forall_ne_some]
          intro key keyed
          obtain ⟨chain, chained, _⟩ := Option.map_eq_some_iff.mp keyed
          exact unkeyed chain key chained keyed
        rw [ih applied, chainKeys_cons, keyless, Option.toList_none, List.nil_append]

theorem lookup?_put (data : Bindings) (key : String) (value : Json) (first : String)
    (rest : List String) :
    lookup? (data.put key value) (first :: rest) =
      if key = first then Json.follow? value rest else data.lookup? (first :: rest) := by
  simp only [lookup?, Dict.value?_put]
  split <;> rfl

theorem lookup?_put_congr {path : List String} (alike : data.lookup? path = other.lookup? path)
    (key : String) (value : Json) :
    lookup? (data.put key value) path = lookup? (other.put key value) path := by
  cases path with
  | nil => rfl
  | cons first rest => rw [lookup?_put, lookup?_put, alike]

theorem lookup?_putAll_congr {path : List String}
    (alike : data.lookup? path = other.lookup? path) (entries : List (String × Json)) :
    (data.putAll entries).lookup? path = (other.putAll entries).lookup? path := by
  induction entries generalizing data other with
  | nil => exact alike
  | cons entry rest ih => exact ih (lookup?_put_congr alike entry.1 entry.2)

theorem lookup?_putAll_key {entries : List (String × Json)} {key : String}
    (member : key ∈ entries.map Prod.fst) (data other : Bindings) :
    (data.putAll entries).lookup? [key] = (other.putAll entries).lookup? [key] := by
  induction entries generalizing data other with
  | nil => cases member
  | cons entry rest ih =>
      by_cases same : entry.1 = key
      · have put : lookup? (data.put entry.1 entry.2) [key] =
            lookup? (other.put entry.1 entry.2) [key] := by
          rw [lookup?_put, lookup?_put, if_pos same, if_pos same]
        exact lookup?_putAll_congr put rest
      · have later : key ∈ rest.map Prod.fst := by
          simpa [Ne.symm same] using member
        exact ih later (data.put entry.1 entry.2) (other.put entry.1 entry.2)

theorem lookup?_putAll_of_absent {entries : List (String × Json)} {head : String}
    (absent : head ∉ entries.map Prod.fst) (data : Bindings) (rest : List String) :
    (data.putAll entries).lookup? (head :: rest) = data.lookup? (head :: rest) := by
  induction entries generalizing data with
  | nil => rfl
  | cons entry others ih =>
      rw [List.map_cons, List.mem_cons, not_or] at absent
      calc (data.putAll (entry :: others)).lookup? (head :: rest)
          = lookup? (data.put entry.1 entry.2) (head :: rest) := ih absent.2 _
        _ = data.lookup? (head :: rest) := by rw [lookup?_put, if_neg (Ne.symm absent.1)]

/-- Chains that are bound among others are bound alone too, and both bindings agree on paths that
start with no key of the others. -/
theorem bind_among (binds : data.bind (before ++ tokens ++ after) = .ok bound) :
    ∃ alone, data.bind tokens = .ok alone ∧
      ∀ head rest, (∀ token ∈ before ++ after, token.label.chainKey? ≠ some head) →
        alone.lookup? (head :: rest) = bound.lookup? (head :: rest) := by
  rw [bind_eq_map, chainResults_append, chainResults_append] at binds
  obtain ⟨all, applied, rfl⟩ := map_eq_ok.mp binds
  obtain ⟨_, appliedFirst, applied⟩ := bind_eq_ok.mp applied
  obtain ⟨later, appliedAfter, returned⟩ := bind_eq_ok.mp applied
  cases returned
  obtain ⟨earlier, appliedBefore, applied⟩ := bind_eq_ok.mp appliedFirst
  obtain ⟨own, appliedOwn, returned⟩ := bind_eq_ok.mp applied
  cases returned
  refine ⟨data.putAll own, by rw [bind_eq_map, appliedOwn, map_ok], fun head rest other => ?_⟩
  have absentBefore : head ∉ earlier.map Prod.fst := by
    rw [keys_of_chainResults appliedBefore, mem_chainKeys]
    intro found
    obtain ⟨token, inBefore, keyed⟩ := found
    exact other token (List.mem_append_left after inBefore) keyed
  have absentAfter : head ∉ later.map Prod.fst := by
    rw [keys_of_chainResults appliedAfter, mem_chainKeys]
    intro found
    obtain ⟨token, inAfter, keyed⟩ := found
    exact other token (List.mem_append_right before inAfter) keyed
  have untouched : data.lookup? (head :: rest) = (data.putAll earlier).lookup? (head :: rest) :=
    (lookup?_putAll_of_absent absentBefore data rest).symm
  calc (data.putAll own).lookup? (head :: rest)
      = ((data.putAll earlier).putAll own).lookup? (head :: rest) :=
        lookup?_putAll_congr untouched own
    _ = (((data.putAll earlier).putAll own).putAll later).lookup? (head :: rest) :=
        (lookup?_putAll_of_absent absentAfter _ rest).symm
    _ = (data.putAll (earlier ++ own ++ later)).lookup? (head :: rest) := by
        simp only [putAll, List.foldl_append]

/-- Bindings that agree on the fields with chains have the same chain fail, or agree on as much as
before and on the keys of the chains when all are bound. -/
theorem bind_agree (alike : ∀ token ∈ tokens,
    data.lookup? token.label.path = other.lookup? token.label.path) :
    (∃ failure, data.bind tokens = .error failure ∧ other.bind tokens = .error failure) ∨
      ∃ bound given, data.bind tokens = .ok bound ∧ other.bind tokens = .ok given ∧
        (∀ path, data.lookup? path = other.lookup? path →
          bound.lookup? path = given.lookup? path) ∧
        ∀ token ∈ tokens, ∀ key, token.label.chainKey? = some key →
          bound.lookup? [key] = given.lookup? [key] := by
  simp only [bind_eq_map, ← chainResults_congr alike]
  cases applied : chainResults data tokens with
  | error failure => exact .inl ⟨failure, rfl, rfl⟩
  | ok results =>
      refine .inr ⟨_, _, rfl, rfl, fun path found => lookup?_putAll_congr found results, ?_⟩
      intro token member key keyed
      apply lookup?_putAll_key
      rw [keys_of_chainResults applied]
      exact mem_chainKeys.mpr ⟨token, member, keyed⟩

end FlowLogic.Bindings
