import FlowLogic.Proofs.Outcome
import FlowLogic.Sandbox.Registry

/-!
How registries grow.  A registration keeps what it finds and gives every new code and name its first
definition, so a list that was registered is registered for good, and lists that are registered one
after another are one list.  A registration that fails leaves the registry as it was.
-/

namespace FlowLogic

open Outcome

def FunctionEntry.spec? (entry : FunctionEntry) (group code : String) : Option FunctionSpec :=
  (Builtin.ofName? (entry.builtin.getD code)).map fun builtin =>
    ⟨code, entry.group.getD group, entry.returnType.getD builtin.signature.result.name,
      entry.description.getD builtin.signature.description, entry.arguments, builtin⟩

/-- Functions to register, in their order, each with the name of its group. -/
abbrev Declarations := Dict (String × FunctionEntry)

namespace Declarations

def ofEntries (group : String) (entries : List (String × FunctionEntry)) : Declarations :=
  entries.map fun (code, entry) => (code, group, entry)

/-- What becomes of a code by the first of its declarations. -/
def first? (declared : Declarations) (code : String) : Option FunctionSpec :=
  (declared.value? code).bind fun (group, entry) => entry.spec? group code

theorem keys_ofEntries (group : String) (entries : List (String × FunctionEntry)) :
    (ofEntries group entries).keys = entries.map Prod.fst := by
  rw [Dict.keys, ofEntries, List.map_map]
  rfl

theorem first?_cons (group code : String) (entry : FunctionEntry) (rest : Declarations)
    (other : String) :
    first? ((code, group, entry) :: rest) other =
      if code = other then entry.spec? group other else rest.first? other := by
  rw [first?, Dict.value?_cons]
  split <;> rfl

theorem first?_append_of_mem {declared : Declarations} {code : String}
    (member : code ∈ declared.keys) (later : Declarations) :
    first? (declared ++ later) code = declared.first? code := by
  rw [first?, first?, Dict.value?_append, Option.or_of_isSome (Dict.isSome_value?.mpr member)]

theorem first?_append_of_not_mem {declared : Declarations} {code : String}
    (absent : code ∉ declared.keys) (later : Declarations) :
    first? (declared ++ later) code = later.first? code := by
  have none : declared.value? code = none := by simpa using mt Dict.isSome_value?.mp absent
  rw [first?, first?, Dict.value?_append, none, Option.none_or]

theorem first?_of_not_mem {declared : Declarations} {code : String}
    (absent : code ∉ declared.keys) : declared.first? code = none := by
  have none : declared.value? code = none := by simpa using mt Dict.isSome_value?.mp absent
  rw [first?, none, Option.bind_none]

end Declarations

namespace FunctionGroup

def declarations (groups : List FunctionGroup) : Declarations :=
  groups.flatMap fun group => Declarations.ofEntries group.name group.functions.entries

def constantsOf (groups : List FunctionGroup) : Dict Json := groups.flatMap constants

end FunctionGroup

namespace Registry

open FunctionGroup (declarations constantsOf)

/-- The second registry has what the first one has, under the other codes and names their first
definitions, and so many more entries. -/
structure Gains (before : Registry) (declared : Declarations) (constants : Dict Json)
    (after : Registry) (count : Nat) : Prop where
  functions : ∀ code,
    after.functions.value? code = (before.functions.value? code).or (declared.first? code)
  constants : ∀ name,
    after.constants.value? name = (before.constants.value? name).or (constants.value? name)
  registered : ∀ code ∈ declared.keys, (after.functions.value? code).isSome
  size : after.size = before.size + count

variable {before middle after : Registry} {declared later : Declarations}
  {constants more : Dict Json} {count added : Nat}

theorem Gains.refl (registry : Registry) : registry.Gains [] [] registry 0 where
  functions := fun _ => Option.or_none.symm
  constants := fun _ => Option.or_none.symm
  registered := fun _ member => absurd member List.not_mem_nil
  size := rfl

theorem Gains.trans (early : before.Gains declared constants middle count)
    (late : middle.Gains later more after added) :
    before.Gains (declared ++ later) (constants ++ more) after (count + added) where
  functions := by
    intro code
    rw [late.functions, early.functions, Option.or_assoc]
    cases kept : before.functions.value? code with
    | some spec => rfl
    | none =>
        rw [Option.none_or, Option.none_or]
        by_cases member : code ∈ declared.keys
        · -- The earlier declaration was good for a function, so no later one is asked for.
          have settled := early.registered code member
          rw [early.functions, kept, Option.none_or] at settled
          rw [Declarations.first?_append_of_mem member, Option.or_of_isSome settled]
        · rw [Declarations.first?_append_of_not_mem member,
            Declarations.first?_of_not_mem member, Option.none_or]
  constants := by
    intro name
    rw [late.constants, early.constants, Dict.value?_append, Option.or_assoc]
  registered := by
    intro code member
    rw [Dict.keys, List.map_append, List.mem_append] at member
    rcases member with earlier | member
    · rw [late.functions, Option.isSome_or, early.registered code earlier, Bool.true_or]
    · exact late.registered code member
  size := by rw [late.size, early.size, Nat.add_assoc]

theorem register_cases {group code : String} {entry : FunctionEntry}
    (registered : before.register group code entry = .ok (after, count)) :
    ((before.functions.value? code).isSome ∧ after = before ∧ count = 0) ∨
      before.functions.value? code = none ∧ ∃ spec, entry.spec? group code = some spec ∧
        after = { before with functions := before.functions.put code spec } ∧ count = 1 := by
  unfold register at registered
  split at registered
  next taken =>
    cases registered
    exact .inl ⟨taken, rfl, rfl⟩
  next fresh =>
    apply Or.inr
    refine ⟨by simpa [Dict.hasKey] using fresh, ?_⟩
    split at registered
    next => cases registered
    next =>
      dsimp only at registered
      split at registered
      next builtin found =>
        cases registered
        exact ⟨_, by rw [FunctionEntry.spec?, found, Option.map_some], rfl, rfl⟩
      next => cases registered

theorem register_gains {group code : String} {entry : FunctionEntry}
    (registered : before.register group code entry = .ok (after, count)) :
    before.Gains (Declarations.ofEntries group [(code, entry)]) [] after count := by
  have only (other : String) (member : other ∈ (Declarations.ofEntries group [(code, entry)]).keys) :
      other = code := by
    rw [Declarations.keys_ofEntries] at member
    exact List.mem_singleton.mp member
  have first (other : String) : (Declarations.ofEntries group [(code, entry)]).first? other =
      if code = other then entry.spec? group other else none :=
    Declarations.first?_cons group code entry [] other
  rcases register_cases registered with ⟨taken, rfl, rfl⟩ | ⟨absent, spec, defined, rfl, rfl⟩
  · refine ⟨fun other => ?_, fun name => Option.or_none.symm, fun other member => ?_, rfl⟩
    · rw [first]
      split
      next same => rw [← same, Option.or_of_isSome taken]
      next => exact Option.or_none.symm
    · rwa [only other member]
  · refine ⟨fun other => ?_, fun name => Option.or_none.symm, fun other member => ?_, ?_⟩
    · rw [first, Dict.value?_put]
      split
      next same => rw [← same, absent, defined, Option.none_or]
      next => exact Option.or_none.symm
    · rw [Dict.value?_put, if_pos (only other member).symm, Option.isSome_some]
    · simp only [size, Dict.length_put_of_value?_eq_none absent]
      omega

theorem registerAll_gains {group : String} {entries : List (String × FunctionEntry)}
    (registered : registerAll group before entries = .ok (after, count)) :
    before.Gains (Declarations.ofEntries group entries) [] after count := by
  induction entries generalizing before count with
  | nil =>
      cases registered
      exact .refl after
  | cons entry rest ih =>
      obtain ⟨code, entry⟩ := entry
      simp only [registerAll, bind_eq_ok] at registered
      obtain ⟨⟨middle, _⟩, first, ⟨last, _⟩, others, returned⟩ := registered
      cases returned
      exact (register_gains first).trans (ih others)

theorem gains_of_taken {name : String} (taken : before.constants.hasKey name) (value : Json) :
    before.Gains [] [(name, value)] before 0 where
  functions := fun _ => Option.or_none.symm
  constants := by
    intro other
    rw [Dict.value?_cons]
    split
    next same => rw [← same, Option.or_of_isSome taken]
    next => exact Option.or_none.symm
  registered := fun _ member => absurd member List.not_mem_nil
  size := rfl

theorem gains_of_absent {name : String} (absent : before.constants.value? name = none)
    (value : Json) :
    before.Gains [] [(name, value)]
      { before with constants := before.constants.put name value } 1 where
  functions := fun _ => Option.or_none.symm
  constants := by
    intro other
    rw [Dict.value?_put, Dict.value?_cons]
    split
    next same => rw [← same, absent, Option.none_or]
    next => exact Option.or_none.symm
  registered := fun _ member => absurd member List.not_mem_nil
  size := by
    simp only [size, Dict.length_put_of_value?_eq_none absent]
    omega

theorem addConstants_gains (before : Registry) (constants : Dict Json) :
    before.Gains [] constants (before.addConstants constants).1 (before.addConstants constants).2 := by
  induction constants generalizing before with
  | nil => exact .refl before
  | cons entry rest ih =>
      obtain ⟨name, value⟩ := entry
      unfold addConstants
      split
      next taken =>
        have gains := (gains_of_taken taken value).trans (ih before)
        rwa [Nat.zero_add] at gains
      next fresh =>
        have absent : before.constants.value? name = none := by simpa [Dict.hasKey] using fresh
        have gains := (gains_of_absent absent value).trans (ih _)
        rwa [Nat.add_comm] at gains

variable {groups : List FunctionGroup}

theorem registerGroups_gains (registered : before.registerGroups groups = .ok (after, count)) :
    before.Gains (declarations groups) (constantsOf groups) after count := by
  induction groups generalizing before count with
  | nil =>
      cases registered
      exact .refl after
  | cons group rest ih =>
      simp only [registerGroups, bind_eq_ok] at registered
      obtain ⟨⟨middle, _⟩, functions, ⟨last, _⟩, others, returned⟩ := registered
      cases returned
      have grouped := (registerAll_gains functions).trans (addConstants_gains middle group.constants)
      rw [List.append_nil, List.nil_append] at grouped
      exact grouped.trans (ih others)

theorem registerAll_of_registered {entries : List (String × FunctionEntry)} (group : String)
    (registered : ∀ code ∈ entries.map Prod.fst, (before.functions.value? code).isSome) :
    registerAll group before entries = .ok (before, 0) := by
  induction entries with
  | nil => rfl
  | cons entry rest ih =>
      obtain ⟨code, entry⟩ := entry
      rw [List.map_cons, List.forall_mem_cons] at registered
      have taken : before.register group code entry = .ok (before, 0) := if_pos registered.1
      simp only [registerAll, taken, ih registered.2, ok_bind]
      rfl

theorem addConstants_of_registered
    (registered : ∀ name ∈ constants.keys, (before.constants.value? name).isSome) :
    before.addConstants constants = (before, 0) := by
  induction constants with
  | nil => rfl
  | cons entry rest ih =>
      obtain ⟨name, value⟩ := entry
      rw [Dict.keys, List.map_cons, List.forall_mem_cons] at registered
      rw [addConstants, Dict.hasKey, if_pos registered.1, ih registered.2]

theorem registerGroups_of_registered
    (functions : ∀ code ∈ (declarations groups).keys, (before.functions.value? code).isSome)
    (constants : ∀ name ∈ (constantsOf groups).keys, (before.constants.value? name).isSome) :
    before.registerGroups groups = .ok (before, 0) := by
  induction groups with
  | nil => rfl
  | cons group rest ih =>
      rw [Dict.keys, declarations, List.flatMap_cons, List.map_append, List.forall_mem_append]
        at functions
      rw [Dict.keys, constantsOf, List.flatMap_cons, List.map_append, List.forall_mem_append]
        at constants
      have own := functions.1
      rw [← Dict.keys, Declarations.keys_ofEntries] at own
      rw [registerGroups, registerAll_of_registered group.name own, ok_bind]
      simp only [addConstants_of_registered constants.1, ih functions.2 constants.2, ok_bind]
      rfl

theorem Gains.registerGroups_again
    (gains : before.Gains (declarations groups) (constantsOf groups) after count) :
    after.registerGroups groups = .ok (after, 0) := by
  apply registerGroups_of_registered gains.registered
  intro name member
  rw [gains.constants, Option.isSome_or, Dict.isSome_value?.mpr member, Bool.or_true]

theorem registerGroups_append (before : Registry) (groups later : List FunctionGroup) :
    before.registerGroups (groups ++ later) = do
      let (middle, count) ← before.registerGroups groups
      let (after, added) ← middle.registerGroups later
      return (after, count + added) := by
  induction groups generalizing before with
  | nil =>
      simp only [List.nil_append, registerGroups, ok_bind]
      cases before.registerGroups later with
      | error fault => rfl
      | ok outcome => simp
  | cons group rest ih =>
      simp only [List.cons_append, registerGroups, ih]
      cases registerAll group.name before group.functions.entries with
      | error fault => rfl
      | ok functions =>
          simp only [ok_bind]
          cases (functions.1.addConstants group.constants).1.registerGroups rest with
          | error fault => rfl
          | ok others =>
              simp only [ok_bind, pure_eq_ok]
              cases others.1.registerGroups later with
              | error fault => rfl
              | ok last => simp [Nat.add_assoc]

/-- What is held after registrations one after another, whether or not they succeed. -/
def submitAll (held : Registry) (history : List (List FunctionGroup)) : Registry :=
  history.foldl (fun held groups => (held.submit groups).1) held

def accepted (held : Registry) : List (List FunctionGroup) → List FunctionGroup
  | [] => []
  | groups :: rest =>
    match held.submit groups with
    | (after, .ok _) => groups ++ accepted after rest
    | (same, .error _) => accepted same rest

theorem submit_eq_ok :
    before.submit groups = (after, .ok count) ↔
      before.registerGroups groups = .ok (after, count) := by
  rw [submit]
  cases before.registerGroups groups with
  | error fault => simp
  | ok outcome => simp [Prod.ext_iff]

theorem submit_of_error {fault : RegistrationFault}
    (failed : (before.submit groups).2 = .error fault) : (before.submit groups).1 = before := by
  revert failed
  rw [submit]
  split
  · exact nofun
  · exact fun _ => rfl

theorem submit_append {later : List FunctionGroup} :
    before.submit (groups ++ later) = (after, .ok count) ↔
      ∃ middle added more, before.submit groups = (middle, .ok added) ∧
        middle.submit later = (after, .ok more) ∧ count = added + more := by
  simp only [submit_eq_ok, registerGroups_append, bind_eq_ok]
  constructor
  · rintro ⟨⟨middle, added⟩, first, ⟨last, more⟩, second, returned⟩
    cases returned
    exact ⟨middle, added, more, first, second, rfl⟩
  · rintro ⟨middle, added, more, first, second, rfl⟩
    exact ⟨(middle, added), first, (after, more), second, rfl⟩

theorem submit_accepted (before : Registry) (history : List (List FunctionGroup)) :
    ∃ count, before.submit (before.accepted history) = (before.submitAll history, .ok count) := by
  induction history generalizing before with
  | nil => exact ⟨0, rfl⟩
  | cons groups rest ih =>
      rw [accepted, submitAll, List.foldl_cons]
      split
      next after count registered =>
        obtain ⟨more, others⟩ := ih after
        rw [registered]
        exact ⟨count + more, submit_append.mpr ⟨after, count, more, registered, others, rfl⟩⟩
      next same fault failed =>
        have kept : (before.submit groups).1 = before := submit_of_error (by rw [failed])
        rw [failed] at kept ⊢
        obtain rfl : same = before := kept
        exact ih same

/-- A registration that fails changes nothing.  One that succeeds adds the first definition of every
new code and name and nothing else, counts what it adds, and does nothing if it is repeated.  Lists
that are registered one after another come to the same as one list, so what is held after any history
is what one registration of all that succeeded in it would have given. -/
theorem submissions_accumulate (before : Registry) :
    (∀ groups fault, (before.submit groups).2 = .error fault →
        (before.submit groups).1 = before) ∧
      (∀ groups after count, before.submit groups = (after, .ok count) →
        before.Gains (declarations groups) (constantsOf groups) after count ∧
          after.submit groups = (after, .ok 0)) ∧
      (∀ groups later after count, before.submit (groups ++ later) = (after, .ok count) ↔
        ∃ middle added more, before.submit groups = (middle, .ok added) ∧
          middle.submit later = (after, .ok more) ∧ count = added + more) ∧
      ∀ history, ∃ count,
        before.submit (before.accepted history) = (before.submitAll history, .ok count) := by
  refine ⟨fun _ _ => submit_of_error, ?_, fun _ _ _ _ => submit_append, before.submit_accepted⟩
  intro groups after count registered
  have gains := registerGroups_gains (submit_eq_ok.mp registered)
  exact ⟨gains, submit_eq_ok.mpr gains.registerGroups_again⟩

theorem submissions_accumulate_past_failure :
    ∃ (after : Registry) (groups refused : List FunctionGroup) (fault : RegistrationFault),
      empty.submit groups = (after, .ok 4) ∧
        empty.Gains (declarations groups) (constantsOf groups) after 4 ∧
        after.submit groups = (after, .ok 0) ∧
        (after.submit refused).2 = .error fault ∧ (after.submit refused).1 = after ∧
        (∃ middle added more, empty.submit groups = (middle, .ok added) ∧
          middle.submit groups = (after, .ok more) ∧ 4 = added + more) ∧
        ∃ count, empty.submit groups = (empty.submitAll [groups, refused], .ok count) := by
  let named (builtin : String) : FunctionEntry :=
    { FunctionEntry.plain with builtin := some builtin }
  let groups : List FunctionGroup :=
    [⟨"g", .names ["upper", "abs", "upper"], [("RATE", .bool true)]⟩,
      ⟨"h", .detailed [("abs", named "nope"), ("shout", named "upper")], [("RATE", .null)]⟩]
  let refused : List FunctionGroup := [⟨"g", .names ["lower", "nope"], []⟩]
  have registered : empty.submit groups = (_, .ok 4) := rfl
  have registeredTwice : empty.submit (groups ++ groups) = (_, .ok 4) := rfl
  obtain ⟨_, settles, appends, overHistory⟩ := submissions_accumulate empty
  obtain ⟨gains, again⟩ := settles groups _ 4 registered
  obtain ⟨unchanged, _⟩ := submissions_accumulate (empty.submit groups).1
  exact ⟨_, groups, refused, _, registered, gains, again, rfl, unchanged refused _ rfl,
    (appends groups groups _ 4).mp registeredTwice, overHistory [groups, refused]⟩

end Registry

end FlowLogic
