import FlowLogic.Proofs.Evaluation.Failures
import FlowLogic.Proofs.Sandbox.Substring

/-!
Failures of functions.  A function that gets as many arguments as it takes reads nothing beyond them
and nothing beyond a text.  It gives a value or reports an error, but for a date format that is
refused, and so does every function that a program runs.
-/

namespace FlowLogic

open Outcome

theorem Arity.least_le {arity : Arity} {count : Nat} (accepted : arity.accepts count = true) :
    arity.least ≤ count := by
  rw [accepts, Bool.and_eq_true, decide_eq_true_iff] at accepted
  exact accepted.1

namespace Builtin

def readsNumbers : List Builtin := [.substr, .abs, .round, .floor, .ceil, .sum, .avg, .dateFormat]

inductive Reports : Builtin → CallFailure → Prop
  | notNumeric {builtin : Builtin} (reads : builtin ∈ readsNumbers) (position : Nat)
      (actual : Json.Kind) : Reports builtin (.notNumeric position actual)
  | notJoined (actual : Json.Kind) : Reports .join (.notArray .join actual)
  | notSearched (actual : Json.Kind) : Reports .inArray (.notArray .inArray actual)
  | noGreatest : Reports .max .noValues
  | noLeast : Reports .min .noValues
  | invalidJson : Reports .jsonDecode .invalidJson
  | invalidDate (given : String) : Reports .dateFormat (.invalidDate given)
  | outOfRange (seconds : Int) : Reports .dateFormat (.outOfRange seconds)

def RefusesFormat (arguments : List Json) (failure : CallFailure) : Prop :=
  ∃ format moment, format = ((arguments[1]?).map Json.asText).getD Moment.usualFormat ∧
    arguments.head?.map momentOf = some (.ok moment) ∧ moment.format? format = none ∧
    failure = .refusedFormat format

/-- How a call can fail: by an error that its function reports, or by a date format that is
refused. -/
def MayFail (builtin : Builtin) (arguments : List Json) (failure : CallFailure) : Prop :=
  builtin.Reports failure ∨ (builtin = .dateFormat ∧ RefusesFormat arguments failure)

variable {clock : Int} {builtin : Builtin} {arguments values : List Json} {position : Nat}

theorem exists_argument (inside : position < arguments.length) :
    ∃ value, argument arguments position = .ok value :=
  ⟨arguments[position], by rw [argument, List.getElem?_eq_getElem inside]⟩

theorem argument_failsOnly (enough : position < arguments.length) :
    FailsOnly builtin.Reports (argument arguments position) := by
  obtain ⟨value, read⟩ := exists_argument enough
  rw [read]
  exact .ok value

theorem numeric_failsOnly (reads : builtin ∈ readsNumbers) (position : Nat) (value : Json) :
    FailsOnly builtin.Reports (numeric position value) := by
  unfold numeric
  split
  next => exact .ok _
  next => exact .ok _
  next =>
    split
    next => exact .ok _
    next => exact .error (.notNumeric reads _ _)

theorem numbersFrom_failsOnly (reads : builtin ∈ readsNumbers) (position : Nat) :
    FailsOnly builtin.Reports (numbersFrom position values) := by
  induction values generalizing position with
  | nil => exact .ok []
  | cons value rest ih =>
      exact (numeric_failsOnly reads position value).bind fun _ => (ih _).bind fun _ => .ok _

theorem exists_slice {cs : List Char} {start stop : ℤ} (low : 0 ≤ start) (ordered : start ≤ stop)
    (high : stop ≤ cs.length) : ∃ part, slice cs start stop = .ok part :=
  ⟨_, if_pos ⟨low, ordered, high⟩⟩

theorem substring_failsOnly : FailsOnly (Reports .substr) (substring arguments) := by
  have reads : Builtin.substr ∈ readsNumbers := by decide
  refine (numeric_failsOnly reads _ _).bind fun given => .bind ?_ fun asked => ?_
  · unfold countAt
    split
    next => exact .ok _
    next => exact .ok _
    next => exact (numeric_failsOnly reads _ _).map _
  · obtain ⟨low, high⟩ := Excerpt.startOf_bounds (textAt arguments 0).length given.toInt64
    have within := max_le high (Excerpt.stopOf_le high asked)
    obtain ⟨part, cut⟩ := exists_slice low (le_max_left _ _) within
    dsimp only
    rw [cut]
    exact .ok _

theorem mapNumber_failsOnly (reads : builtin ∈ readsNumbers) (f : Binary64 → Binary64) :
    FailsOnly builtin.Reports (mapNumber f arguments) :=
  (numeric_failsOnly reads _ _).map _

theorem roundTo_failsOnly : FailsOnly (Reports .round) (roundTo arguments) := by
  have reads : Builtin.round ∈ readsNumbers := by decide
  refine (numeric_failsOnly reads _ _).bind fun _ => ?_
  dsimp only
  split
  next => exact ((numeric_failsOnly reads _ _).map _).bind fun _ => .ok _
  next => exact .ok _

theorem average_failsOnly : FailsOnly (Reports .avg) (average arguments) := by
  refine (numbersFrom_failsOnly (by decide) _).bind fun numbers => ?_
  split
  next => exact .ok _
  next => exact .ok _

theorem extreme_failsOnly {wanted : Ordering} (reports : builtin.Reports .noValues) :
    FailsOnly builtin.Reports (extreme wanted arguments) := by
  unfold extreme
  split
  next => exact .error reports
  next => exact .ok _

theorem replaceAll_failsOnly : FailsOnly (Reports .replace) (replaceAll arguments) :=
  .ite (.ok _) (.ok _)

theorem splitAll_failsOnly : FailsOnly (Reports .split) (splitAll arguments) :=
  .ite (.ok _) (.ok _)

theorem joinAll_failsOnly (enough : 0 < arguments.length) :
    FailsOnly (Reports .join) (joinAll arguments) := by
  refine (argument_failsOnly enough).bind fun value => ?_
  cases value with
  | arr items => exact .ok _
  | null | bool | num | str | obj => exact .error (.notJoined _)

theorem memberOf_failsOnly (enough : 1 < arguments.length) :
    FailsOnly (Reports .inArray) (memberOf arguments) := by
  refine (argument_failsOnly (by omega)).bind fun wanted => (argument_failsOnly enough).bind ?_
  intro value
  cases value with
  | arr items => exact .ok _
  | null | bool | num | str | obj => exact .error (.notSearched _)

theorem decode_failsOnly (value : Json) : FailsOnly (Reports .jsonDecode) (decode value) := by
  unfold decode
  split
  next =>
    split
    next => exact .ok _
    next => exact .error .invalidJson
  next => exact .ok _

theorem momentOf_failsOnly (value : Json) : FailsOnly (Reports .dateFormat) (momentOf value) := by
  unfold momentOf
  split
  next =>
    split
    next => exact .ok _
    next => exact .error (.invalidDate _)
  next =>
    refine (numeric_failsOnly (by decide) _ _).bind fun number => ?_
    dsimp only
    split
    next => exact .ok _
    next => exact .error (.outOfRange _)

theorem formatDate_failsOnly (enough : 0 < arguments.length) :
    FailsOnly (fun failure => Reports .dateFormat failure ∨ RefusesFormat arguments failure)
      (formatDate arguments) := by
  obtain ⟨date, rest, rfl⟩ := List.exists_cons_of_length_pos enough
  have given : argument (date :: rest) 0 = .ok date := rfl
  intro failure failed
  simp only [formatDate, given, ok_bind] at failed
  rcases bind_eq_error.mp failed with unread | ⟨moment, read, failed⟩
  · exact .inl (momentOf_failsOnly date failure unread)
  · split at failed
    next => cases failed
    next refused =>
      cases failed
      exact .inr ⟨_, moment, rfl, congrArg some read, refused, rfl⟩

theorem choose_failsOnly (enough : 2 < arguments.length) :
    FailsOnly (Reports .ifElse) (choose arguments) :=
  (argument_failsOnly (by omega)).bind fun _ =>
    .ite (argument_failsOnly (by omega)) (argument_failsOnly enough)

theorem fallback_failsOnly (enough : 1 < arguments.length) :
    FailsOnly (Reports .default) (fallback arguments) :=
  (argument_failsOnly (by omega)).bind fun _ => .ite (argument_failsOnly enough) (.ok _)

/-- With as many arguments as it takes a function reads nothing that is not there. -/
theorem run_failsOnly (accepted : builtin.arity.accepts arguments.length = true) :
    FailsOnly (builtin.MayFail arguments) (run clock builtin arguments) := by
  have enough := Arity.least_le accepted
  have reported : FailsOnly builtin.Reports (run clock builtin arguments) →
      FailsOnly (builtin.MayFail arguments) (run clock builtin arguments) :=
    fun only => only.mono fun _ => .inl
  cases builtin with
  | strlen | upper | lower | trim | concat | startsWith | endsWith | toInt | toFloat | toText | md5
  | now => exact reported (.ok _)
  | substr => exact reported substring_failsOnly
  | replace => exact reported replaceAll_failsOnly
  | split => exact reported splitAll_failsOnly
  | join => exact reported (joinAll_failsOnly enough)
  | inArray => exact reported (memberOf_failsOnly enough)
  | abs | floor | ceil => exact reported (mapNumber_failsOnly (by decide) _)
  | round => exact reported roundTo_failsOnly
  | max => exact reported (extreme_failsOnly .noGreatest)
  | min => exact reported (extreme_failsOnly .noLeast)
  | sum => exact reported ((numbersFrom_failsOnly (by decide) _).bind fun _ => .ok _)
  | avg => exact reported average_failsOnly
  | count | isNumeric | jsonEncode => exact reported ((argument_failsOnly enough).map _)
  | contains =>
      exact reported ((argument_failsOnly (Nat.zero_lt_of_lt enough)).bind fun _ =>
        (argument_failsOnly enough).bind fun _ => .ok _)
  | jsonDecode => exact reported ((argument_failsOnly enough).bind decode_failsOnly)
  | ifElse => exact reported (choose_failsOnly enough)
  | default => exact reported (fallback_failsOnly enough)
  | dateFormat =>
      exact (formatDate_failsOnly enough).mono fun _ => Or.imp_right fun refused => ⟨rfl, refused⟩

theorem MayFail.ne_beyondEnd {failure : CallFailure} (may : builtin.MayFail arguments failure) :
    failure ≠ .beyondEnd := by
  rcases may with reports | ⟨_, _, _, _, _, _, rfl⟩
  · cases reports <;> nofun
  · nofun

theorem mayFail_of_execute {env : Environment} {program : Node} {data : Bindings} {name : String}
    {failure : CallFailure}
    (failed : env.execute program data = .error (.execution (.failed name failure))) :
    ∃ call : FunctionRun, call.Registered env.registry ∧ call.code = name ∧
      call.builtin.MayFail call.arguments failure := by
  have resolved : program.Resolved env.registry := by
    rw [← Registry.check_eq_ok]
    unfold Environment.execute at failed
    split at failed
    next accepted => exact accepted
    next rejected =>
      cases failed
      unfold Registry.check at rejected
      split at rejected <;> cases rejected
  have arises : (FlowError.sandbox (.execution (.failed name failure))).Arises env true :=
    Environment.execute_arises resolved (congrArg (Except.mapError FlowError.sandbox) failed)
  cases arises with
  | @call call _ registered failedCall =>
      have ⟨_, _, _, accepted⟩ := registered
      exact ⟨call, registered, rfl, run_failsOnly accepted failure failedCall⟩

/-- A function with as many arguments as it takes gives a value or reports an error, unless it is
refused a date format.  A program that fails while it runs does so in a call of that kind. -/
theorem run_reports (clock : ℤ) :
    (∀ (builtin : Builtin) (arguments : List Json),
      builtin.arity.accepts arguments.length = true →
      (∃ value, run clock builtin arguments = .ok value) ∨
        ∃ failure, run clock builtin arguments = .error failure ∧ failure ≠ .beyondEnd ∧
          builtin.MayFail arguments failure) ∧
    ∀ (registry : Registry) (program : Node) (data : Bindings) (name : String)
      (failure : CallFailure),
      Environment.execute ⟨registry, clock⟩ program data =
        .error (.execution (.failed name failure)) →
      failure ≠ .beyondEnd ∧ ∃ call : FunctionRun, call.Registered registry ∧ call.code = name ∧
        call.builtin.MayFail call.arguments failure := by
  constructor
  · intro builtin arguments accepted
    have only : FailsOnly (builtin.MayFail arguments) (run clock builtin arguments) :=
      run_failsOnly accepted
    cases ran : run clock builtin arguments with
    | ok value => exact .inl ⟨value, rfl⟩
    | error failure =>
        have may := only failure ran
        exact .inr ⟨failure, rfl, may.ne_beyondEnd, may⟩
  · intro registry program data name failure failed
    obtain ⟨call, registered, called, may⟩ := mayFail_of_execute failed
    exact ⟨may.ne_beyondEnd, call, registered, called, may⟩

theorem run_reports_of_text :
    (∃ failure, run 0 .join [.str "a"] = .error failure ∧ failure ≠ .beyondEnd ∧
      Builtin.join.MayFail [.str "a"] failure) ∧
      let registry := Registry.empty.addFunction "glue" "array" .plain .join
      Environment.execute ⟨registry, 0⟩ (.call "glue" [.literal (.str "a")]) [] =
        .error (.execution (.failed "glue" (.notArray .join .string))) ∧
      ∃ call : FunctionRun, call.Registered registry ∧ call.code = "glue" ∧
        call.builtin.MayFail call.arguments (.notArray .join .string) := by
  refine ⟨?_, ?_⟩
  · rcases (run_reports 0).1 .join [.str "a"] (by decide) with ⟨_, ⟨⟩⟩ | failed
    exact failed
  · have failed : Environment.execute ⟨Registry.empty.addFunction "glue" "array" .plain .join, 0⟩
        (.call "glue" [.literal (.str "a")]) [] =
        .error (.execution (.failed "glue" (.notArray .join .string))) := by rfl
    exact ⟨failed, ((run_reports 0).2 _ _ _ _ _ failed).2⟩

end Builtin

end FlowLogic
