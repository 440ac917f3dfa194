import FlowLogic.Command.Run
import FlowLogic.Proofs.Command.Options

/-!
The status that a failing command leaves.  Whether a command fails, and how, does not depend on the
form of its output; but only a failure that is reported as JSON keeps the status of its kind.
-/

namespace FlowLogic

inductive FailureKind where
  | build
  | compile
  | execution
  | coercion
  | transform
  | config
  | other
  deriving DecidableEq

/-- The status that the documentation gives for a kind. -/
def FailureKind.status : FailureKind → Nat
  | .build => 2
  | .compile => 3
  | .execution => 4
  | .coercion => 5
  | .transform => 6
  | .config => 7
  | .other => 1

theorem FailureKind.status_eq_one {kind : FailureKind} : kind.status = 1 ↔ kind = .other := by
  cases kind <;> decide

namespace Failure

def kind : Failure → FailureKind
  | .flow (.build _) => .build
  | .flow (.compile _) | .flow (.ineffective _) => .compile
  | .flow (.sandbox (.registration _)) | .flow (.sandbox (.rejected _)) => .compile
  | .flow (.sandbox (.execution _)) => .execution
  | .flow (.coercion _) => .coercion
  | .flow (.transform _) => .transform
  | .config _ | .functionFiles _ | .setting _ | .unverified _ | .unsound => .config
  | .unwritable _ _ | .noDirectory _ | .unreadable _ _ | .notJson | .dataNotObject => .other

/-- A date format was refused, which ends the program where it stands. -/
def Aborts : Failure → Prop
  | .flow error => error.isRefusedFormat = true
  | _ => False

theorem status_eq_kind (failure : Failure) : failure.status = failure.kind.status := by
  cases failure with
  | flow error =>
      cases error with
      | sandbox error => cases error <;> rfl
      | _ => rfl
  | _ => rfl

theorem ending_failed_of_aborts {failure : Failure} (aborts : failure.Aborts) (mode : OutputMode)
    (output : String) : (Outcome.failed mode output failure).ending = .aborted := by
  cases failure with
  | flow error =>
      have refused : error.isRefusedFormat = true := aborts
      simp only [Outcome.failed, if_pos refused]
  | _ => exact aborts.elim

theorem ending_failed {failure : Failure} (regular : ¬ failure.Aborts) (mode : OutputMode)
    (output : String) :
    (Outcome.failed mode output failure).ending =
      .finished (if mode = .json then failure.kind.status else 1) := by
  have reported : (Outcome.failed.report mode output failure).ending =
      .finished (if mode = .json then failure.kind.status else 1) := by
    cases mode <;> simp [Outcome.failed.report, status_eq_kind]
  cases failure with
  | flow error =>
      have accepted : ¬ error.isRefusedFormat = true := regular
      simpa only [Outcome.failed, if_neg accepted] using reported
  | _ => exact reported

end Failure

namespace Invocation

section

variable {m : Type → Type} [Monad m] [LawfulMonad m] {α β : Type}

def failureOf (step : Task m α) : m (Option Failure) := do
  match ← step.run with
  | .ok _ => return none
  | .error failure => return some failure

theorem failure_reportOf (step : Task m String) :
    Report.failure <$> reportOf step = failureOf step := by
  simp only [reportOf, failureOf, map_bind]
  congr 1
  funext result
  cases result <;> simp

theorem failureOf_pure (value other : α) :
    failureOf (pure value : Task m α) = failureOf (pure other) := by
  simp [failureOf]

theorem failureOf_bind {step : Task m α} {next other : α → Task m β}
    (same : ∀ value, failureOf (next value) = failureOf (other value)) :
    failureOf (step >>= next) = failureOf (step >>= other) := by
  simp only [failureOf, ExceptT.run_bind, bind_assoc]
  congr 1
  funext result
  cases result with
  | error failure => simp
  | ok value => simpa [failureOf] using same value

variable (host : Host m) (around : Surroundings)

theorem failureOf_eval (mode other : OutputMode) (configPath : String) (extra : List String)
    (argument : String) (data : Option String) (kind : Option DefinitionKind) (lenient : Bool) :
    failureOf (eval host around mode configPath extra argument data kind lenient) =
      failureOf (eval host around other configPath extra argument data kind lenient) := by
  refine failureOf_bind fun ⟨config, registry⟩ => ?_
  refine failureOf_bind fun definition => ?_
  refine failureOf_bind fun bindings => ?_
  refine failureOf_bind fun code => ?_
  refine failureOf_bind fun result => ?_
  exact failureOf_pure _ _

theorem failure_runConfig (mode other : OutputMode) (configPath : String)
    (command : ConfigCommand) :
    Report.failure <$> runConfig host mode configPath command =
      Report.failure <$> runConfig host other configPath command := by
  cases command with
  | «show» | path | verify => rfl
  | set key value =>
      simp only [runConfig, failure_reportOf]
      refine failureOf_bind fun config => ?_
      refine failureOf_bind fun changed => ?_
      refine failureOf_bind fun _ => ?_
      exact failureOf_pure _ _
  | reset =>
      simp only [runConfig, failure_reportOf]
      refine failureOf_bind fun _ => ?_
      exact failureOf_pure _ _

/-- A command fails alike in all modes of output. -/
theorem failure_report (invocation : Invocation) (choice : OutputOption) :
    Report.failure <$> (invocation.choosing choice).report host around =
      Report.failure <$> invocation.report host around := by
  obtain ⟨config, json, noJson, quiet, functions, command⟩ := invocation
  have alike : ∀ json' noJson' quiet',
      Report.failure <$> report host around ⟨config, json', noJson', quiet', functions, command⟩ =
        Report.failure <$> report host around
          ⟨config, json, noJson, quiet, functions, command⟩ := by
    intro json' noJson' quiet'
    cases command with
    | eval argument data kind lenient =>
        simp only [report, failure_reportOf]
        exact failureOf_eval ..
    | check argument kind | code argument kind =>
        simp only [report, failure_reportOf]
        refine failureOf_bind fun ⟨definition, code⟩ => ?_
        exact failureOf_pure _ _
    | functions group names format =>
        simp only [report, failure_reportOf]
        refine failureOf_bind fun ⟨config, registry⟩ => ?_
        exact failureOf_pure _ _
    | config command => exact failure_runConfig ..
  cases choice <;> exact alike ..

end

theorem bind_apply {σ α β : Type} (step : StateM σ α) (next : α → StateM σ β) (state : σ) :
    (step >>= next) state = next (step state).1 (step state).2 := rfl

section

variable {σ : Type} (host : Host (StateM σ)) (around : Surroundings) (start : σ)

theorem mode_choosing {invocation : Invocation} (undecided : invocation.Undecided)
    (choice : OutputOption) :
    (invocation.choosing choice).mode around = .json ↔ choice = .json := by
  obtain ⟨json, noJson, quiet⟩ := undecided
  cases choice <;> simp [choosing, mode, OutputMode.ofOptions, json, quiet]

def bareHost : Host (StateM Unit) :=
  ⟨fun _ => pure (.error .missing), fun _ => pure (.error .missing),
    fun _ _ => pure (.error .missing), pure ""⟩

def endingWith (line : List String) (choice : OutputOption) : Ending :=
  (runArguments host around (choice.argument :: line) start).1.ending

variable {line : List String} {invocation : Invocation} {failure : Failure}

theorem run_of_failure (fails : (invocation.report host around start).1.failure = some failure) :
    ((invocation.run host around) start).1 =
      .failed (invocation.mode around) (invocation.report host around start).1.output failure := by
  rw [run, bind_apply]
  simp only [fails]
  rfl

theorem endingWith_of_failure (readLine : read line = .ok invocation)
    (undecided : invocation.Undecided)
    (fails : (invocation.report host around start).1.failure = some failure)
    (choice : OutputOption) :
    ∃ output, endingWith host around start line choice =
      (Outcome.failed ((invocation.choosing choice).mode around) output failure).ending := by
  have alike := congrArg (fun reported => (reported start).1)
    (failure_report host around invocation choice)
  have failsAlike :
      ((invocation.choosing choice).report host around start).1.failure = some failure :=
    alike.trans fails
  refine ⟨((invocation.choosing choice).report host around start).1.output, ?_⟩
  rw [endingWith, runArguments, read_choosing readLine undecided choice]
  exact congrArg Outcome.ending (run_of_failure host around start failsAlike)

/-- The status of a command that fails is that of its kind of failure where the failure is reported
as JSON, and 1 in the other modes.  It is therefore the same in all of them only for a failure that
has no status of its own, and for one that aborts the program. -/
theorem ending_of_failure (readLine : read line = .ok invocation)
    (undecided : invocation.Undecided)
    (fails : (invocation.report host around start).1.failure = some failure) :
    (failure.Aborts → ∀ choice, endingWith host around start line choice = .aborted) ∧
      (¬ failure.Aborts →
        endingWith host around start line .json = .finished failure.kind.status ∧
          (∀ choice, choice ≠ .json → endingWith host around start line choice = .finished 1) ∧
          ((∀ choice, endingWith host around start line choice = .finished failure.kind.status) ↔
            failure.kind = .other)) := by
  have ending := endingWith_of_failure host around start readLine undecided fails
  refine ⟨fun aborts choice => ?_, fun regular => ?_⟩
  · obtain ⟨output, ended⟩ := ending choice
    rw [ended, Failure.ending_failed_of_aborts aborts]
  · have json : endingWith host around start line .json = .finished failure.kind.status := by
      obtain ⟨output, ended⟩ := ending .json
      rw [ended, Failure.ending_failed regular,
        if_pos ((mode_choosing around undecided .json).mpr rfl)]
    have others (choice) (other : choice ≠ .json) :
        endingWith host around start line choice = .finished 1 := by
      obtain ⟨output, ended⟩ := ending choice
      rw [ended, Failure.ending_failed regular,
        if_neg (other ∘ (mode_choosing around undecided choice).mp)]
    refine ⟨json, others, fun same => ?_, fun kind choice => ?_⟩
    · have one := (same .quiet).symm.trans (others .quiet (by decide))
      exact FailureKind.status_eq_one.mp (Ending.finished.inj one)
    · by_cases isJson : choice = .json
      · rw [isJson, json]
      · rw [others choice isJson, kind]
        rfl

theorem ending_of_failure_nothing_to_check :
    endingWith bareHost ⟨"/home", none, false, 0⟩ () ["check", "{}"] .json = .finished 2 ∧
      ∀ choice, choice ≠ .json →
        endingWith bareHost ⟨"/home", none, false, 0⟩ () ["check", "{}"] choice = .finished 1 := by
  have readLine : read ["check", "{}"] =
      .ok ⟨none, false, false, false, [], .check "{}" none⟩ := rfl
  have regular : ¬ Failure.Aborts (.flow (.build ⟨.noTokens, []⟩)) := nofun
  obtain ⟨json, others, -⟩ :=
    (ending_of_failure bareHost ⟨"/home", none, false, 0⟩ () readLine ⟨rfl, rfl, rfl⟩ rfl).2 regular
  exact ⟨json, others⟩

theorem endings_differ_nothing_to_check :
    ¬ ∀ choice other, endingWith bareHost ⟨"/home", none, false, 0⟩ () ["check", "{}"] choice =
      endingWith bareHost ⟨"/home", none, false, 0⟩ () ["check", "{}"] other := by
  intro same
  have equal : Ending.finished 2 = .finished 1 := same .json .noJson
  cases equal

end

end Invocation

end FlowLogic
