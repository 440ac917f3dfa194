import FlowLogic.Command.Arguments
import FlowLogic.Proofs.Outcome

/-!
Command lines with a flag in front.  A flag that a line does not have can be put before it, and the
line is read as before, with the flag set.
-/

namespace FlowLogic

open Outcome

namespace Given

variable {g after : Given} {flag option : CommandOption} {value : String}

/-- What a level holds that was read behind a flag. -/
def behind (flag : CommandOption) (g : Given) : Given :=
  { g with options := g.options ++ [(flag, "")] }

theorem has_behind (flag option : CommandOption) (g : Given) :
    (g.behind flag).has option = (g.has option || decide (flag = option)) := by
  simp only [has, behind, List.any_append, List.any_cons, List.any_nil, Bool.or_false]
  rfl

theorem values_behind (apart : flag ≠ option) (g : Given) :
    (g.behind flag).values option = g.values option := by
  have other : (flag == option) = false := beq_eq_false_iff_ne.mpr apart
  simp [values, behind, List.filter_append, other]

theorem has_of_add (added : g.add option value = .ok after) :
    after.has flag = (option == flag || g.has flag) := by
  unfold add at added
  split at added
  next => cases added
  next =>
    cases added
    rfl

theorem add_behind (added : g.add option value = .ok after) (absent : after.has flag = false) :
    (g.behind flag).add option value = .ok (after.behind flag) := by
  rw [has_of_add added, Bool.or_eq_false_iff, beq_eq_false_iff_ne] at absent
  have same : (g.behind flag).has option = g.has option := by
    simp [has_behind, absent.1.symm]
  unfold add at added ⊢
  rw [same]
  split at added
  next => cases added
  next fits =>
    cases added
    rw [if_neg fits]
    rfl

end Given

namespace Level

variable {level : Level} {g : Given} {flag : CommandOption}

/-- The options that a reader has come by stay with it, and a flag before it changes nothing for as
long as it does not come by that flag itself. -/
def Indifferent (flag : CommandOption) (g after : Given) (again : Prop) : Prop :=
  (g.has flag = true → after.has flag = true) ∧ (after.has flag = false → again)

theorem Indifferent.of_add {option : CommandOption} {value : String} {after : Given}
    (added : g.add option value = .ok after) :
    Indifferent flag g after ((g.behind flag).add option value = .ok (after.behind flag)) := by
  refine ⟨fun had => ?_, Given.add_behind added⟩
  rw [Given.has_of_add added, had, Bool.or_true]

theorem Indifferent.trans {middle after : Given} {first second : Prop}
    (one : Indifferent flag g middle first) (other : Indifferent flag middle after second) :
    Indifferent flag g after (first ∧ second) := by
  refine ⟨fun had => other.1 (one.1 had), fun absent => ⟨one.2 ?_, other.2 absent⟩⟩
  rw [Bool.eq_false_iff]
  intro had
  rw [other.1 had] at absent
  cases absent

theorem Indifferent.imp {after : Given} {first second : Prop} (one : Indifferent flag g after first)
    (step : first → second) : Indifferent flag g after second :=
  ⟨one.1, fun absent => step (one.2 absent)⟩

theorem Indifferent.refl {again : Prop} (same : again) : Indifferent flag g g again :=
  ⟨id, fun _ => same⟩

theorem readLong_behind {cs : List Char} {progress : Progress}
    (read : level.readLong g cs = .ok progress) :
    Indifferent flag g progress.given
      (level.readLong (g.behind flag) cs =
        .ok ⟨progress.given.behind flag, progress.waiting⟩) := by
  unfold readLong at read ⊢
  dsimp only at read ⊢
  split at read
  next value =>
    split at read
    next option =>
      split at read
      next =>
        obtain ⟨after, added, returned⟩ := bind_eq_ok.mp read
        cases returned
        exact (Indifferent.of_add added).imp fun again => by simp [*]
      next => cases read
    next => cases read
  next =>
    split at read
    next option =>
      split at read
      next =>
        cases read
        exact .refl (by simp [*])
      next =>
        obtain ⟨after, added, returned⟩ := bind_eq_ok.mp read
        cases returned
        exact (Indifferent.of_add added).imp fun again => by simp [*]
    next =>
      split at read
      next => cases read
      next => split at read <;> cases read

theorem readLetters_behind {letters : List Char} {progress : Progress}
    (read : level.readLetters g letters = .ok progress) :
    Indifferent flag g progress.given
      (level.readLetters (g.behind flag) letters =
        .ok ⟨progress.given.behind flag, progress.waiting⟩) := by
  induction letters generalizing g with
  | nil =>
      cases read
      exact .refl rfl
  | cons letter rest ih =>
      unfold readLetters at read ⊢
      split at read
      next option found =>
        split at read
        next hasValue =>
          rw [if_pos hasValue]
          split at read
          next =>
            cases read
            exact .refl rfl
          all_goals
            obtain ⟨after, added, returned⟩ := bind_eq_ok.mp read
            cases returned
            exact (Indifferent.of_add added).imp fun again => by simp [again]
        next noValue =>
          rw [if_neg noValue]
          split at read
          next after added =>
            exact ((Indifferent.of_add added).trans (ih read)).imp fun again => by simp [again]
          next => cases read
      next =>
        split at read
        next => cases read
        next => split at read <;> cases read

theorem readArgument_behind {argument : String} {after : Given}
    (read : level.readArgument g argument = .ok after) :
    Indifferent flag g after
      (level.readArgument (g.behind flag) argument = .ok (after.behind flag)) := by
  unfold readArgument at read
  split at read
  next room =>
    cases read
    exact .refl (if_pos room)
  next => cases read

theorem read_behind {waiting : Option CommandOption} {literal : Bool} {line : List String}
    {after : Given} {command : Option (String × List String)}
    (read : level.read g waiting literal line = .ok (after, command)) :
    Indifferent flag g after
      (level.read (g.behind flag) waiting literal line = .ok (after.behind flag, command)) := by
  -- Each argument is one step and the rest of the line another; the flag in front must come through
  -- both, and a step that adds an option can only be repeated if the option is not the flag.
  induction line generalizing g waiting literal with
  | nil =>
      unfold Level.read at read ⊢
      split at read
      next => cases read
      next still =>
        cases read
        exact .refl (if_neg still)
  | cons argument rest ih =>
      unfold Level.read at read ⊢
      cases waiting with
      | some option =>
          dsimp only at read ⊢
          split at read
          next => cases read
          next value =>
            rw [if_neg value]
            split at read
            next middle added =>
              exact ((Indifferent.of_add added).trans (ih read)).imp fun again => by simp [again]
            next => cases read
      | none =>
          dsimp only at read ⊢
          split at read
          next named =>
            cases read
            exact .refl (if_pos named)
          next unnamed =>
            rw [if_neg unnamed]
            split at read
            next isOption =>
              rw [if_pos isOption]
              split at read
              next dashes =>
                rw [if_pos dashes]
                exact ih read
              next other =>
                rw [if_neg other]
                split at read
                next long _ =>
                  split at read
                  next progress readOption =>
                    exact ((readLong_behind readOption).trans (ih read)).imp fun again => by
                      simp [again]
                  next => cases read
                next notLong =>
                  split at read
                  next progress readOptions =>
                    refine ((readLetters_behind readOptions).trans (ih read)).imp fun again => ?_
                    simp [again]
                  next => cases read
            next isArgument =>
              rw [if_neg isArgument]
              split at read
              next middle readOne =>
                exact ((readArgument_behind readOne).trans (ih read)).imp fun again => by
                  simp [again]
              next => cases read

end Level

inductive OutputOption where
  | json
  | noJson
  | quiet
  deriving DecidableEq

namespace OutputOption

def option : OutputOption → CommandOption
  | .json => .json
  | .noJson => .noJson
  | .quiet => .quiet

def argument (choice : OutputOption) : String := "--" ++ choice.option.long

theorem conflicts_behind (choice : OutputOption) {g : Given} (noJson : g.has .noJson = false)
    (json : g.has .json = false) : (g.behind choice.option).conflicts = g.conflicts := by
  cases choice <;> simp [Given.conflicts, Given.has_behind, option, noJson, json]

end OutputOption

namespace Invocation

/-- The command line leaves it open how output is written. -/
structure Undecided (invocation : Invocation) : Prop where
  json : invocation.json = false
  noJson : invocation.noJson = false
  quiet : invocation.quiet = false

/-- The same command with the output option set. -/
def choosing (choice : OutputOption) (invocation : Invocation) : Invocation :=
  match choice with
  | .json => { invocation with json := true }
  | .noJson => { invocation with noJson := true }
  | .quiet => { invocation with quiet := true }

variable {inner : List Given} {g : Given} {flag option : CommandOption}

theorem hasOption_behind :
    hasOption (inner ++ [g.behind flag]) option =
      (hasOption (inner ++ [g]) option || decide (flag = option)) := by
  simp [hasOption, Given.has_behind, Bool.or_assoc]

theorem valuesOf_behind (apart : flag ≠ option) :
    valuesOf (inner ++ [g.behind flag]) option = valuesOf (inner ++ [g]) option := by
  have same : (g.behind flag).has option = g.has option := by
    simp [Given.has_behind, apart]
  simp only [valuesOf, List.find?_append, List.find?_singleton, same]
  cases inner.find? (·.has option) with
  | some found => rfl
  | none =>
      cases g.has option with
      | true => exact Given.values_behind apart g
      | false => rfl

theorem has_of_hasOption (absent : hasOption (inner ++ [g]) option = false) :
    g.has option = false := by
  simp only [hasOption, List.any_append, Bool.or_eq_false_iff] at absent
  simpa using absent.2

theorem readCommand_choosing (choice : OutputOption) {line : List String}
    {command : String × List String} (read : Level.program.readCommand line = .ok (g, command))
    (absent : g.has choice.option = false) :
    Level.program.readCommand (choice.argument :: line) =
      .ok (g.behind choice.option, command) := by
  obtain ⟨⟨given, found⟩, readProgram, returned⟩ := bind_eq_ok.mp read
  cases found with
  | none => cases returned
  | some found =>
      cases returned
      have first : Level.program.read ⟨[], []⟩ none false (choice.argument :: line) =
          Level.program.read (Given.behind choice.option ⟨[], []⟩) none false line := by
        cases choice <;> rfl
      rw [Level.readCommand, first, (Level.read_behind readProgram).2 absent]
      rfl

/-- An output option can stand before a command line that has none. -/
theorem read_choosing {line : List String} {invocation : Invocation}
    (readLine : Invocation.read line = .ok invocation) (undecided : invocation.Undecided)
    (choice : OutputOption) :
    Invocation.read (choice.argument :: line) = .ok (invocation.choosing choice) := by
  obtain ⟨⟨given, name, rest⟩, readOuter, readLine⟩ := bind_eq_ok.mp readLine
  obtain ⟨⟨command, inner⟩, readInner, readLine⟩ := bind_eq_ok.mp readLine
  dsimp only at readInner readLine
  split at readLine
  next => cases readLine
  next agree =>
    cases readLine
    obtain ⟨json, noJson, quiet⟩ := undecided
    dsimp only at json noJson quiet
    have absent : given.has choice.option = false := by
      cases choice with
      | json => exact has_of_hasOption json
      | noJson => exact has_of_hasOption noJson
      | quiet => exact has_of_hasOption quiet
    have same : (given.behind choice.option).conflicts = given.conflicts :=
      choice.conflicts_behind (has_of_hasOption noJson) (has_of_hasOption json)
    have agreeBehind : ¬ (inner ++ [given.behind choice.option]).any Given.conflicts = true := by
      simpa [same] using agree
    simp only [Invocation.read, readCommand_choosing choice readOuter absent, ok_bind, readInner,
      if_neg agreeBehind]
    cases choice <;> simp [choosing, OutputOption.option, hasOption_behind, valuesOf_behind]

end Invocation

end FlowLogic
