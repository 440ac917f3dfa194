/-!
Outcomes that are a value or an error: how sequencing and renaming of errors act on them, and which
member of a list is the first at fault.
-/

namespace FlowLogic.Outcome

variable {ε ε' α β : Type}

@[simp] theorem pure_eq_ok (value : α) : (pure value : Except ε α) = .ok value := rfl

@[simp] theorem ok_bind (value : α) (next : α → Except ε β) :
    (Except.ok value >>= next) = next value := rfl

@[simp] theorem error_bind (error : ε) (next : α → Except ε β) :
    (Except.error error >>= next) = .error error := rfl

@[simp] theorem map_ok (f : α → β) (value : α) :
    Except.map f (.ok value : Except ε α) = .ok (f value) := rfl

@[simp] theorem map_error (f : α → β) (error : ε) :
    Except.map f (.error error : Except ε α) = .error error := rfl

@[simp] theorem mapError_ok (f : ε → ε') (value : α) :
    (Except.ok value : Except ε α).mapError f = .ok value := rfl

@[simp] theorem mapError_error (f : ε → ε') (error : ε) :
    (Except.error error : Except ε α).mapError f = .error (f error) := rfl

theorem bind_eq_ok {outcome : Except ε α} {next : α → Except ε β} {result : β} :
    (outcome >>= next) = .ok result ↔
      ∃ value, outcome = .ok value ∧ next value = .ok result := by
  cases outcome <;> simp

theorem exists_bind_eq_ok {outcome : Except ε α} {next : α → Except ε β} :
    (∃ result, (outcome >>= next) = .ok result) ↔
      ∃ value, outcome = .ok value ∧ ∃ result, next value = .ok result := by
  cases outcome <;> simp

theorem exists_bind_eq_ok_of_total {outcome : Except ε α} {next : α → Except ε β}
    (total : ∀ value, ∃ result, next value = .ok result) :
    (∃ result, (outcome >>= next) = .ok result) ↔ ∃ value, outcome = .ok value := by
  rw [exists_bind_eq_ok]
  exact exists_congr fun value => and_iff_left (total value)

theorem bind_eq_error {outcome : Except ε α} {next : α → Except ε β} {error : ε} :
    (outcome >>= next) = .error error ↔
      outcome = .error error ∨ ∃ value, outcome = .ok value ∧ next value = .error error := by
  cases outcome <;> simp

theorem bind_ok_eq_error {outcome : Except ε α} {f : α → β} {error : ε} :
    (outcome >>= fun value => .ok (f value)) = .error error ↔ outcome = .error error := by
  cases outcome <;> simp

theorem map_eq_ok {outcome : Except ε α} {f : α → β} {result : β} :
    outcome.map f = .ok result ↔ ∃ value, outcome = .ok value ∧ f value = result := by
  cases outcome <;> simp

theorem exists_map_eq_ok {outcome : Except ε α} {f : α → β} :
    (∃ result, outcome.map f = .ok result) ↔ ∃ value, outcome = .ok value := by
  cases outcome <;> simp

theorem mapError_eq_ok {outcome : Except ε α} {f : ε → ε'} {result : α} :
    outcome.mapError f = .ok result ↔ outcome = .ok result := by
  cases outcome <;> simp

theorem mapError_eq_error {outcome : Except ε α} {f : ε → ε'} {error : ε'} :
    outcome.mapError f = .error error ↔ ∃ cause, outcome = .error cause ∧ f cause = error := by
  cases outcome <;> simp

theorem mapError_bind (f : ε → ε') (outcome : Except ε α) (next : α → Except ε β) :
    (outcome >>= next).mapError f =
      (outcome.mapError f >>= fun value => (next value).mapError f) := by
  cases outcome <;> rfl

theorem toOption_eq_some {outcome : Except ε α} {value : α} :
    outcome.toOption = some value ↔ outcome = .ok value := by
  cases outcome <;> simp [Except.toOption]

theorem toOption_mapError (f : ε → ε') (outcome : Except ε α) :
    (outcome.mapError f).toOption = outcome.toOption := by
  cases outcome <;> rfl

/-- The outcome is a value or one of the allowed errors. -/
def FailsOnly (allowed : ε → Prop) (outcome : Except ε α) : Prop :=
  ∀ error, outcome = .error error → allowed error

section

variable {allowed : ε → Prop} {outcome : Except ε α}

theorem FailsOnly.ok (value : α) : FailsOnly allowed (.ok value : Except ε α) := nofun

theorem FailsOnly.error {error : ε} (holds : allowed error) :
    FailsOnly allowed (.error error : Except ε α) := by
  rintro _ ⟨⟩
  exact holds

theorem FailsOnly.bind {next : α → Except ε β} (first : FailsOnly allowed outcome)
    (rest : ∀ value, FailsOnly allowed (next value)) : FailsOnly allowed (outcome >>= next) := by
  intro error failed
  rcases bind_eq_error.mp failed with failed | ⟨value, _, failed⟩
  · exact first error failed
  · exact rest value error failed

theorem FailsOnly.map (f : α → β) (first : FailsOnly allowed outcome) :
    FailsOnly allowed (outcome.map f) := by
  cases outcome with
  | ok value => exact .ok (f value)
  | error cause => exact .error (first cause rfl)

theorem FailsOnly.ite {condition : Prop} [Decidable condition] {other : Except ε α}
    (first : FailsOnly allowed outcome) (second : FailsOnly allowed other) :
    FailsOnly allowed (if condition then outcome else other) := by
  split
  · exact first
  · exact second

theorem FailsOnly.mono {others : ε → Prop} (first : FailsOnly allowed outcome)
    (weaker : ∀ error, allowed error → others error) : FailsOnly others outcome :=
  fun error failed => weaker error (first error failed)

end

theorem toOption_bind_congr {first : Except ε α} {other : Except ε' α} {next : α → Except ε β}
    {nextOther : α → Except ε' β} (same : first.toOption = other.toOption)
    (sameNext : ∀ value, (next value).toOption = (nextOther value).toOption) :
    (first >>= next).toOption = (other >>= nextOther).toOption := by
  cases first with
  | error =>
      cases other with
      | error => rfl
      | ok => cases same
  | ok value =>
      cases other with
      | error => cases same
      | ok otherValue =>
          obtain rfl : value = otherValue := Option.some.inj same
          exact sameNext value

theorem exists_first {members : List α} {sound : α → Prop}
    (fault : ∃ member ∈ members, ¬ sound member) :
    ∃ before first after, members = before ++ first :: after ∧
      (∀ member ∈ before, sound member) ∧ ¬ sound first := by
  induction members with
  | nil => simp at fault
  | cons head rest ih =>
      by_cases soundHead : sound head
      · have faultRest : ∃ member ∈ rest, ¬ sound member := by
          simpa [soundHead] using fault
        obtain ⟨before, first, after, rfl, earlier, unsound⟩ := ih faultRest
        exact ⟨head :: before, first, after, rfl, by simpa [soundHead] using earlier, unsound⟩
      · exact ⟨[], head, rest, rfl, by simp, soundHead⟩

end FlowLogic.Outcome
