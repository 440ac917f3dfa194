import FlowLogic.Definition.Coercion
import FlowLogic.Proofs.Json.Numbers

/-!
What conversion to a declared type gives.  A value of the type is kept as it is, and whatever else is
converted becomes one, so converting again changes nothing.  The one exception is a text with a
numeral that is too large for a number, which becomes `null`.
-/

namespace FlowLogic.DataType

/-- The values of a type.  Arrays and objects share theirs, and any value is an expression's. -/
def Describes : DataType → Json → Prop
  | .string, value => value.kind = .string
  | .number, value => value.kind = .number
  | .array, value | .object, value => value.kind = .array ∨ value.kind = .object
  | .boolean, value => value.kind = .boolean
  | .null, value => value.kind = .null
  | .expression, _ => True

/-- The value is a text with a numeral that is too large for a number, where a number is wanted. -/
def Overflows (expected : DataType) (given : Json) : Prop :=
  expected = .number ∧ ∃ text numeral, given = .str text ∧
    Numeral.read? (Text.trim text.toList) = some numeral ∧ numeral.TooLarge

variable {expected : DataType} {given result : Json}

theorem coerce_of_describes (described : expected.Describes given) :
    expected.coerce given = .ok given := by
  cases expected with
  | string | number | array | object | null =>
      cases given <;> simp [Describes, Json.kind] at described <;> rfl
  | boolean =>
      cases given <;> simp [Describes, Json.kind] at described
      next value => cases value <;> rfl
  | expression => rfl

theorem readNumber?_of_coerce {text : String}
    (converted : number.coerce (.str text) = .ok result) :
    Json.readNumber? (Text.trimText text) = some result := by
  simp only [coerce] at converted
  split at converted
  next read =>
    cases converted
    exact read
  next => cases converted

theorem describes_number_of_coerce (fits : ¬ number.Overflows given)
    (converted : number.coerce given = .ok result) : number.Describes result := by
  cases given with
  | num n =>
      cases converted
      rfl
  | str text =>
      obtain ⟨numeral, found, ⟨n, rfl, _⟩ | ⟨_, large⟩⟩ :=
        Json.readNumber?_cases (readNumber?_of_coerce converted)
      · rfl
      · exact absurd ⟨rfl, text, numeral, rfl, by simpa [Text.trimText] using found, large⟩ fits
  | null | bool | arr | obj => cases converted

theorem describes_of_coerce (fits : ¬ expected.Overflows given)
    (converted : expected.coerce given = .ok result) : expected.Describes result := by
  cases expected with
  | number => exact describes_number_of_coerce fits converted
  | string | array | object =>
      cases given <;> cases converted <;> simp [Describes, Json.kind]
  | boolean =>
      cases converted
      rfl
  | null =>
      cases given <;> cases converted <;> rfl
  | expression => trivial

theorem eq_null_of_overflows (large : expected.Overflows given)
    (converted : expected.coerce given = .ok result) : result = .null := by
  obtain ⟨rfl, text, numeral, rfl, found, large⟩ := large
  have trimmed : Numeral.read? (Text.trimText text).toList = some numeral := by
    simpa [Text.trimText] using found
  have read := Json.readNumber?_of_tooLarge trimmed large
  exact Option.some.inj ((readNumber?_of_coerce converted).symm.trans read)

/-- Conversion gives a value of the declared type, which an expression's leaves as it was, and
converting the result again gives it back.  Only a number that is too large is lost. -/
theorem coerce_delivers (converted : expected.coerce given = .ok result) :
    (¬ expected.Overflows given →
        expected.Describes result ∧ (expected = .expression → result = given) ∧
          expected.coerce result = .ok result) ∧
      (expected.Overflows given → result = .null) := by
  constructor
  · intro fits
    have described := describes_of_coerce fits converted
    refine ⟨described, ?_, coerce_of_describes described⟩
    rintro rfl
    cases converted
    rfl
  · intro large
    exact eq_null_of_overflows large converted

theorem coerce_delivers_padded_numeral :
    ∃ n, number.coerce (.str " +1.5e3 ") = .ok (.num n) ∧ ¬ number.Overflows (.str " +1.5e3 ") ∧
      number.Describes (.num n) ∧ number.coerce (.num n) = .ok (.num n) := by
  have kind : (number.coerce (.str " +1.5e3 ")).toOption.map Json.kind = some .number := by
    decide +kernel
  obtain ⟨n, converted⟩ : ∃ n, number.coerce (.str " +1.5e3 ") = .ok (.num n) := by
    match number.coerce (.str " +1.5e3 "), kind with
    | .ok (.num n), _ => exact ⟨n, rfl⟩
  have fits : ¬ number.Overflows (.str " +1.5e3 ") := by
    intro large
    cases eq_null_of_overflows large converted
  obtain ⟨described, _, again⟩ := (coerce_delivers converted).1 fits
  exact ⟨n, converted, fits, described, again⟩

theorem large_numeral_becomes_null :
    number.coerce (.str "1e999") = .ok .null ∧ ¬ number.Describes .null ∧
      number.coerce .null = .error ⟨.number, .null⟩ :=
  ⟨rfl, by simp [Describes, Json.kind], rfl⟩

end FlowLogic.DataType
