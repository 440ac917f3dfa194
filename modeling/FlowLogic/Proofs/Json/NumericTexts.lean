import FlowLogic.Proofs.Json.Scalars
import FlowLogic.Proofs.Text.Blanks

/-!
Texts that are read as numbers: numerals in ASCII digits, with white space around them.  A text can
be read for its nearest float, or as a number of a document, which keeps integers whole; both lead
to the same number, and the text of a number leads back to it.
-/

namespace FlowLogic

namespace Binary64

theorem numEq_zero (negative : Bool) : (zero negative).numEq (zero false) = true := by
  rw [numEq_zero_iff]
  have representable : Representable 0 := ⟨Nat.dvd_zero _, limit_pos⟩
  exact ⟨⟨negative, 0, representable⟩,
    ofUnits_of_representable negative representable (roundUnits_of_tiny (by decide)), rfl⟩

end Binary64

namespace Numeral

open Binary64

variable {n : Numeral}

theorem hasValue_of_toInt? {value : Int} (whole : n.toInt? = some value) : n.hasValue = true := by
  unfold toInt? at whole
  split at whole
  · exact (Option.ite_none_right_eq_some.mp whole).1
  · cases whole

theorem numEq_ofInt {value : Int} (whole : n.toInt? = some value) :
    ∃ x, n.toBinary64? = some x ∧ x.numEq (Binary64.ofInt value) = true := by
  refine ⟨n.decimal.toBinary64, if_pos (hasValue_of_toInt? whole), ?_⟩
  obtain ⟨negative, digits, fraction, power⟩ := n
  match fraction, power with
  | none, none =>
      obtain ⟨_, rfl⟩ : _ ∧ (if negative then -(Decimal.digitsValue digits : Int)
          else Decimal.digitsValue digits) = value := by
        simpa only [toInt?, Option.ite_none_right_eq_some, Option.some.injEq] using whole
      have same : decimal ⟨negative, digits, none, none⟩ =
          ⟨negative, Decimal.digitsValue digits, 0⟩ := by simp [decimal]
      rw [same]
      generalize Decimal.digitsValue digits = size
      rcases Nat.eq_zero_or_pos size with rfl | positive
      · have zero : Binary64.ofInt (if negative then -((0 : Nat) : Int) else (0 : Nat)) =
            Binary64.ofInt 0 := by simp
        rw [zero, Decimal.toBinary64, if_pos rfl, numEq_comm]
        apply numEq_trans (numEq_ofInt_zero_iff.mpr rfl)
        rw [numEq_comm]
        exact numEq_zero negative
      · have signed : (⟨negative, size, 0⟩ : Decimal) =
            ⟨decide ((if negative then -(size : Int) else size) < 0),
              (if negative then -(size : Int) else size).natAbs, 0⟩ := by
          cases negative <;> simp [positive]
        rw [signed, Decimal.toBinary64_ofInt]
        exact numEq_self (ofUnits_ne_nan _ _ _)
  | some _, _ => cases whole
  | none, some _ => cases whole

end Numeral

namespace Json

/-- The text is a numeral between white space, and all of its digits are ASCII ones. -/
def IsNumericText (text : String) : Prop :=
  ∃ numeral, Numeral.read? (Text.trim text.toList) = some numeral ∧ numeral.hasValue = true

theorem toNumber?_str_eq_some {text : String} {x : Binary64} :
    (str text).toNumber? = some x ↔ ∃ numeral,
      Numeral.read? (Text.trimText text).toList = some numeral ∧ numeral.toBinary64? = some x := by
  simp [toNumber?, Text.trimText, Option.bind_eq_some_iff]

theorem exists_toNumber?_iff {text : String} :
    (∃ x, (str text).toNumber? = some x) ↔ IsNumericText text := by
  simp only [toNumber?_str_eq_some, IsNumericText, Text.trimText, String.toList_ofList]
  constructor
  · rintro ⟨x, numeral, read, means⟩
    exact ⟨numeral, read, (Option.ite_none_right_eq_some.mp means).1⟩
  · rintro ⟨numeral, read, valued⟩
    exact ⟨_, numeral, read, if_pos valued⟩

theorem exists_readNumber?_iff {text : String} :
    (∃ value, readNumber? (Text.trimText text) = some value) ↔ IsNumericText text := by
  constructor
  · rintro ⟨value, read⟩
    by_contra unread
    have valueless : ∀ numeral, Numeral.read? (Text.trimText text).toList = some numeral →
        numeral.hasValue = false := by
      intro numeral found
      rw [Text.trimText, String.toList_ofList] at found
      exact Bool.eq_false_iff.mpr fun valued => unread ⟨numeral, found, valued⟩
    rw [readNumber?_of_no_value valueless] at read
    cases read
  · rintro ⟨numeral, found, valued⟩
    have read : Numeral.read? (Text.trimText text).toList = some numeral := by
      rwa [Text.trimText, String.toList_ofList]
    have nearest : numeral.toBinary64? = some numeral.decimal.toBinary64 := if_pos valued
    by_cases inside : ∃ value, numeral.toInt? = some value ∧ -9223372036854775808 ≤ value ∧
        value < 9223372036854775808
    · obtain ⟨value, whole, low, high⟩ := inside
      obtain ⟨n, number, _⟩ := ofInt?_exact low high
      exact ⟨.num n, by rw [readNumber?_of_integer read whole low high, number]⟩
    · have outside : ∀ value, numeral.toInt? = some value →
          ¬ (-9223372036854775808 ≤ value ∧ value < 9223372036854775808) :=
        fun value whole range => inside ⟨value, whole, range⟩
      exact ⟨_, by rw [readNumber?_of_outside read outside, nearest, Option.map_some]⟩

theorem numEq_of_readNumber? {text : String} {n : JsonNumber}
    (number : readNumber? (Text.trimText text) = some (.num n)) :
    ∃ x, (str text).toNumber? = some x ∧ x.numEq n.toBinary64 = true := by
  obtain ⟨numeral, read, means⟩ := Option.bind_eq_some_iff.mp number
  have rounded : numeral.toBinary64?.map ofNumber = some (.num n) →
      ∃ x, (str text).toNumber? = some x ∧ x.numEq n.toBinary64 = true := by
    intro mapped
    obtain ⟨x, nearest, taken⟩ := Option.map_eq_some_iff.mp mapped
    refine ⟨x, toNumber?_str_eq_some.mpr ⟨numeral, read, nearest⟩, ?_⟩
    cases x with
    | finite x => exact numEq_ofNumber taken
    | nan | infinite => cases taken
  split at means
  next value whole =>
    split at means
    next range =>
      obtain ⟨x, nearest, equal⟩ := Numeral.numEq_ofInt whole
      refine ⟨x, toNumber?_str_eq_some.mpr ⟨numeral, read, nearest⟩, ?_⟩
      have inRange : -9223372036854775808 ≤ value ∧ value < 18446744073709551616 := by omega
      rw [ofInt?, dif_pos inRange] at means
      cases means
      exact equal
    next => exact rounded means
  next => exact rounded means

theorem exists_number_of_finite {text : String} {x : Finite64}
    (nearest : (str text).toNumber? = some (.finite x)) :
    ∃ n : JsonNumber, n.Exact ∧ readNumber? (Text.trimText text) = some (.num n) ∧
      n.toBinary64.numEq (.finite x) = true := by
  obtain ⟨value, read⟩ := exists_readNumber?_iff.mpr (exists_toNumber?_iff.mp ⟨_, nearest⟩)
  obtain ⟨numeral, found, means⟩ := toNumber?_str_eq_some.mp nearest
  obtain ⟨other, foundOther, ⟨n, rfl, exact⟩ | ⟨rfl, negative, large⟩⟩ := readNumber?_cases read
  · obtain ⟨y, nearestOther, equal⟩ := numEq_of_readNumber? read
    cases nearest.symm.trans nearestOther
    exact ⟨n, exact, read, by rwa [Binary64.numEq_comm]⟩
  · cases found.symm.trans foundOther
    cases means.symm.trans large

end Json

namespace JsonNumber

theorem trimText_asText (n : JsonNumber) :
    Text.trimText (Json.num n).asText = (Json.num n).asText := by
  obtain ⟨m, printed⟩ := n.exists_chars_eq
  have framed : Text.Framed m.chars := Text.framed_of_visible m.chars_ne_nil
    fun c member => Numeral.isBlank_of_isPart (m.isPart_of_mem c member)
  rw [Text.trimText, Json.asText, String.toList_ofList, Json.asChars, printed, framed.trim_eq]

theorem numEq_asText (n : JsonNumber) :
    ∃ x, (Json.str (Json.num n).asText).toNumber? = some x ∧ x.numEq n.toBinary64 = true := by
  obtain ⟨m, read, _, same⟩ := n.exists_readNumber?
  have number : Json.readNumber? (Text.trimText (Json.num n).asText) = some (.num m) := by
    rw [trimText_asText, Json.asText, Json.asChars, read]
  obtain ⟨x, nearest, equal⟩ := Json.numEq_of_readNumber? number
  obtain ⟨_, taken, sameNumber⟩ := Json.strictEq_num.mp same
  cases taken
  refine ⟨x, nearest, Binary64.numEq_trans equal ?_⟩
  rw [Binary64.numEq_comm]
  exact sameNumber

end JsonNumber

end FlowLogic
