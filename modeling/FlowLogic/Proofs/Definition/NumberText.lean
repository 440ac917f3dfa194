import FlowLogic.Proofs.Definition.Coercion
import FlowLogic.Proofs.Json.NumericTexts

/-!
A number that is converted to a text, and the text back to a number.  The texts of integers are read
as integers up to the end of the signed range and as floats from there on, and a whole float is
written as an integer while it is small; across all of these limits the number stays the same.
-/

namespace FlowLogic

namespace DataType

theorem coerce_of_readNumber? {text : String} {value : Json}
    (read : Json.readNumber? (Text.trimText text) = some value) :
    number.coerce (.str text) = .ok value := by
  rw [coerce, read]

theorem exists_coerce_number_iff {text : String} :
    (∃ value, number.coerce (.str text) = .ok value) ↔ Json.IsNumericText text := by
  rw [← Json.exists_readNumber?_iff]
  exact exists_congr fun value => ⟨readNumber?_of_coerce, coerce_of_readNumber?⟩

end DataType

namespace JsonNumber

theorem isNumeric_asText (n : JsonNumber) : Json.isNumeric (Json.num n).asText = true := by
  obtain ⟨m, read, _⟩ := n.exists_readNumber?
  obtain ⟨numeral, written, _⟩ := Option.bind_eq_some_iff.mp read
  rw [Json.isNumeric, Json.asText, Json.asChars, written, Option.isSome_some]

theorem looseEq_asText (n : JsonNumber) :
    Json.looseEq (.num n) (.str (Json.num n).asText) = true := by
  obtain ⟨x, nearest, equal⟩ := n.numEq_asText
  have loose : Json.looseEq (.num n) (.str (Json.num n).asText) =
      Json.scalarEq (.num n) (.str (Json.num n).asText) := by
    rw [Json.looseEq] <;> simp
  rw [loose, Json.scalarEq, nearest]
  simp only [Json.toNumber?]
  rwa [Binary64.numEq_comm]

/-- Every number is converted to a text that is numeric and loosely equal to it, and that text to a
number strictly equal to the first one. -/
theorem coerced_to_text_and_back (n : JsonNumber) :
    ∃ text m, DataType.string.coerce (.num n) = .ok (.str text) ∧
      Json.isNumeric text = true ∧
      Json.looseEq (.num n) (.str text) = true ∧
      DataType.number.coerce (.str text) = .ok (.num m) ∧
      Json.strictEq (.num m) (.num n) = true := by
  obtain ⟨m, read, _, same⟩ := n.exists_readNumber?
  have back : DataType.number.coerce (.str (Json.num n).asText) = .ok (.num m) := by
    apply DataType.coerce_of_readNumber?
    rw [trimText_asText, Json.asText, Json.asChars, read]
  exact ⟨(Json.num n).asText, m, rfl, n.isNumeric_asText, n.looseEq_asText, back,
    (Json.strictEq_comm _ _).trans same⟩

end JsonNumber

end FlowLogic
