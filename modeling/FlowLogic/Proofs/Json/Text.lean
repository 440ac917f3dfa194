import FlowLogic.Json.Reader
import FlowLogic.Json.Scalar
import FlowLogic.Proofs.Number.Numerals

/-!
The text of a value determines the value, whatever follows it.  Texts read back character by
character; numbers read back as numerals; arrays and objects follow from their items.
-/

namespace FlowLogic

namespace Json

open Text (TextPart charsOf? charsFrom? pairValue isLead isTrail)

/-- The part stands for the character whatever is around it. -/
inductive StandsFor : TextPart → Char → Prop
  | char (c : Char) : StandsFor (.char c) c
  | control (c : Char) (low : c.toNat < 0x20) : StandsFor (.unit c.toNat) c

theorem charsFrom?_cons {part : TextPart} {c : Char} (stands : StandsFor part c)
    (parts : List TextPart) :
    charsFrom? pairValue none (part :: parts) =
      (charsFrom? pairValue none parts).map (c :: ·) := by
  cases stands with
  | char => rfl
  | control low =>
      have noLead : isLead c.toNat = false := by
        simp [isLead]
        omega
      have noTrail : isTrail c.toNat = false := by
        simp [isTrail]
        omega
      simp [charsFrom?, noLead, noTrail]

theorem hexValue?_hexDigit : ∀ n < 16, Reader.hexValue? (Text.hexDigit n) = some n := by decide

theorem readParts?_skip (dropped more : List Char) :
    Reader.readParts? dropped.length (dropped ++ more) = Reader.readParts? 0 more := by
  induction dropped with
  | nil => rfl
  | cons c dropped ih => exact ih

theorem readEscape?_control {c : Char} (low : c.toNat < 0x20) (more : List Char) :
    Reader.readEscape?
        ('u' :: '0' :: '0' :: Text.hexDigit (c.toNat / 16) :: Text.hexDigit (c.toNat % 16) ::
          more) =
      some (.unit c.toNat, 5) := by
  have zero : Reader.hexValue? '0' = some 0 := rfl
  have high := hexValue?_hexDigit (c.toNat / 16) (by omega)
  have unit := hexValue?_hexDigit (c.toNat % 16) (by omega)
  have value : c.toNat / 16 * 16 + c.toNat % 16 = c.toNat := by omega
  simp [Reader.readEscape?, Reader.unit?, zero, high, unit, value]

theorem escapeChar_cases (c : Char) :
    (escapeChar c = [c] ∧ c ≠ '"' ∧ c ≠ '\\' ∧ ¬ c.toNat < 0x20) ∨
      ∃ tail part, escapeChar c = '\\' :: tail ∧ StandsFor part c ∧
        ∀ more, Reader.readEscape? (tail ++ more) = some (part, tail.length) := by
  unfold escapeChar
  split_ifs with quote slash line back tab bell feed low
  case neg => exact .inl ⟨rfl, quote, slash, low⟩
  any_goals
    subst c
    exact .inr ⟨_, _, rfl, .char _, fun _ => rfl⟩
  exact .inr ⟨_, _, rfl, .control c low, readEscape?_control low⟩

theorem readParts?_escapeChar (c : Char) (more : List Char) :
    ∃ part, StandsFor part c ∧
      Reader.readParts? 0 (escapeChar c ++ more) =
        (Reader.readParts? 0 more).map fun (parts, rest) => (part :: parts, rest) := by
  rcases escapeChar_cases c with
    ⟨plain, noQuote, noSlash, high⟩ | ⟨tail, part, escaped, stands, read⟩
  · refine ⟨.char c, .char c, ?_⟩
    rw [plain, List.singleton_append, Reader.readParts?, if_neg noQuote, if_neg noSlash,
      if_neg high]
  · refine ⟨part, stands, ?_⟩
    rw [escaped, List.cons_append, Reader.readParts?, if_neg (by decide), if_pos rfl, read more]
    simp only [readParts?_skip]

theorem readText?_escapes (text : String) (rest : List Char) :
    Reader.readText? (text.toList.flatMap escapeChar ++ '"' :: rest) = some (text, rest) := by
  have read : ∀ cs : List Char, ∃ parts, charsOf? pairValue parts = some cs ∧
      Reader.readParts? 0 (cs.flatMap escapeChar ++ '"' :: rest) = some (parts, rest) := by
    intro cs
    induction cs with
    | nil => exact ⟨[], rfl, rfl⟩
    | cons c cs ih =>
        obtain ⟨parts, chars, read⟩ := ih
        obtain ⟨part, stands, first⟩ :=
          readParts?_escapeChar c (cs.flatMap escapeChar ++ '"' :: rest)
        refine ⟨part :: parts, ?_, ?_⟩
        · unfold charsOf? at chars ⊢
          rw [charsFrom?_cons stands, chars, Option.map_some]
        · rw [List.flatMap_cons, List.append_assoc, first, read, Option.map_some]
  obtain ⟨parts, chars, read⟩ := read text.toList
  simp [Reader.readText?, read, chars]

theorem quotedChars_cancel {text other : String} {rest more : List Char}
    (same : quotedChars text ++ rest = quotedChars other ++ more) : text = other ∧ rest = more := by
  have bodies : text.toList.flatMap escapeChar ++ '"' :: rest =
      other.toList.flatMap escapeChar ++ '"' :: more := by
    simpa [quotedChars] using same
  have read := readText?_escapes text rest
  rw [bodies, readText?_escapes] at read
  cases read
  exact ⟨rfl, rfl⟩

end Json

namespace JsonNumber

/-- An integer is the value of a numeral without point and power, a float of any other that it is
nearest to. -/
def IsValueOf : JsonNumber → Numeral → Prop
  | int value _, numeral => numeral.toInt? = some value
  | float x, numeral => numeral.toInt? = none ∧ numeral.decimal.toBinary64 = .finite x

theorem IsValueOf.unique {n m : JsonNumber} {numeral : Numeral} (first : n.IsValueOf numeral)
    (second : m.IsValueOf numeral) : n = m := by
  cases n with
  | int value range =>
      have whole : numeral.toInt? = some value := first
      cases m with
      | int other rangeOther =>
          cases whole.symm.trans second
          rfl
      | float y => cases whole.symm.trans second.1
  | float x =>
      obtain ⟨broken, nearest⟩ := first
      cases m with
      | int other rangeOther => cases broken.symm.trans second
      | float y =>
          cases nearest.symm.trans second.2
          rfl

theorem exists_chars (n : JsonNumber) :
    ∃ numeral : Numeral, numeral.Plain ∧ numeral.chars = n.chars ∧ n.IsValueOf numeral := by
  cases n with
  | int value range =>
      exact ⟨.ofInt value, Numeral.ofInt_plain value, Numeral.chars_ofInt value,
        Numeral.toInt?_ofInt value⟩
  | float x =>
      obtain ⟨numeral, plain, broken, written, nearest⟩ := x.exists_chars
      exact ⟨numeral, plain, written, broken, nearest⟩

theorem chars_injective {n m : JsonNumber} (same : n.chars = m.chars) : n = m := by
  obtain ⟨numeral, plain, written, valued⟩ := n.exists_chars
  obtain ⟨other, plainOther, writtenOther, valuedOther⟩ := m.exists_chars
  have numerals : some numeral = some other := by
    rw [← plain.read?_chars, written, same, ← writtenOther, plainOther.read?_chars]
  cases numerals
  exact valued.unique valuedOther

theorem isPart_of_mem {n : JsonNumber} : ∀ c ∈ n.chars, Numeral.isPart c = true := by
  obtain ⟨numeral, plain, written, _⟩ := n.exists_chars
  exact written ▸ plain.isPart_of_mem

theorem chars_ne_nil (n : JsonNumber) : n.chars ≠ [] := by
  obtain ⟨numeral, plain, written, _⟩ := n.exists_chars
  rw [← written]
  simp [Numeral.chars, plain.filled]

/-- The number is the one that its text means where texts are read as numbers: an integer of the
signed range, or a float that is not written as an integer. -/
def Exact : JsonNumber → Prop
  | int value _ => value < 9223372036854775808
  | float x => x.collapsed? = none

theorem Exact.readNumber? {n : JsonNumber} (exact : n.Exact) :
    Json.readNumber? (String.ofList (Json.numberChars n)) = some (.num n) := by
  cases n with
  | int value range =>
      have read := (Numeral.ofInt_plain value).read?_chars
      have whole : Json.ofInt? value = some (.num (.int value range)) := dif_pos range
      have inRange : -9223372036854775808 ≤ value ∧ value < 9223372036854775808 := ⟨range.1, exact⟩
      rw [Json.readNumber?, String.toList_ofList, Json.numberChars, ← Numeral.chars_ofInt, read]
      simp only [Option.bind_some, Numeral.toInt?_ofInt, if_pos inRange, whole]
  | float x =>
      obtain ⟨numeral, plain, broken, written, nearest⟩ := x.exists_chars
      have whole : x.collapsed? = none := exact
      have read := plain.read?_chars
      rw [written] at read
      simp only [Json.readNumber?, String.toList_ofList, Json.numberChars, whole, read,
        Option.bind_some, broken, Numeral.toBinary64?, plain.hasValue, if_true, nearest,
        Option.map_some, Json.ofNumber]

end JsonNumber

namespace Json

open Text (StopsAt stopsAt_cons)

def kindAt : List Char → Option Kind
  | [] => none
  | c :: _ =>
    if Numeral.isPart c then some .number
    else [('n', Kind.null), ('t', .boolean), ('f', .boolean), ('"', .string), ('[', .array),
      ('{', .object)].lookup c

theorem kindAt_chars (v : Json) (rest : List Char) : kindAt (v.chars ++ rest) = some v.kind := by
  cases v with
  | null | str | arr | obj => rfl
  | bool value => cases value <;> rfl
  | num value =>
      have filled := value.chars_ne_nil
      have parts := value.isPart_of_mem
      rw [chars]
      generalize value.chars = text at *
      cases text with
      | nil => exact absurd rfl filled
      | cons c text => simp [kindAt, parts c List.mem_cons_self, kind]

theorem kind_eq_of_chars {v w : Json} {rest more : List Char}
    (same : v.chars ++ rest = w.chars ++ more) : v.kind = w.kind := by
  have kinds := kindAt_chars v rest
  rw [same, kindAt_chars] at kinds
  exact (Option.some.inj kinds).symm

/-- The items after the first one, each behind its comma, up to the bracket. -/
def laterItems (pieces : List (List Char)) (close : Char) (rest : List Char) : List Char :=
  pieces.flatMap (',' :: ·) ++ close :: rest

theorem stopsAt_laterItems (pieces : List (List Char)) {close : Char} (rest : List Char)
    (closes : Numeral.isPart close = false) :
    StopsAt Numeral.isPart (laterItems pieces close rest) := by
  cases pieces with
  | nil => exact stopsAt_cons.mpr closes
  | cons piece pieces => exact stopsAt_cons.mpr rfl

theorem commaSeparated_cons (item : List Char) (rest : List (List Char)) :
    commaSeparated (item :: rest) = item ++ rest.flatMap (',' :: ·) := by
  induction rest generalizing item with
  | nil => simp [commaSeparated]
  | cons next rest ih => simp [commaSeparated, ih]

def Headed (close : Char) (piece : List Char) : Prop := ∃ c ∈ piece.head?, c ≠ close

theorem laterItems_eq {pieces others : List (List Char)} {close : Char} {rest more : List Char}
    (headed : ∀ piece ∈ pieces, Headed close piece)
    (headedOthers : ∀ piece ∈ others, Headed close piece)
    (same : commaSeparated pieces ++ close :: rest = commaSeparated others ++ close :: more) :
    laterItems pieces close rest = laterItems others close more := by
  have apart : ∀ {piece : List Char}, Headed close piece →
      ∀ tail rest, piece ++ tail ≠ close :: rest := by
    rintro piece ⟨c, first, distinct⟩ tail rest same
    cases piece with
    | nil => cases first
    | cons d piece =>
        cases first
        exact distinct (List.cons.inj same).1
  cases pieces with
  | nil =>
      cases others with
      | nil => exact same
      | cons other others =>
          rw [commaSeparated_cons, List.append_assoc] at same
          exact absurd same.symm (apart (headedOthers other List.mem_cons_self) _ _)
  | cons piece pieces =>
      cases others with
      | nil =>
          rw [commaSeparated_cons, List.append_assoc] at same
          exact absurd same (apart (headed piece List.mem_cons_self) _ _)
      | cons other others =>
          rw [commaSeparated_cons, commaSeparated_cons] at same
          simpa [laterItems] using same

theorem headed_itemChars (items : List Json) : ∀ piece ∈ itemChars items, Headed ']' piece := by
  induction items with
  | nil => simp [itemChars]
  | cons item items ih =>
      rw [itemChars, List.forall_mem_cons]
      refine ⟨?_, ih⟩
      have kinds := kindAt_chars item []
      rw [List.append_nil] at kinds
      cases text : item.chars with
      | nil => simp [text, kindAt] at kinds
      | cons c text' =>
          refine ⟨c, rfl, ?_⟩
          rintro rfl
          rw [text] at kinds
          cases kinds

theorem headed_fieldChars (fields : List (String × Json)) :
    ∀ piece ∈ fieldChars fields, Headed '}' piece := by
  induction fields with
  | nil => simp [fieldChars]
  | cons field fields ih =>
      rw [fieldChars, List.forall_mem_cons]
      exact ⟨⟨'"', rfl, by decide⟩, ih⟩

mutual

/-- The text of a value determines the value. -/
theorem chars_cancel (v w : Json) {rest more : List Char} (stops : StopsAt Numeral.isPart rest)
    (stopsMore : StopsAt Numeral.isPart more) (same : v.chars ++ rest = w.chars ++ more) :
    v = w ∧ rest = more := by
  -- The first character tells the kind, so the other value is of the same kind in each case.
  have kinds := kind_eq_of_chars same
  cases v with
  | null =>
      cases w <;> cases kinds
      simpa [chars] using same
  | bool value =>
      cases w <;> cases kinds
      next other => cases value <;> cases other <;> simp_all [chars]
  | num value =>
      cases w <;> cases kinds
      next other =>
        obtain ⟨numbers, rests⟩ := Text.run_cancel value.isPart_of_mem stops other.isPart_of_mem
          stopsMore same
        exact ⟨congrArg num (JsonNumber.chars_injective numbers), rests⟩
  | str value =>
      cases w <;> cases kinds
      next other =>
        obtain ⟨rfl, rests⟩ := quotedChars_cancel same
        exact ⟨rfl, rests⟩
  | arr items =>
      cases w <;> cases kinds
      next others =>
        have lists : commaSeparated (itemChars items) ++ ']' :: rest =
            commaSeparated (itemChars others) ++ ']' :: more := by
          simpa [chars] using same
        obtain ⟨rfl, rests⟩ := items_cancel items others
          (laterItems_eq (headed_itemChars items) (headed_itemChars others) lists)
        exact ⟨rfl, rests⟩
  | obj fields =>
      cases w <;> cases kinds
      next others =>
        have lists : commaSeparated (fieldChars fields) ++ '}' :: rest =
            commaSeparated (fieldChars others) ++ '}' :: more := by
          simpa [chars] using same
        obtain ⟨rfl, rests⟩ := fields_cancel fields others
          (laterItems_eq (headed_fieldChars fields) (headed_fieldChars others) lists)
        exact ⟨rfl, rests⟩

theorem items_cancel (items others : List Json) {rest more : List Char}
    (same : laterItems (itemChars items) ']' rest = laterItems (itemChars others) ']' more) :
    items = others ∧ rest = more := by
  cases items with
  | nil =>
      cases others with
      | nil => simpa [laterItems, itemChars] using same
      | cons => simp [laterItems, itemChars] at same
  | cons item items =>
      cases others with
      | nil => simp [laterItems, itemChars] at same
      | cons other others =>
          have texts : item.chars ++ laterItems (itemChars items) ']' rest =
              other.chars ++ laterItems (itemChars others) ']' more := by
            simpa [laterItems, itemChars] using same
          obtain ⟨rfl, later⟩ := chars_cancel item other (stopsAt_laterItems _ _ rfl)
            (stopsAt_laterItems _ _ rfl) texts
          obtain ⟨rfl, rests⟩ := items_cancel items others later
          exact ⟨rfl, rests⟩

theorem fields_cancel (fields others : List (String × Json)) {rest more : List Char}
    (same : laterItems (fieldChars fields) '}' rest = laterItems (fieldChars others) '}' more) :
    fields = others ∧ rest = more := by
  cases fields with
  | nil =>
      cases others with
      | nil => simpa [laterItems, fieldChars] using same
      | cons => simp [laterItems, fieldChars] at same
  | cons field fields =>
      cases others with
      | nil => simp [laterItems, fieldChars] at same
      | cons other others =>
          obtain ⟨key, value⟩ := field
          obtain ⟨key', value'⟩ := other
          have texts : quotedChars key ++
                ':' :: (value.chars ++ laterItems (fieldChars fields) '}' rest) =
              quotedChars key' ++
                ':' :: (value'.chars ++ laterItems (fieldChars others) '}' more) := by
            simpa [laterItems, fieldChars] using same
          obtain ⟨rfl, values⟩ := quotedChars_cancel texts
          obtain ⟨rfl, later⟩ := chars_cancel value value' (stopsAt_laterItems _ _ rfl)
            (stopsAt_laterItems _ _ rfl) (List.cons.inj values).2
          obtain ⟨rfl, rests⟩ := fields_cancel fields others later
          exact ⟨rfl, rests⟩

end

end Json

end FlowLogic
