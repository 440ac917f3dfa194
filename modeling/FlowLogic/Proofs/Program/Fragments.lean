import FlowLogic.Proofs.Json.Numbers
import FlowLogic.Proofs.Program.Readability

/-!
Fragments read back from the text they are written as.  A term is read off the start of a text
whatever follows it, as long as that ends a word; terms with points between them are read one after
another.  What is read from any source text can be written that way, so reading what was written of a
fragment gives the fragment again.
-/

namespace FlowLogic

open Text (isBlank trimStart trimEnd trim StopsAt stopsAt_cons stopsAt_nil takeWhile_run
  dropWhile_run)

namespace Node.Fragment

open Text (Framed)

/-- A term that source text can stand for: a text, a truth value, `null`, a number that its own text
means, such as an integer of the signed 64-bit range, or a lookup below `data`. -/
inductive Term.Writable : Term → Prop
  | text (value : String) : Writable (.literal (.str value))
  | truth (value : Bool) : Writable (.literal (.bool value))
  | null : Writable (.literal .null)
  | number {n : JsonNumber} (exact : n.Exact) : Writable (.literal (.num n))
  | lookup {path : List String} (named : path ≠ []) : Writable (.lookup path)

def written (terms : List Term) : String :=
  Text.joinTexts " . " (terms.map fun term => term.node.code)

theorem readQuoted?_escapes (text : String) (rest : List Char) :
    ∃ body, quotedChars text ++ rest = '\'' :: body ∧
      readQuoted? '\'' body = some (text.toList, rest) :=
  ⟨text.toList.flatMap escapeQuoted ++ ['\''] ++ rest, by simp [quotedChars],
    closes_quotedChars text.toList rest⟩

theorem readString?_quotedChars (text : String) (rest : List Char) :
    readString? (quotedChars text ++ rest) = some (text, rest) := by
  obtain ⟨body, starts, read⟩ := readQuoted?_escapes text rest
  have quote : isQuote '\'' = true := rfl
  simp only [starts, readString?, if_pos quote, read, Option.map_some, String.ofList_toList]

theorem readTerm?_quotedChars (text : String) (rest : List Char) :
    readTerm? (quotedChars text ++ rest) = some (.literal (.str text), rest) := by
  obtain ⟨body, starts, read⟩ := readQuoted?_escapes text rest
  have quote : isQuote '\'' = true := rfl
  rw [starts, readTerm?, Text.trimStart_of_stopsAt (stopsAt_cons.mpr rfl)]
  simp only [if_pos quote, read, Option.map_some, String.ofList_toList]

theorem trimStart_quotedChars (text : String) (rest : List Char) :
    trimStart (quotedChars text ++ rest) = quotedChars text ++ rest :=
  Text.trimStart_of_stopsAt (stopsAt_cons.mpr rfl)

theorem readSegments?_bracketed {path : List String} {rest : List Char} {fuel : Nat}
    (enough : path.length ≤ fuel) (stops : StopsAt (· == '[') rest) :
    readSegments? fuel (path.flatMap bracketed ++ rest) = some (path, rest) := by
  induction path generalizing fuel with
  | nil =>
      cases fuel with
      | zero => rfl
      | succ fuel =>
          rw [List.flatMap_nil, List.nil_append]
          cases rest with
          | nil => rfl
          | cons c rest =>
              have apart : c ≠ '[' := by simpa using stops
              simp [readSegments?, apart]
  | cons segment path ih =>
      cases fuel with
      | zero => simp at enough
      | succ fuel =>
          have later := ih (Nat.le_of_succ_le_succ enough)
          have bracket : trimStart (']' :: (path.flatMap bracketed ++ rest)) =
              ']' :: (path.flatMap bracketed ++ rest) :=
            Text.trimStart_of_stopsAt (stopsAt_cons.mpr rfl)
          have text : (segment :: path).flatMap bracketed ++ rest =
              '[' :: (quotedChars segment ++ ']' :: (path.flatMap bracketed ++ rest)) := by
            simp [bracketed]
          rw [text, readSegments?, trimStart_quotedChars, readString?_quotedChars]
          simp [bracket, later]

theorem isWordPart_of_isNamePart {c : Char} (part : isNamePart c = true) : isWordPart c = true := by
  simp only [isNamePart, Bool.and_eq_true] at part
  simpa [isWordPart] using part.1

theorem stopsAt_bracket {rest : List Char} (stops : StopsAt isWordPart rest) :
    StopsAt (· == '[') rest := by
  intro c first
  have apart := stops c first
  rw [beq_eq_false_iff_ne]
  rintro rfl
  cases apart

theorem readTerm?_word {word rest : List Char} {value : Json}
    (means : wordValue? word = some value) (stops : StopsAt isWordPart rest) :
    readTerm? (word ++ rest) = some (.literal value, rest) := by
  have parts := isNamePart_of_wordValue? means
  have within : ∀ c ∈ word, isWordPart c = true :=
    fun c member => isWordPart_of_isNamePart (parts c member)
  have taken := takeWhile_run within stops
  have dropped := dropWhile_run within stops
  have noLookup : "data[".toList.isPrefixOf (word ++ rest) = false := by
    rw [Bool.eq_false_iff]
    intro start
    obtain ⟨tail, same⟩ := List.isPrefixOf_iff_prefix.mp start
    have bracket : '[' ∈ (word ++ rest).takeWhile isWordPart := by
      rw [← same]
      simp [isWordPart, isBlank, isQuote]
    rw [taken] at bracket
    cases parts _ bracket
  cases word with
  | nil => cases means
  | cons c word =>
      have first := parts c List.mem_cons_self
      have visible : isBlank c = false := isBlank_of_isNamePart first
      have noQuote : isQuote c = false := by
        simp only [isNamePart, Bool.and_eq_true, Bool.not_eq_true'] at first
        exact first.1.2
      rw [readTerm?, Text.trimStart_of_stopsAt (by simpa using visible)]
      rw [List.cons_append] at taken dropped noLookup
      simp only [List.cons_append, noQuote, noLookup, Bool.false_eq_true, if_false, taken, dropped,
        means, Option.map_some]

theorem lookup_text {segment : String} {path : List String} (rest : List Char) :
    (Node.lookup (segment :: path)).chars ++ rest =
      'd' :: 'a' :: 't' :: 'a' :: ((segment :: path).flatMap bracketed ++ rest) := rfl

theorem length_le_flatMap_bracketed (path : List String) :
    path.length ≤ (path.flatMap bracketed).length := by
  induction path with
  | nil => exact Nat.le_refl 0
  | cons segment path ih =>
      rw [List.flatMap_cons, List.length_append, List.length_cons, Nat.add_comm]
      exact Nat.add_le_add (by simp [bracketed]) ih

theorem readTerm?_lookup {path : List String} {rest : List Char} (named : path ≠ [])
    (stops : StopsAt isWordPart rest) :
    readTerm? ((Node.lookup path).chars ++ rest) = some (.lookup path, rest) := by
  cases path with
  | nil => exact absurd rfl named
  | cons segment path =>
      have enough : (segment :: path).length ≤
          ('a' :: 't' :: 'a' :: ((segment :: path).flatMap bracketed ++ rest)).length := by
        have segments := length_le_flatMap_bracketed (segment :: path)
        simp only [List.length_cons, List.length_append] at segments ⊢
        omega
      have read := readSegments?_bracketed enough (stopsAt_bracket stops)
      have noQuote : isQuote 'd' = false := rfl
      have start : "data[".toList.isPrefixOf
          ('d' :: 'a' :: 't' :: 'a' :: ((segment :: path).flatMap bracketed ++ rest)) = true := rfl
      rw [lookup_text, readTerm?, Text.trimStart_of_stopsAt (stopsAt_cons.mpr rfl)]
      simp only [noQuote, start, if_true, Bool.false_eq_true, if_false]
      rw [List.drop_succ_cons, List.drop_succ_cons, List.drop_succ_cons, List.drop_zero, read,
        Option.map_some]

theorem Term.Writable.written_as {term : Term} (writable : term.Writable) :
    (∃ path, path ≠ [] ∧ term = .lookup path) ∨ (∃ text, term = .literal (.str text)) ∨
      ∃ value, term = .literal value ∧ wordValue? (literalChars value) = some value := by
  cases writable with
  | text value => exact .inr (.inl ⟨value, rfl⟩)
  | truth value => exact .inr (.inr ⟨.bool value, rfl, by cases value <;> rfl⟩)
  | null => exact .inr (.inr ⟨.null, rfl, rfl⟩)
  | number exact => exact .inr (.inr ⟨_, rfl, wordValue?_of_readNumber? exact.readNumber?⟩)
  | lookup named => exact .inl ⟨_, named, rfl⟩

theorem Term.Writable.readTerm? {term : Term} (writable : term.Writable) {rest : List Char}
    (stops : StopsAt isWordPart rest) :
    readTerm? (term.node.chars ++ rest) = some (term, rest) := by
  obtain ⟨path, named, rfl⟩ | ⟨text, rfl⟩ | ⟨value, rfl, means⟩ := writable.written_as
  · exact readTerm?_lookup named stops
  · exact readTerm?_quotedChars text rest
  · exact readTerm?_word means stops

theorem framed_quotedChars (text : String) : Framed (quotedChars text) := by
  have quote : Framed ['\''] := Text.framed_of_visible (by simp) (by simp [isBlank])
  exact quote.append quote (text.toList.flatMap escapeQuoted)

theorem framed_bracketed (segment : String) : Framed (bracketed segment) := by
  have opens : Framed ['['] := Text.framed_of_visible (by simp) (by simp [isBlank])
  have closes : Framed [']'] := Text.framed_of_visible (by simp) (by simp [isBlank])
  exact opens.append closes (quotedChars segment)

theorem framed_lookup {path : List String} (named : path ≠ []) :
    Framed (Node.lookup path).chars := by
  have starts : Framed "data".toList := Text.framed_of_visible (by simp) (by simp [isBlank])
  obtain rfl | ⟨outer, last, rfl⟩ := List.eq_nil_or_concat' path
  · exact absurd rfl named
  · rw [lookup_chars, List.flatMap_append, List.flatMap_singleton]
    exact starts.append (framed_bracketed last) (outer.flatMap bracketed)

theorem framed_word {word : List Char} {value : Json} (means : wordValue? word = some value) :
    Framed word := by
  refine Text.framed_of_visible ?_ fun c member =>
    isBlank_of_isNamePart (isNamePart_of_wordValue? means c member)
  rintro rfl
  cases means

theorem Term.Writable.framed {term : Term} (writable : term.Writable) :
    Framed term.node.chars := by
  obtain ⟨path, named, rfl⟩ | ⟨text, rfl⟩ | ⟨value, rfl, means⟩ := writable.written_as
  · exact framed_lookup named
  · exact framed_quotedChars text
  · exact framed_word means

theorem readTerms?_blank (fuel : Nat) (cs : List Char) :
    readTerms? fuel (' ' :: cs) = readTerms? fuel cs := by
  have skip : trimStart (' ' :: cs) = trimStart cs := List.dropWhile_cons_of_pos rfl
  cases fuel with
  | zero => rfl
  | succ fuel => rw [readTerms?, readTerms?, readTerm?, readTerm?, skip]

theorem readTerms?_join {terms : List Term} {fuel : Nat} (several : terms ≠ [])
    (enough : terms.length ≤ fuel) (writable : ∀ term ∈ terms, term.Writable) :
    readTerms? fuel (Text.join " . ".toList (terms.map fun term => term.node.chars)) =
      some terms := by
  induction terms generalizing fuel with
  | nil => exact absurd rfl several
  | cons term rest ih =>
      rw [List.forall_mem_cons] at writable
      cases fuel with
      | zero => simp at enough
      | succ fuel =>
          cases rest with
          | nil =>
              have read := writable.1.readTerm? (stopsAt_nil _)
              rw [List.append_nil] at read
              simp [Text.join, readTerms?, read, trimStart]
          | cons next rest =>
              have later := ih (List.cons_ne_nil _ _) (Nat.le_of_succ_le_succ enough) writable.2
              generalize tail : Text.join " . ".toList
                ((next :: rest).map fun term => term.node.chars) = behind at later
              have text : Text.join " . ".toList
                  ((term :: next :: rest).map fun term => term.node.chars) =
                  term.node.chars ++ ' ' :: '.' :: ' ' :: behind := by
                rw [← tail]
                simp [Text.join]
              -- White space before the point keeps it out of a numeral that it follows.
              have ends : StopsAt isWordPart (' ' :: '.' :: ' ' :: behind) := stopsAt_cons.mpr rfl
              have read := writable.1.readTerm? ends
              have point : trimStart (' ' :: '.' :: ' ' :: behind) = '.' :: ' ' :: behind := rfl
              rw [text, readTerms?, read]
              simp [point, readTerms?_blank, later]

theorem toList_written (terms : List Term) :
    (written terms).toList = Text.join " . ".toList (terms.map fun term => term.node.chars) := by
  have texts : (String.toList ∘ fun term : Term => term.node.code) =
      fun term => term.node.chars := by
    funext term
    exact String.toList_ofList
  rw [written, Text.joinTexts, String.toList_ofList, List.map_map, texts]

theorem length_le_join {separator : List Char} {pieces : List (List Char)}
    (filled : ∀ piece ∈ pieces, piece ≠ []) :
    pieces.length ≤ (Text.join separator pieces).length := by
  induction pieces with
  | nil => exact Nat.le_refl 0
  | cons piece rest ih =>
      rw [List.forall_mem_cons] at filled
      have long : 1 ≤ piece.length := List.length_pos_iff.mpr filled.1
      have later := ih filled.2
      cases rest with
      | nil => simpa [Text.join] using long
      | cons next rest =>
          simp only [Text.join, List.length_append, List.length_cons] at later ⊢
          omega

theorem read?_written {terms : List Term} (several : terms ≠ [])
    (writable : ∀ term ∈ terms, term.Writable) : read? (written terms) = some terms := by
  have framed : ∀ piece ∈ terms.map fun term => term.node.chars, Framed piece := by
    intro piece member
    obtain ⟨term, inTerms, rfl⟩ := List.mem_map.mp member
    exact (writable term inTerms).framed
  have whole : Framed (written terms).toList := by
    rw [toList_written]
    exact Framed.join (by simpa using several) framed
  have enough : terms.length ≤ (written terms).toList.length := by
    have pieces : (terms.map fun term => term.node.chars).length ≤
        (Text.join " . ".toList (terms.map fun term => term.node.chars)).length :=
      length_le_join fun piece member => (framed piece member).filled
    rwa [List.length_map, ← toList_written] at pieces
  simp only [read?, whole.trim_eq]
  rw [toList_written] at enough ⊢
  exact readTerms?_join several enough writable

theorem readSegments?_ne_nil {fuel : Nat} {cs rest : List Char} {path : List String}
    (read : readSegments? (fuel + 1) ('[' :: cs) = some (path, rest)) : path ≠ [] := by
  simp only [readSegments?, Option.bind_eq_bind, Option.bind_eq_some_iff] at read
  obtain ⟨⟨segment, afterSegment⟩, _, read⟩ := read
  split at read
  next =>
    obtain ⟨⟨segments, afterAll⟩, _, same⟩ := Option.bind_eq_some_iff.mp read
    cases same
    exact List.cons_ne_nil _ _
  next => cases read

theorem writable_of_wordValue? {word : List Char} {value : Json}
    (means : wordValue? word = some value) : Term.Writable (.literal value) := by
  unfold wordValue? at means
  split at means
  next => cases means; exact .truth true
  next => cases means; exact .truth false
  next => cases means; exact .null
  next =>
    obtain ⟨numeral, _, ⟨n, rfl, exact⟩ | ⟨rfl, _⟩⟩ := Json.readNumber?_cases means
    · exact .number exact
    · exact .null

theorem writable_of_readTerm? {cs rest : List Char} {term : Term}
    (read : readTerm? cs = some (term, rest)) : term.Writable := by
  unfold readTerm? at read
  split at read
  next => cases read
  next c behind _ =>
    split at read
    next =>
      obtain ⟨⟨text, _⟩, _, same⟩ := Option.map_eq_some_iff.mp read
      cases same
      exact .text _
    next =>
      split at read
      next start =>
        obtain ⟨⟨path, _⟩, segments, same⟩ := Option.map_eq_some_iff.mp read
        cases same
        obtain ⟨tail, text⟩ := List.isPrefixOf_iff_prefix.mp start
        obtain ⟨rfl, rfl⟩ : 'd' = c ∧ "ata[".toList ++ tail = behind := List.cons.inj text
        exact .lookup (readSegments?_ne_nil segments)
      next =>
        obtain ⟨value, means, same⟩ := Option.map_eq_some_iff.mp read
        cases same
        exact writable_of_wordValue? means

theorem writable_of_readTerms? {fuel : Nat} {cs : List Char} {terms : List Term}
    (read : readTerms? fuel cs = some terms) : ∀ term ∈ terms, term.Writable := by
  induction fuel generalizing cs terms with
  | zero => cases read
  | succ fuel ih =>
      simp only [readTerms?, Option.bind_eq_bind, Option.bind_eq_some_iff] at read
      obtain ⟨⟨term, rest⟩, readFirst, read⟩ := read
      have first := writable_of_readTerm? readFirst
      split at read
      next =>
        cases read
        simpa using first
      next =>
        obtain ⟨later, readLater, rfl⟩ := Option.map_eq_some_iff.mp read
        exact List.forall_mem_cons.mpr ⟨first, ih readLater⟩
      next => cases read

theorem code_concat (terms : List Term) :
    (Node.concat (terms.map Term.node)).code = written terms := by
  have whole : (Node.concat (terms.map Term.node)).chars =
      Text.join " . ".toList (charsAll (terms.map Term.node)) := rfl
  rw [← String.toList_inj, toList_written, code, String.toList_ofList, whole, charsAll_eq,
    List.map_map]
  rfl

theorem written_singleton (term : Term) : written [term] = term.node.code := by
  rw [← String.toList_inj, toList_written]
  exact String.toList_ofList.symm

end Node.Fragment

namespace Node

open Fragment

section

variable {terms : List Term} (writable : ∀ term ∈ terms, term.Writable)

include writable

theorem readFragment?_of_literal {value : Json} (alone : terms = [.literal value]) :
    readFragment? (written terms) = some (.raw (written terms) value) := by
  have read := read?_written (by simp [alone]) writable
  rw [readFragment?, read, alone]

theorem readFragment?_of_lookup {path : List String} (alone : terms = [.lookup path]) :
    readFragment? (written terms) = some (.lookup path) := by
  have read := read?_written (by simp [alone]) writable
  rw [readFragment?, read, alone]
  rfl

theorem readFragment?_of_several (several : 2 ≤ terms.length) :
    readFragment? (written terms) = some (.concat (terms.map Term.node)) := by
  have filled : terms ≠ [] := List.length_pos_iff.mp (by omega)
  have read := read?_written filled writable
  cases terms with
  | nil => exact absurd rfl filled
  | cons first rest =>
      cases rest with
      | nil => simp at several
      | cons second rest =>
          rw [readFragment?, read]
          cases first <;> rfl

end

/-- Writing terms with points between them and reading the text gives the terms: a constant alone
with its source text, a lookup alone as it is, and several of them appended.  What any source text is
read as is read from its own text again. -/
theorem readFragment?_written :
    (∀ terms : List Term, (∀ term ∈ terms, term.Writable) →
      (∀ value, terms = [.literal value] →
        readFragment? (written terms) = some (.raw (written terms) value)) ∧
      (∀ path, terms = [.lookup path] → readFragment? (written terms) = some (.lookup path)) ∧
      (2 ≤ terms.length →
        readFragment? (written terms) = some (.concat (terms.map Term.node)))) ∧
    ∀ source node, readFragment? source = some node → readFragment? node.code = some node := by
  refine ⟨fun terms writable => ⟨fun value => readFragment?_of_literal writable,
    fun path => readFragment?_of_lookup writable, readFragment?_of_several writable⟩, ?_⟩
  intro source node means
  have terms : ∀ terms, read? source = some terms → ∀ term ∈ terms, term.Writable :=
    fun terms read => writable_of_readTerms? read
  unfold readFragment? at means
  split at means
  next value read =>
    cases means
    have same : (raw source value).code = source := String.ofList_toList
    rw [same, readFragment?, read]
  next term noLiteral read =>
    cases means
    cases term with
    | literal value => exact absurd rfl (noLiteral value)
    | lookup path =>
        rw [← written_singleton]
        exact readFragment?_of_lookup (terms _ read) rfl
  next parts noLiteral noTerm read =>
    cases means
    have several : 2 ≤ parts.length := by
      match parts with
      | [] => exact absurd read (readTerms?_ne_nil _ _)
      | [term] => exact absurd rfl (noTerm term)
      | _ :: _ :: _ => simp
    rw [code_concat]
    exact readFragment?_of_several (terms _ read) several
  next => cases means

theorem readFragment?_written_around_quote :
    readFragment? "'it\\'s . ' . -7 . data['a.b']['']" =
        some (.concat [.literal (.str "it's . "), .literal (.num (.int (-7) (by decide))),
          .lookup ["a.b", ""]]) ∧
      readFragment? "data['a'] . 7" =
        some (.concat [.lookup ["a"], .literal (.num (.int 7 (by decide)))]) := by
  constructor
  · have writable : ∀ term ∈ [Term.literal (.str "it's . "),
        .literal (.num (.int (-7) (by decide))), .lookup ["a.b", ""]], term.Writable := by
      have negative : JsonNumber.Exact (.int (-7) (by decide)) :=
        (by decide : (-7 : Int) < 9223372036854775808)
      simpa using ⟨.text _, .number negative, .lookup (List.cons_ne_nil _ _)⟩
    have text : written [Term.literal (.str "it's . "), .literal (.num (.int (-7) (by decide))),
        .lookup ["a.b", ""]] = "'it\\'s . ' . -7 . data['a.b']['']" := by decide +kernel
    rw [← text]
    exact (readFragment?_written.1 _ writable).2.2 (by decide)
  · have means : readFragment? "  data[ \"a\" ].7" =
        some (.concat [.lookup ["a"], .literal (.num (.int 7 (by decide)))]) := by rfl
    exact readFragment?_written.2 _ _ means

end Node

end FlowLogic
