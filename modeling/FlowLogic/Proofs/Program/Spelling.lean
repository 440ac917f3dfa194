import FlowLogic.Code.Fragment
import FlowLogic.Proofs.Json.Text
import FlowLogic.Proofs.Text.Blanks

/-!
Source texts of constants.  A constant is spelled as white space, as a word, in quotes or as JSON;
calls and lookups are the other forms that a part of a source text can have.  The start of a text
tells which form it has, so that two constants with the same text, up to where the next part may
begin, have the same value.
-/

namespace FlowLogic

open Text (isBlank trimStart trimEnd trim StopsAt stopsAt_cons stopsAt_nil takeWhile_run
  dropWhile_run run_cancel)

namespace Node.Fragment

open Text (AllBlank)

def isNamePart (c : Char) : Bool :=
  !isBlank c && !isQuote c && !(['(', ')', '[', ']', '\x7b', '\x7d'].contains c)

theorem isNamePart_of_isScriptDigit {c : Char} (digit : Text.isScriptDigit c = true) :
    isNamePart c = true := by
  have each : ∀ first ∈ Text.scriptZeros, ∀ k < 10, isNamePart (Char.ofNat (first + k)) = true := by
    decide +kernel
  obtain ⟨first, member, inRange⟩ := List.any_eq_true.mp digit
  simp only [Bool.and_eq_true, decide_eq_true_eq] at inRange
  have found := each first member (c.toNat - first) (by omega)
  rwa [Nat.add_sub_cancel' inRange.1, Char.ofNat_toNat] at found

theorem readQuoted?_quote {q : Char} (noSlash : q ≠ '\\') (rest : List Char) :
    readQuoted? q (q :: rest) = some ([], rest) := by
  cases rest <;> simp [readQuoted?, noSlash]

theorem readQuoted?_plain {q c : Char} (noSlash : c ≠ '\\') (noQuote : c ≠ q) (rest : List Char) :
    readQuoted? q (c :: rest) = (readQuoted? q rest).map fun (text, rest) => (c :: text, rest) := by
  cases rest <;> simp [readQuoted?, noSlash, noQuote]

theorem isQuote_iff {c : Char} : isQuote c = true ↔ c = '\'' ∨ c = '"' := by simp [isQuote]

/-- The text up to the closing quote, with that quote, is read as the other text. -/
def Closes (q : Char) (body text : List Char) : Prop :=
  ∀ rest, readQuoted? q (body ++ rest) = some (text, rest)

theorem exists_closes {q : Char} {cs text rest : List Char}
    (read : readQuoted? q cs = some (text, rest)) :
    ∃ body, cs = body ++ rest ∧ Closes q body text := by
  fun_induction readQuoted? q cs generalizing text with
  | case1 => cases read
  | case2 c cs ih =>
      obtain ⟨⟨inner, _⟩, readRest, same⟩ := Option.map_eq_some_iff.mp read
      cases same
      obtain ⟨body, rfl, closes⟩ := ih readRest
      refine ⟨'\\' :: c :: body, rfl, fun more => ?_⟩
      simp [readQuoted?, closes more]
  | case3 => cases read
  | case4 cs notEscape noSlash =>
      cases read
      exact ⟨[_], rfl, readQuoted?_quote noSlash⟩
  | case5 c cs notEscape noSlash noQuote ih =>
      obtain ⟨⟨inner, _⟩, readRest, same⟩ := Option.map_eq_some_iff.mp read
      cases same
      obtain ⟨body, rfl, closes⟩ := ih readRest
      refine ⟨c :: body, rfl, fun more => ?_⟩
      rw [List.cons_append, readQuoted?_plain noSlash noQuote, closes more, Option.map_some]

theorem closes_quotedChars (text : List Char) :
    Closes '\'' (text.flatMap escapeQuoted ++ ['\'']) text := by
  intro rest
  induction text with
  | nil => exact readQuoted?_quote (by decide) rest
  | cons c text ih =>
      rw [List.append_assoc] at ih
      rw [List.flatMap_cons, List.append_assoc, List.append_assoc]
      by_cases special : c = '\\' ∨ c = '\''
      · rw [escapeQuoted, if_pos special, List.cons_append, List.singleton_append, readQuoted?, ih,
          Option.map_some]
      · obtain ⟨noSlash, noQuote⟩ := not_or.mp special
        rw [escapeQuoted, if_neg special, List.singleton_append, readQuoted?_plain noSlash noQuote,
          ih, Option.map_some]

theorem quotedChars_cancel {text other : String} {rest more : List Char}
    (same : quotedChars text ++ rest = quotedChars other ++ more) : text = other ∧ rest = more := by
  have bodies : text.toList.flatMap escapeQuoted ++ ['\''] ++ rest =
      other.toList.flatMap escapeQuoted ++ ['\''] ++ more := by
    simpa [quotedChars] using same
  have read := closes_quotedChars text.toList rest
  rw [bodies, closes_quotedChars other.toList more] at read
  simp only [Option.some.injEq, Prod.mk.injEq, String.toList_inj] at read
  exact ⟨read.1.symm, read.2.symm⟩

theorem bracketed_cancel {path other : List String} {rest more : List Char}
    (stops : StopsAt (· == '[') rest) (stopsMore : StopsAt (· == '[') more)
    (same : path.flatMap bracketed ++ rest = other.flatMap bracketed ++ more) :
    path = other ∧ rest = more := by
  induction path generalizing other with
  | nil =>
      cases other with
      | nil => exact ⟨rfl, same⟩
      | cons segment other =>
          rw [List.flatMap_nil, List.nil_append] at same
          subst same
          exact absurd (stopsAt_cons.mp stops) (by decide)
  | cons segment path ih =>
      cases other with
      | nil =>
          rw [List.flatMap_nil, List.nil_append] at same
          subst same
          exact absurd (stopsAt_cons.mp stopsMore) (by decide)
      | cons third other =>
          have texts : quotedChars segment ++ ']' :: (path.flatMap bracketed ++ rest) =
              quotedChars third ++ ']' :: (other.flatMap bracketed ++ more) := by
            simpa [bracketed] using same
          obtain ⟨rfl, tails⟩ := quotedChars_cancel texts
          obtain ⟨rfl, rests⟩ := ih (List.cons.inj tails).2
          exact ⟨rfl, rests⟩

theorem isNamePart_of_isLoosePart {c : Char} (part : Numeral.isLoosePart c = true) :
    isNamePart c = true := by
  rcases Bool.or_eq_true_iff.mp part with digit | sign
  · exact isNamePart_of_isScriptDigit digit
  · have each : ∀ d ∈ ['-', '+', '.', 'e', 'E'], isNamePart d = true := List.all_eq_true.mp rfl
    exact each c (List.contains_iff_mem.mp sign)

theorem isNamePart_of_wordValue? {word : List Char} {value : Json}
    (means : wordValue? word = some value) : ∀ c ∈ word, isNamePart c = true := by
  have named : ∀ name : String, String.ofList word = name →
      name.toList.all isNamePart = true → ∀ c ∈ word, isNamePart c = true := by
    rintro name rfl parts
    simpa using parts
  unfold wordValue? at means
  split at means
  next same => exact named _ same (by decide)
  next same => exact named _ same (by decide)
  next same => exact named _ same (by decide)
  next =>
    obtain ⟨n, read, _⟩ := Option.bind_eq_some_iff.mp means
    rw [String.toList_ofList] at read
    exact fun c member => isNamePart_of_isLoosePart (Numeral.isLoosePart_of_read? read c member)

inductive Form where
  | blank
  | word
  | quoted
  | compound
  | lookup
  | call
  deriving DecidableEq

inductive Spells : Form → List Char → Json → Prop
  | blank {text : List Char} (blank : AllBlank text) :
      Spells .blank text (.str (String.ofList text))
  | word {lead word trail : List Char} {value : Json} (blank : AllBlank lead)
      (blankTrail : AllBlank trail) (means : wordValue? word = some value) :
      Spells .word (lead ++ (word ++ trail)) value
  | quoted {lead body trail text : List Char} {q : Char} (blank : AllBlank lead)
      (blankTrail : AllBlank trail) (quote : isQuote q = true) (closes : Closes q body text) :
      Spells .quoted (lead ++ (q :: body ++ trail)) (.str (String.ofList text))
  | compound {value : Json} (nested : value.kind = .array ∨ value.kind = .object) :
      Spells .compound value.chars value

/-- A text that a part of a source text can be followed by: none, a closing parenthesis or the point
of an appending. -/
inductive Follows : List Char → Prop
  | nil : Follows []
  | close (rest : List Char) : Follows (')' :: rest)
  | point (rest : List Char) : Follows (" . ".toList ++ rest)

/-- The form of a part that is a run of name characters.  The point of an appending shows that white
space was all there was before it. -/
def wordForm (run : List Char) : Form :=
  if run = [] ∨ run = ['.'] then .blank else if run = "data".toList then .lookup else .word

def formOf (run : List Char) : List Char → Form
  | '(' :: _ => .call
  | '[' :: _ => if run = [] then .compound else .lookup
  | '\x7b' :: _ => .compound
  | '\'' :: _ | '"' :: _ => .quoted
  | _ => wordForm run

def formAt (text : List Char) : Form :=
  formOf ((trimStart text).takeWhile isNamePart) ((trimStart text).dropWhile isNamePart)

theorem isBlank_of_isNamePart {c : Char} (part : isNamePart c = true) : isBlank c = false := by
  simp only [isNamePart, Bool.and_eq_true, Bool.not_eq_true'] at part
  exact part.1.1

theorem formAt_eq (lead run tail : List Char) (blank : AllBlank lead)
    (parts : ∀ c ∈ run, isNamePart c = true) (stops : StopsAt isNamePart tail)
    (visible : run = [] → StopsAt isBlank tail) :
    formAt (lead ++ (run ++ tail)) = formOf run tail := by
  have starts : StopsAt isBlank (run ++ tail) := by
    cases run with
    | nil => exact visible rfl
    | cons c run => exact stopsAt_cons.mpr (isBlank_of_isNamePart (parts c List.mem_cons_self))
  rw [formAt, trimStart, dropWhile_run blank starts, takeWhile_run parts stops,
    dropWhile_run parts stops]

theorem formAt_mark (lead : List Char) {c : Char} (tail : List Char) (blank : AllBlank lead)
    (visible : isBlank c = false) (mark : isNamePart c = false) :
    formAt (lead ++ c :: tail) = formOf [] (c :: tail) :=
  formAt_eq lead [] (c :: tail) blank (by simp) (stopsAt_cons.mpr mark)
    fun _ => stopsAt_cons.mpr visible

theorem formAt_blank {text rest : List Char} (blank : AllBlank text) (follows : Follows rest) :
    formAt (text ++ rest) = .blank := by
  cases follows with
  | nil => exact formAt_eq text [] [] blank (by simp) (stopsAt_nil _) fun _ => stopsAt_nil _
  | close rest => exact formAt_mark text rest blank rfl rfl
  | point rest =>
      have space : AllBlank [' '] := by simp [AllBlank, isBlank]
      have found := formAt_eq (text ++ [' ']) ['.'] (' ' :: rest) (blank.append space)
        (List.all_eq_true.mp rfl) (stopsAt_cons.mpr rfl) (by simp)
      simpa [formOf, wordForm] using found

theorem stopsAt_trail {trail rest : List Char} (blank : AllBlank trail) (follows : Follows rest) :
    StopsAt isNamePart (trail ++ rest) := by
  cases trail with
  | nil =>
      cases follows with
      | nil => exact stopsAt_nil _
      | close rest => exact stopsAt_cons.mpr rfl
      | point rest => exact stopsAt_cons.mpr rfl
  | cons c trail =>
      have blank := blank c List.mem_cons_self
      exact stopsAt_cons.mpr (by simp [isNamePart, blank])

theorem formOf_word {trail rest : List Char} (run : List Char) (blank : AllBlank trail)
    (follows : Follows rest) :
    formOf run (trail ++ rest) = wordForm run := by
  cases trail with
  | nil => cases follows <;> rfl
  | cons c trail =>
      have blank := blank c List.mem_cons_self
      rw [List.cons_append]
      unfold formOf
      split
      all_goals
        first
          | rfl
          | next same =>
            cases same
            cases blank

theorem Spells.formAt {form : Form} {text rest : List Char} {value : Json}
    (spells : Spells form text value) (follows : Follows rest) : formAt (text ++ rest) = form := by
  cases spells with
  | blank blank => exact formAt_blank blank follows
  | @word lead word trail _ blank blankTrail means =>
      have filled : word ≠ [] := by
        rintro rfl
        cases means
      have found := formAt_eq lead word (trail ++ rest) blank (isNamePart_of_wordValue? means)
        (stopsAt_trail blankTrail follows) (fun empty => absurd empty filled)
      have point : word ≠ ['.'] := by
        rintro rfl
        cases means
      have named : word ≠ "data".toList := by
        rintro rfl
        cases means
      rw [formOf_word word blankTrail follows, wordForm, if_neg (not_or.mpr ⟨filled, point⟩),
        if_neg named] at found
      simpa using found
  | @quoted lead body trail text q blank blankTrail quote closes =>
      rw [List.append_assoc, List.append_assoc, List.cons_append]
      rcases isQuote_iff.mp quote with rfl | rfl
      · exact formAt_mark lead _ blank rfl rfl
      · exact formAt_mark lead _ blank rfl rfl
  | compound nested =>
      cases value with
      | arr => exact formAt_mark [] _ (by simp [AllBlank]) rfl rfl
      | obj => exact formAt_mark [] _ (by simp [AllBlank]) rfl rfl
      | null | bool | num | str => simp [Json.kind] at nested

theorem trail_cancel {trail other rest more : List Char} (blank : AllBlank trail)
    (blankOther : AllBlank other) (follows : Follows rest) (followsMore : Follows more)
    (same : trail ++ rest = other ++ more) : trail = other ∧ rest = more := by
  have visible : trimStart rest = trimStart more := by
    have trimmed := congrArg trimStart same
    rwa [trimStart, trimStart, List.dropWhile_append_of_pos blank,
      List.dropWhile_append_of_pos blankOther] at trimmed
  have rests : rest = more := by
    cases follows <;> cases followsMore <;> cases visible <;> rfl
  subst rests
  exact ⟨List.append_cancel_right same, rfl⟩

theorem Follows.stopsAt {rest : List Char} (follows : Follows rest) {inside : Char → Bool}
    (close : inside ')' = false) (space : inside ' ' = false) : StopsAt inside rest := by
  cases follows with
  | nil => exact stopsAt_nil _
  | close => exact stopsAt_cons.mpr close
  | point => exact stopsAt_cons.mpr space

theorem Spells.cancel {form : Form} {text other rest more : List Char} {value third : Json}
    (spells : Spells form text value) (spellsOther : Spells form other third)
    (follows : Follows rest) (followsMore : Follows more)
    (same : text ++ rest = other ++ more) : value = third ∧ rest = more := by
  cases spells with
  | blank blank =>
      cases spellsOther with
      | blank blankOther =>
          obtain ⟨rfl, rests⟩ := trail_cancel blank blankOther follows followsMore same
          exact ⟨rfl, rests⟩
  | @word lead word trail _ blank blankTrail means =>
      cases spellsOther with
      | @word lead' word' trail' _ blankOther blankTrailOther meansOther =>
          have starts : ∀ {word : List Char} {value : Json}, wordValue? word = some value →
              ∀ tail, StopsAt isBlank (word ++ tail) := by
            intro word value means tail
            cases word with
            | nil => cases means
            | cons c word =>
                exact stopsAt_cons.mpr (isBlank_of_isNamePart
                  (isNamePart_of_wordValue? means c List.mem_cons_self))
          simp only [List.append_assoc] at same
          obtain ⟨_, words⟩ :=
            run_cancel blank (starts means _) blankOther (starts meansOther _) same
          obtain ⟨rfl, trails⟩ := run_cancel (isNamePart_of_wordValue? means)
            (stopsAt_trail blankTrail follows) (isNamePart_of_wordValue? meansOther)
            (stopsAt_trail blankTrailOther followsMore) words
          obtain ⟨_, rests⟩ := trail_cancel blankTrail blankTrailOther follows followsMore trails
          cases means.symm.trans meansOther
          exact ⟨rfl, rests⟩
  | @quoted lead body trail inner q blank blankTrail quote closes =>
      cases spellsOther with
      | @quoted lead' body' trail' inner' q' blankOther blankTrailOther quoteOther closesOther =>
          have starts : ∀ {q : Char}, isQuote q = true → ∀ tail, StopsAt isBlank (q :: tail) := by
            intro q quote tail
            rcases isQuote_iff.mp quote with rfl | rfl <;> exact stopsAt_cons.mpr rfl
          simp only [List.append_assoc, List.cons_append] at same
          obtain ⟨_, quotes⟩ :=
            run_cancel blank (starts quote _) blankOther (starts quoteOther _) same
          obtain ⟨rfl, bodies⟩ := List.cons.inj quotes
          have read := closes (trail ++ rest)
          rw [bodies, closesOther (trail' ++ more)] at read
          obtain ⟨rfl, trails⟩ : inner' = inner ∧ trail' ++ more = trail ++ rest := by
            simpa using read
          obtain ⟨_, rests⟩ :=
            trail_cancel blankTrail blankTrailOther follows followsMore trails.symm
          exact ⟨rfl, rests⟩
  | compound nested =>
      cases spellsOther with
      | compound nestedOther =>
          exact Json.chars_cancel value third (follows.stopsAt rfl rfl)
            (followsMore.stopsAt rfl rfl) same

theorem wordValue?_of_readNumber? {word : List Char} {value : Json}
    (read : Json.readNumber? (String.ofList word) = some value) : wordValue? word = some value := by
  unfold wordValue?
  split
  next same =>
    rw [same] at read
    cases read
  next same =>
    rw [same] at read
    cases read
  next same =>
    rw [same] at read
    cases read
  next => exact read

theorem spells_literalChars {value : Json} (exact : ∀ n, value = .num n → n.Exact) :
    ∃ form, Spells form (literalChars value) value := by
  have none : AllBlank [] := by simp [AllBlank]
  have word : ∀ {word : List Char}, wordValue? word = some value → Spells .word word value := by
    intro word means
    simpa using Spells.word none none means
  cases value with
  | null => exact ⟨_, word rfl⟩
  | bool truth => cases truth <;> exact ⟨_, word rfl⟩
  | num n => exact ⟨_, word (wordValue?_of_readNumber? (exact n rfl).readNumber?)⟩
  | str text =>
      refine ⟨.quoted, ?_⟩
      have spelled := Spells.quoted none none (q := '\'') rfl (closes_quotedChars text.toList)
      simpa [literalChars, quotedChars] using spelled
  | arr items => exact ⟨_, .compound (.inl rfl)⟩
  | obj fields => exact ⟨_, .compound (.inr rfl)⟩

theorem exists_spells_of_readTerm? {cs rest : List Char} {value : Json}
    (read : readTerm? cs = some (.literal value, rest)) (blank : AllBlank rest) :
    ∃ form, ∀ lead trail, AllBlank lead → AllBlank trail →
      Spells form (lead ++ (cs ++ trail)) value := by
  obtain ⟨inner, blankInner, text, _⟩ := Text.exists_trimStart cs
  unfold readTerm? at read
  split at read
  next => cases read
  next first tail starts =>
    rw [starts] at text
    split at read
    next quote =>
      obtain ⟨⟨body, _⟩, readBody, same⟩ := Option.map_eq_some_iff.mp read
      cases same
      obtain ⟨written, rfl, closes⟩ := exists_closes readBody
      refine ⟨.quoted, fun lead trail blankLead blankTrail => ?_⟩
      have spelled :=
        Spells.quoted (blankLead.append blankInner) (blank.append blankTrail) quote closes
      rw [text]
      simpa using spelled
    next =>
      split at read
      next =>
        obtain ⟨_, _, same⟩ := Option.map_eq_some_iff.mp read
        cases same
      next =>
        obtain ⟨_, means, same⟩ := Option.map_eq_some_iff.mp read
        cases same
        refine ⟨.word, fun lead trail blankLead blankTrail => ?_⟩
        have spelled := Spells.word (blankLead.append blankInner) (blank.append blankTrail) means
        have parts : (first :: tail).takeWhile isWordPart ++ (first :: tail).dropWhile isWordPart =
            first :: tail := List.takeWhile_append_dropWhile
        rw [text, ← parts]
        simpa only [List.append_assoc] using spelled

theorem readTerms?_ne_nil (fuel : Nat) (cs : List Char) : readTerms? fuel cs ≠ some [] := by
  intro read
  cases fuel with
  | zero => cases read
  | succ fuel =>
      obtain ⟨⟨term, rest⟩, _, read⟩ := Option.bind_eq_some_iff.mp read
      dsimp only at read
      split at read
      next => cases read
      next =>
        obtain ⟨_, _, same⟩ := Option.map_eq_some_iff.mp read
        cases same
      next => cases read

theorem exists_spells_of_read? {source : String} {value : Json}
    (read : read? source = some [.literal value]) : ∃ form, Spells form source.toList value := by
  obtain ⟨lead, trail, blank, blankTrail, text⟩ := Text.exists_trim source.toList
  simp only [read?] at read
  rw [text]
  generalize trim source.toList = cs at *
  cases fuel : cs.length with
  | zero =>
      rw [fuel] at read
      cases read
  | succ fuel' =>
      rw [fuel] at read
      obtain ⟨⟨term, rest⟩, readFirst, read⟩ := Option.bind_eq_some_iff.mp read
      dsimp only at read
      split at read
      next ends =>
        cases read
        obtain ⟨form, spells⟩ :=
          exists_spells_of_readTerm? readFirst (Text.trimStart_eq_nil.mp ends)
        exact ⟨form, spells lead trail blank blankTrail⟩
      next =>
        obtain ⟨later, readLater, same⟩ := Option.map_eq_some_iff.mp read
        cases same
        exact absurd readLater (readTerms?_ne_nil _ _)
      next => cases read

end Node.Fragment

end FlowLogic
