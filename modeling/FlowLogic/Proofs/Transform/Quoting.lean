import FlowLogic.Proofs.Program.Spelling
import FlowLogic.Proofs.Transform.Written

/-!
Quoted arguments.  The reader of a chain follows the quotes of every call to their end, so an argument
that opens with a quote has the closing one in it.  What stands between the two is the separator, and
text behind them is refused, as long as it does not end with a quote of the same kind itself.
-/

namespace FlowLogic

open Node.Fragment (isQuote isQuote_iff)
open Outcome
open Text (AllBlank isBlank)

namespace Chain

inductive Within (q : Char) : List Char → Prop
  | nil : Within q []
  | escape (c : Char) {text : List Char} (rest : Within q text) : Within q ('\\' :: c :: text)
  | plain {c : Char} {text : List Char} (noSlash : c ≠ '\\') (noQuote : c ≠ q)
      (rest : Within q text) : Within q (c :: text)

/-- The characters that can mean something to the reader outside of quotes. -/
def marks : List Char := ['\'', '"', '(', ')', '.']

theorem mem_marks_of_isQuote {q : Char} (quote : isQuote q = true) : q ∈ marks := by
  rcases isQuote_iff.mp quote with rfl | rfl <;> decide

theorem not_mem_marks {inside : Char → Bool} (outside : marks.any inside = false) {c : Char}
    (within : inside c = true) : c ∉ marks :=
  fun mark => List.any_eq_false.mp outside c mark within

theorem not_mem_marks_of_isBlank {c : Char} (blank : isBlank c = true) : c ∉ marks :=
  not_mem_marks rfl blank

theorem not_mem_marks_of_isNamePart {c : Char} (part : isNamePart c = true) : c ∉ marks :=
  not_mem_marks rfl part

namespace Cursor

variable {cursor last : Cursor} {cs ds : List Char} {q : Char}

theorem next_of_not_mem_marks {c : Char} (unquoted : cursor.quote = none) (ordinary : c ∉ marks) :
    cursor.next c = .ok (some cursor) := by
  simp only [marks, List.mem_cons, List.not_mem_nil, or_false, not_or] at ordinary
  simp [next, unquoted, ordinary]

theorem next_quote (unquoted : cursor.quote = none) (quote : isQuote q = true) :
    cursor.next q = .ok (some { cursor with quote := some q }) := by
  rw [isQuote_iff] at quote
  simp [next, unquoted, quote]

theorem next_eq_none {c : Char} (cuts : cursor.next c = .ok none) :
    cursor.quote = none ∧ cursor.depth = 0 := by
  unfold next at cuts
  split at cuts
  next => cases cuts
  next unquoted => grind

theorem Passes.step {after : Cursor} {c : Char} (passes : Passes cursor (c :: cs) last)
    (moves : cursor.next c = .ok (some after)) : Passes after cs last := by
  cases passes with
  | cons moved later =>
      rw [moves] at moved
      cases moved
      exact later

theorem Passes.of_no_mark (unquoted : cursor.quote = none) (ordinary : ∀ c ∈ cs, c ∉ marks)
    (passes : Passes cursor (cs ++ ds) last) : Passes cursor ds last := by
  induction cs with
  | nil => exact passes
  | cons c cs ih =>
      rw [List.forall_mem_cons] at ordinary
      exact ih ordinary.2 (passes.step (next_of_not_mem_marks unquoted ordinary.1))

theorem Passes.quote_of_not_mem (quoted : cursor.quote = some q) (absent : q ∉ cs)
    (passes : Passes cursor cs last) : last.quote = some q := by
  induction passes with
  | nil => exact quoted
  | cons moves _ ih =>
      rw [List.mem_cons, not_or] at absent
      refine ih ?_ absent.2
      simp only [next, quoted, Ne.symm absent.1, if_false, Except.ok.injEq, Option.some.injEq] at moves
      rw [← moves]
      split
      · rfl
      · split
        · rfl
        · exact quoted

/-- Quotes that are left somewhere are closed, in the part of the text that has their quote. -/
theorem Passes.exists_within {depth : Nat} (left : last.quote = none) (absent : q ∉ ds)
    (passes : Passes ⟨depth, some q, false⟩ (cs ++ ds) last) :
    ∃ body rest, Within q body ∧ cs = body ++ q :: rest := by
  have outside : last.quote ≠ some q := by simp [left]
  -- As `unescape` goes: a backslash takes two characters at once, so the reader is never found between.
  fun_induction unescape cs with
  | case1 c cs ih =>
      have later := (passes.step rfl).step rfl
      obtain ⟨body, rest, within, rfl⟩ := ih later
      exact ⟨'\\' :: c :: body, rest, within.escape c, rfl⟩
  | case2 =>
      have later := passes.step rfl
      exact absurd (later.quote_of_not_mem rfl absent) outside
  | case3 c cs notEscape notLast ih =>
      have noSlash : c ≠ '\\' := by
        intro slash
        cases cs with
        | nil => exact notLast slash rfl
        | cons d cs => exact notEscape d cs slash rfl
      by_cases closing : c = q
      · exact ⟨[], cs, .nil, by rw [closing, List.nil_append]⟩
      · have stays : next ⟨depth, some q, false⟩ c = .ok (some ⟨depth, some q, false⟩) := by
          simp [next, noSlash, closing]
        obtain ⟨body, rest, within, rfl⟩ := ih (passes.step stays)
        exact ⟨c :: body, rest, within.plain noSlash closing, rfl⟩
  | case4 => exact absurd (passes.quote_of_not_mem rfl absent) outside

end Cursor

variable {cursor : Cursor} {cs : List Char}

theorem passes_of_cutFrom {piece : List Char} {more : List (List Char)} (plain : cursor.Plain)
    (cut : cutFrom cursor cs = .ok (piece :: more)) :
    Cursor.Passes cursor piece .start ∧ ∀ other ∈ more, Cursor.Passes .start other .start := by
  induction cs generalizing cursor piece more with
  | nil =>
      obtain ⟨rfl, joined⟩ := plain.ends cut
      cases joined
      exact ⟨.nil _, by simp⟩
  | cons c cs ih =>
      rw [cutFrom_cons] at cut
      split at cut
      next => cases cut
      next after moves =>
        obtain ⟨others, cutRest, joined⟩ := map_eq_ok.mp cut
        cases others with
        | nil => exact absurd rfl (cutFrom_ne_nil cutRest)
        | cons first others =>
            cases joined
            obtain ⟨leads, lead⟩ := ih (plain.next moves) cutRest
            exact ⟨.cons moves leads, lead⟩
      next cuts =>
        obtain ⟨others, cutRest, joined⟩ := map_eq_ok.mp cut
        cases joined
        obtain ⟨unquoted, closed⟩ := Cursor.next_eq_none cuts
        obtain rfl := plain.eq_start unquoted closed
        cases more with
        | nil => exact absurd rfl (cutFrom_ne_nil cutRest)
        | cons first more =>
            obtain ⟨leads, lead⟩ := ih plain cutRest
            exact ⟨.nil _, List.forall_mem_cons.mpr ⟨leads, lead⟩⟩

theorem exists_of_readCall? {segment argument : List Char} {name : String}
    (called : readCall? segment = some (name, argument)) :
    ∃ lead gap, (∀ c ∈ lead, isNamePart c = true) ∧ AllBlank gap ∧
      segment = lead ++ (gap ++ '(' :: (argument ++ [')'])) := by
  have text := List.takeWhile_append_dropWhile (p := isNamePart) (l := segment)
  obtain ⟨gap, blank, spaced, _⟩ := Text.exists_trimStart (segment.dropWhile isNamePart)
  rw [readCall?] at called
  split at called
  next rest named opened =>
    split at called
    next closed =>
      cases called
      rw [Bool.and_eq_true, beq_iff_eq] at closed
      obtain ⟨argument, rfl⟩ := List.getLast?_eq_some_iff.mp closed.2
      refine ⟨segment.takeWhile isNamePart, gap, ?_, blank, ?_⟩
      · exact fun c mem => List.mem_takeWhile_imp mem
      · rw [List.dropLast_concat, ← opened, ← spaced, text]
    next => cases called
  next => cases called

theorem passes_of_segments {chain : List Char} {calls : List (List Char)}
    (cut : segments chain = .ok calls) :
    ∀ call ∈ calls, ∃ piece, Cursor.Passes .start piece .start ∧ Text.trim piece = call := by
  intro call mem
  obtain ⟨pieces, cutText, rfl⟩ := cutFrom_of_segments cut (List.ne_nil_of_mem mem)
  obtain ⟨piece, inPieces, rfl⟩ := List.mem_map.mp mem
  refine ⟨piece, ?_, rfl⟩
  cases pieces with
  | nil => cases inPieces
  | cons first more =>
      obtain ⟨leads, lead⟩ := passes_of_cutFrom Cursor.plain_start cutText
      rcases List.mem_cons.mp inPieces with rfl | inMore
      · exact leads
      · exact lead piece inMore

theorem exists_within_of_mem {chain segment argument rest : List Char} {name : String} {q : Char}
    {calls : List (List Char)} (cut : segments chain = .ok calls) (call : segment ∈ calls)
    (called : readCall? segment = some (name, argument))
    (opens : Text.trim argument = q :: rest) (quote : isQuote q = true) :
    ∃ body after, Within q body ∧ rest = body ++ q :: after := by
  obtain ⟨piece, passes, trimmed⟩ := passes_of_segments cut segment call
  obtain ⟨lead, trail, blank, blankTrail, framed⟩ := Text.exists_trim piece
  obtain ⟨name, gap, parts, blankGap, written⟩ := exists_of_readCall? called
  obtain ⟨leadIn, trailIn, blankIn, blankTrailIn, inside⟩ := Text.exists_trim argument
  have text : piece = (lead ++ (name ++ gap)) ++ '(' ::
      (leadIn ++ q :: (rest ++ (trailIn ++ ')' :: trail))) := by
    rw [framed, trimmed, written, inside, opens]
    simp
  rw [text] at passes
  have ordinary : ∀ c ∈ lead ++ (name ++ gap), c ∉ marks := by
    intro c mem
    rw [List.mem_append, List.mem_append] at mem
    rcases mem with mem | mem | mem
    · exact not_mem_marks_of_isBlank (blank c mem)
    · exact not_mem_marks_of_isNamePart (parts c mem)
    · exact not_mem_marks_of_isBlank (blankGap c mem)
  have atCall := (passes.of_no_mark rfl ordinary).step rfl
  have atQuote := (atCall.of_no_mark rfl fun c mem => not_mem_marks_of_isBlank (blankIn c mem)).step
    (Cursor.next_quote rfl quote)
  have absent : q ∉ trailIn ++ ')' :: trail := by
    intro mem
    rw [List.mem_append, List.mem_cons] at mem
    rcases mem with mem | rfl | mem
    · exact not_mem_marks_of_isBlank (blankTrailIn q mem) (mem_marks_of_isQuote quote)
    · cases quote
    · exact not_mem_marks_of_isBlank (blankTrail q mem) (mem_marks_of_isQuote quote)
  exact atQuote.exists_within rfl absent

theorem readArgument_of_quoted {argument body after : List Char} {q : Char}
    (opens : Text.trim argument = q :: (body ++ q :: after)) (quote : isQuote q = true)
    (honest : after.getLast? ≠ some q) :
    readArgument argument =
      if after = [] then .ok (some (String.ofList (unescape body))) else .error .textAfterString := by
  rw [isQuote_iff] at quote
  simp only [readArgument, opens, quote, if_true]
  cases after with
  | nil => simp
  | cons c after =>
      have last : (body ++ q :: c :: after).getLast? = (c :: after).getLast? := by
        rw [List.getLast?_append_of_ne_nil body (List.cons_ne_nil q _), List.getLast?_cons_cons]
      simp [last, honest]

theorem namedStep_argument {chain name text : String} {step : Transform}
    (named : namedStep chain name (some text) = .ok step) : step = .join text := by
  unfold namedStep at named
  split at named <;> cases named
  rfl

section

variable {chain : String} {before later : List (List Char)} {segment : List Char}

theorem exists_readStep {steps : Chain}
    (read : readSteps chain (before ++ segment :: later) = .ok steps) :
    ∃ step, readStep chain segment = .ok step ∧ steps[before.length]? = some step := by
  induction before generalizing steps with
  | nil =>
      obtain ⟨step, readFirst, read⟩ := bind_eq_ok.mp read
      obtain ⟨others, _, returned⟩ := bind_eq_ok.mp read
      cases returned
      exact ⟨step, readFirst, rfl⟩
  | cons first before ih =>
      obtain ⟨_, _, read⟩ := bind_eq_ok.mp read
      obtain ⟨others, readRest, returned⟩ := bind_eq_ok.mp read
      cases returned
      exact ih readRest

theorem readSteps_error {earlier : Chain} {failure : TransformError}
    (readEarlier : readSteps chain before = .ok earlier)
    (fails : readStep chain segment = .error failure) :
    readSteps chain (before ++ segment :: later) = .error failure := by
  induction before generalizing earlier with
  | nil => rw [List.nil_append, readSteps, fails, error_bind]
  | cons first before ih =>
      obtain ⟨step, readFirst, readEarlier⟩ := bind_eq_ok.mp readEarlier
      obtain ⟨others, readRest, _⟩ := bind_eq_ok.mp readEarlier
      rw [List.cons_append, readSteps, readFirst, ok_bind, ih readRest, error_bind]

theorem read_of_segments (cut : segments chain.toList = .ok (before ++ segment :: later)) :
    read chain = readSteps chain (before ++ segment :: later) := by
  rw [read, cut]
  cases before <;> rfl

end

/-- The quotes that open an argument are closed in it.  If what stands behind them does not end with
another quote of the kind, a chain that is read has nothing there, and the text between the quotes as
its separator; and any text there is refused. -/
theorem quoted_argument_closes {chain name : String} {before later : List (List Char)}
    {segment argument rest : List Char} {q : Char}
    (cut : segments chain.toList = .ok (before ++ segment :: later))
    (called : readCall? segment = some (name, argument))
    (opens : Text.trim argument = q :: rest) (quote : isQuote q = true) :
    (∃ body after, Within q body ∧ rest = body ++ q :: after) ∧
      ∀ body after, Within q body → rest = body ++ q :: after → after.getLast? ≠ some q →
        (∀ steps, read chain = .ok steps →
          after = [] ∧ steps[before.length]? = some (.join (String.ofList (unescape body)))) ∧
        (after ≠ [] →
          readStep chain segment = .error (.badChain chain .textAfterString) ∧
          ∀ earlier, readSteps chain before = .ok earlier →
            read chain = .error (.badChain chain .textAfterString)) := by
  have call : segment ∈ before ++ segment :: later := List.mem_append_cons_self
  refine ⟨exists_within_of_mem cut call called opens quote, ?_⟩
  rintro body after _ rfl honest
  have inside := readArgument_of_quoted opens quote honest
  rw [read_of_segments cut]
  constructor
  · intro steps readChain
    obtain ⟨step, readCall, stands⟩ := exists_readStep readChain
    simp only [readStep, called, inside] at readCall
    by_cases closed : after = []
    · simp only [closed, if_true] at readCall
      exact ⟨closed, namedStep_argument readCall ▸ stands⟩
    · simp only [closed, if_false] at readCall
      cases readCall
  · intro follows
    have fails : readStep chain segment = .error (.badChain chain .textAfterString) := by
      simp only [readStep, called, inside, if_neg follows]
    exact ⟨fails, fun earlier readEarlier => readSteps_error readEarlier fails⟩

theorem quoted_argument_closes_before_text :
    segments "toArray().join('a.b' c)".toList =
        .ok (["toArray()".toList] ++ "join('a.b' c)".toList :: []) ∧
      read "toArray().join('a.b' c)" =
        .error (.badChain "toArray().join('a.b' c)" .textAfterString) := by
  have cut : segments "toArray().join('a.b' c)".toList =
      .ok (["toArray()".toList] ++ "join('a.b' c)".toList :: []) := rfl
  have called : readCall? "join('a.b' c)".toList = some ("join", "'a.b' c".toList) := rfl
  have opens : Text.trim "'a.b' c".toList = '\'' :: "a.b' c".toList := rfl
  have within : Within '\'' "a.b".toList :=
    .plain (by decide) (by decide) (.plain (by decide) (by decide)
      (.plain (by decide) (by decide) .nil))
  obtain ⟨_, refuses⟩ := (quoted_argument_closes cut called opens rfl).2 "a.b".toList " c".toList
    within rfl (by decide)
  exact ⟨cut, (refuses (by decide)).2 [.toArray] rfl⟩

theorem second_string_joins_first :
    readCall? "join('a' 'b')".toList = some ("join", "'a' 'b'".toList) ∧
      Within '\'' "a".toList ∧ "'a' 'b'".toList = '\'' :: ("a".toList ++ '\'' :: " 'b'".toList) ∧
      read "join('a' 'b')" = .ok [.join "a' 'b"] :=
  ⟨rfl, .plain (by decide) (by decide) .nil, rfl, rfl⟩

end Chain

end FlowLogic
