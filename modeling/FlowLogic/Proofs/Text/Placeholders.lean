import FlowLogic.Dict
import FlowLogic.Proofs.Text.Cuts

/-!
Names in braces and the texts for them.  A template is filled at once when every name in braces that
has a text is replaced by it, and all else stands as it is.  Filled one name after another it comes
out the same, unless a text that is put in makes a name in braces whose turn is still to come.
-/

namespace FlowLogic.Text

def placeholder (name : String) : List Char := '{' :: (name.toList ++ ['}'])

def IsPlain (name : String) : Prop := '{' ∉ name.toList ∧ '}' ∉ name.toList

instance (name : String) : Decidable (IsPlain name) := inferInstanceAs (Decidable (_ ∧ _))

def PlainNames (text? : String → Option String) : Prop :=
  ∀ name, (text? name).isSome → IsPlain name

def nameAt? : List Char → Option String
  | '{' :: rest =>
    if '}' ∈ rest then some (String.ofList (rest.takeWhile (· != '}'))) else none
  | _ => none

/-- Writes the text of every name in braces that has one; `skip` characters still belong to the last
of these. -/
def fillFrom (text? : String → Option String) : (skip : Nat) → List Char → List Char
  | _, [] => []
  | skip + 1, _ :: rest => fillFrom text? skip rest
  | 0, c :: rest =>
    match nameAt? (c :: rest) with
    | none => c :: fillFrom text? 0 rest
    | some name =>
      match text? name with
      | none => c :: fillFrom text? 0 rest
      | some text => text.toList ++ fillFrom text? (name.toList.length + 1) rest

/-- The template with the text of every name in braces that has one, all of them put in at once. -/
def fillAtOnce (text? : String → Option String) (template : List Char) : List Char :=
  fillFrom text? 0 template

def occurrences (pattern text : List Char) : Nat := text.tails.countP pattern.isPrefixOf

variable {text? : String → Option String} {name other text : String}
  {run front rest template pattern replacement : List Char} {c : Char}

theorem placeholder_append (name : String) (rest : List Char) :
    placeholder name ++ rest = '{' :: (name.toList ++ '}' :: rest) := by simp [placeholder]

theorem placeholder_ne_nil : placeholder name ≠ [] := List.cons_ne_nil _ _

theorem nameAt?_run (closed : '}' ∉ run) (rest : List Char) :
    nameAt? ('{' :: (run ++ '}' :: rest)) = some (String.ofList run) := by
  have within : ∀ c ∈ run, (c != '}') = true := by
    intro c member
    have distinct : c ≠ '}' := fun same => closed (same ▸ member)
    simpa using distinct
  have taken : (run ++ '}' :: rest).takeWhile (· != '}') = run := takeWhile_run within (by simp)
  simp [nameAt?, taken]

theorem nameAt?_eq_some :
    nameAt? template = some name ↔ '}' ∉ name.toList ∧ placeholder name <+: template := by
  constructor
  · intro found
    unfold nameAt? at found
    split at found
    next rest =>
      split at found
      next closing =>
        obtain ⟨run, more, rfl, free⟩ := List.eq_append_cons_of_mem closing
        have whole := nameAt?_run free more
        rw [nameAt?, if_pos closing] at whole
        cases whole.symm.trans found
        exact ⟨by simpa using free, more, by simp [placeholder]⟩
      next => cases found
    next => cases found
  · intro starts
    obtain ⟨closed, rest, rfl⟩ := starts
    rw [placeholder_append, nameAt?_run closed, String.ofList_toList]

theorem eq_of_placeholder_prefix (plain : IsPlain name) (plainOther : IsPlain other)
    (starts : placeholder name <+: template) (startsOther : placeholder other <+: template) :
    name = other := by
  have found := nameAt?_eq_some.mpr ⟨plain.2, starts⟩
  have foundOther := nameAt?_eq_some.mpr ⟨plainOther.2, startsOther⟩
  exact Option.some.inj (found.symm.trans foundOther)

theorem not_placeholder_prefix_of_ne (different : c ≠ '{') (rest : List Char) :
    ¬ placeholder name <+: c :: rest := by
  intro starts
  obtain ⟨more, same⟩ := starts
  exact different (List.cons.inj same).1.symm

theorem induction_on_placeholders (known : String → Prop) {motive : List Char → Prop}
    (nil : motive [])
    (found : ∀ name rest, known name → motive rest → motive (placeholder name ++ rest))
    (plain : ∀ c rest, (∀ name, known name → ¬ placeholder name <+: c :: rest) → motive rest →
      motive (c :: rest))
    (template : List Char) : motive template := by
  induction template using
    induction_on_passages (fun passage => ∃ name, known name ∧ passage = placeholder name) with
  | filled =>
      intro isPassage
      obtain ⟨name, _, empty⟩ := isPassage
      exact placeholder_ne_nil empty.symm
  | nil => exact nil
  | found passage rest isPassage ih =>
      obtain ⟨name, isKnown, rfl⟩ := isPassage
      exact found name rest isKnown ih
  | plain c rest apart ih =>
      exact plain c rest (fun name isKnown => apart _ ⟨name, isKnown, rfl⟩) ih

section Filling

@[simp] theorem fillAtOnce_nil : fillAtOnce text? [] = [] := rfl

theorem fillFrom_eq (skip : ℕ) (template : List Char) :
    fillFrom text? skip template = fillAtOnce text? (template.drop skip) := by
  induction skip generalizing template with
  | zero => rfl
  | succ skip ih =>
      cases template with
      | nil => rfl
      | cons c rest => exact ih rest

theorem fillAtOnce_placeholder (plain : IsPlain name) (known : text? name = some text)
    (rest : List Char) :
    fillAtOnce text? (placeholder name ++ rest) = text.toList ++ fillAtOnce text? rest := by
  have found := nameAt?_eq_some.mpr ⟨plain.2, List.prefix_append (placeholder name) rest⟩
  rw [placeholder_append] at found ⊢
  simp only [fillAtOnce, fillFrom, found, known]
  rw [fillFrom_eq]
  simp [fillAtOnce]

theorem fillAtOnce_cons
    (apart : ∀ name, (text? name).isSome → ¬ placeholder name <+: c :: rest) :
    fillAtOnce text? (c :: rest) = c :: fillAtOnce text? rest := by
  rw [fillAtOnce, fillFrom]
  split
  next => rfl
  next name found =>
    split
    next => rfl
    next text known =>
      have starts := (nameAt?_eq_some.mp found).2
      exact absurd starts (apart name (Option.isSome_of_eq_some known))

theorem fillAtOnce_cons_of_ne (different : c ≠ '{') (rest : List Char) :
    fillAtOnce text? (c :: rest) = c :: fillAtOnce text? rest :=
  fillAtOnce_cons fun _ _ => not_placeholder_prefix_of_ne different rest

theorem fillAtOnce_run (free : '{' ∉ run) (rest : List Char) :
    fillAtOnce text? (run ++ rest) = run ++ fillAtOnce text? rest := by
  induction run with
  | nil => rfl
  | cons c run ih =>
      rw [List.mem_cons, not_or] at free
      obtain ⟨different, free⟩ := free
      rw [List.cons_append, fillAtOnce_cons_of_ne (Ne.symm different), ih free, List.cons_append]

theorem fillAtOnce_unknown (plain : IsPlain name) (plainNames : PlainNames text?)
    (unknown : text? name = none) (rest : List Char) :
    fillAtOnce text? (placeholder name ++ rest) = placeholder name ++ fillAtOnce text? rest := by
  have apart : ∀ other, (text? other).isSome →
      ¬ placeholder other <+: placeholder name ++ rest := by
    intro other known starts
    have same := eq_of_placeholder_prefix (plainNames other known) plain starts
      (List.prefix_append _ _)
    rw [same, unknown] at known
    cases known
  have free : '{' ∉ name.toList ++ ['}'] := by simp [plain.1]
  rw [placeholder, List.cons_append] at apart ⊢
  rw [fillAtOnce_cons apart, fillAtOnce_run free, List.cons_append]

end Filling

section Counting

theorem occurrences_cons :
    occurrences pattern (c :: rest) =
      occurrences pattern rest + if pattern <+: c :: rest then 1 else 0 := by
  simp only [occurrences, List.tails_cons, List.countP_cons, List.isPrefixOf_iff_prefix]

theorem occurrences_cons_of_apart (apart : ¬ pattern <+: c :: rest) :
    occurrences pattern (c :: rest) = occurrences pattern rest := by
  rw [occurrences_cons, if_neg apart, Nat.add_zero]

theorem occurrences_le_append (front rest : List Char) :
    occurrences pattern rest ≤ occurrences pattern (front ++ rest) := by
  induction front with
  | nil => exact le_refl _
  | cons c front ih =>
      rw [List.cons_append, occurrences_cons]
      exact ih.trans (Nat.le_add_right _ _)

theorem occurrences_run (free : '{' ∉ run) (rest : List Char) :
    occurrences (placeholder name) (run ++ rest) = occurrences (placeholder name) rest := by
  induction run with
  | nil => rfl
  | cons c run ih =>
      rw [List.mem_cons, not_or] at free
      obtain ⟨different, free⟩ := free
      rw [List.cons_append,
        occurrences_cons_of_apart (not_placeholder_prefix_of_ne (Ne.symm different) _), ih free]

theorem occurrences_placeholder (plain : IsPlain name) (plainOther : IsPlain other)
    (rest : List Char) :
    occurrences (placeholder name) (placeholder other ++ rest) =
      occurrences (placeholder name) rest + if name = other then 1 else 0 := by
  have starts : placeholder name <+: placeholder other ++ rest ↔ name = other := by
    constructor
    · intro starts
      exact eq_of_placeholder_prefix plain plainOther starts (List.prefix_append _ _)
    · intro same
      exact same ▸ List.prefix_append _ _
  have free : '{' ∉ other.toList ++ ['}'] := by simp [plainOther.1]
  simp only [← starts]
  rw [placeholder.eq_def other, List.cons_append, occurrences_cons, occurrences_run free]

theorem replace_append_of_occurrences
    (none : occurrences pattern (front ++ rest) ≤ occurrences pattern rest) :
    replace pattern replacement (front ++ rest) = front ++ replace pattern replacement rest := by
  induction front with
  | nil => rfl
  | cons c front ih =>
      rw [List.cons_append, occurrences_cons] at none
      have least : occurrences pattern rest ≤ occurrences pattern (front ++ rest) :=
        occurrences_le_append front rest
      have apart : ¬ pattern <+: c :: (front ++ rest) := by
        intro starts
        rw [if_pos starts] at none
        omega
      rw [if_neg apart] at none
      rw [List.cons_append, replace_cons apart, ih none, List.cons_append]

end Counting

section Turns

variable {more? : String → Option String}

theorem occurrences_le_fillAtOnce (plain : IsPlain name) (plainNames : PlainNames text?)
    (unknown : text? name = none) (template : List Char) :
    occurrences (placeholder name) template ≤
      occurrences (placeholder name) (fillAtOnce text? template) := by
  -- The name itself is passed over as a whole, like those with a text, so that it starts nowhere else.
  induction template using
    induction_on_placeholders (fun other => other = name ∨ (text? other).isSome) with
  | nil => exact le_refl _
  | found other rest isKnown ih =>
      rcases isKnown with rfl | isKnown
      · rw [fillAtOnce_unknown plain plainNames unknown, occurrences_placeholder plain plain,
          occurrences_placeholder plain plain]
        exact Nat.add_le_add_right ih _
      · obtain ⟨text, known⟩ := Option.isSome_iff_exists.mp isKnown
        have different : name ≠ other := by
          intro same
          cases unknown.symm.trans (same ▸ known)
        rw [fillAtOnce_placeholder (plainNames other isKnown) known,
          occurrences_placeholder plain (plainNames other isKnown), if_neg different, Nat.add_zero]
        exact ih.trans (occurrences_le_append _ _)
  | plain c rest apart ih =>
      rw [occurrences_cons_of_apart (apart name (.inl rfl)),
        fillAtOnce_cons fun other known => apart other (.inr known)]
      exact ih.trans (occurrences_le_append [c] _)

/-- What stands before a filled text is not replaced if the whole has the name in braces no more
often than the template of that text. -/
theorem replace_append_fillAtOnce (plain : IsPlain name) (plainNames : PlainNames text?)
    (unknown : text? name = none) (front : List Char)
    (kept : occurrences (placeholder name) (front ++ fillAtOnce text? rest) ≤
      occurrences (placeholder name) rest) :
    replace (placeholder name) replacement (front ++ fillAtOnce text? rest) =
        front ++ replace (placeholder name) replacement (fillAtOnce text? rest) ∧
      occurrences (placeholder name) (fillAtOnce text? rest) ≤
        occurrences (placeholder name) rest := by
  constructor
  · apply replace_append_of_occurrences
    exact kept.trans (occurrences_le_fillAtOnce plain plainNames unknown rest)
  · exact (occurrences_le_append front _).trans kept

/-- One more name may have its turn after the others, if these have not made it stand in braces
more often than the template has it so. -/
theorem replace_fillAtOnce (plain : IsPlain name) (plainNames : PlainNames text?)
    (unknown : text? name = none) (own : more? name = some text)
    (others : ∀ other, other ≠ name → more? other = text? other)
    (kept : occurrences (placeholder name) (fillAtOnce text? template) ≤
      occurrences (placeholder name) template) :
    replace (placeholder name) text.toList (fillAtOnce text? template) =
      fillAtOnce more? template := by
  induction template using
    induction_on_placeholders (fun other => other = name ∨ (text? other).isSome) with
  | nil => rfl
  | found other rest isKnown ih =>
      by_cases same : other = name
      · subst same
        rw [fillAtOnce_unknown plain plainNames unknown, occurrences_placeholder plain plain,
          occurrences_placeholder plain plain] at kept
        rw [fillAtOnce_unknown plain plainNames unknown, replace_append placeholder_ne_nil,
          fillAtOnce_placeholder plain own, ih (Nat.le_of_add_le_add_right kept)]
      · have isKnown := isKnown.resolve_left same
        obtain ⟨put, known⟩ := Option.isSome_iff_exists.mp isKnown
        have plainOther := plainNames other isKnown
        rw [fillAtOnce_placeholder plainOther known, occurrences_placeholder plain plainOther,
          if_neg (Ne.symm same), Nat.add_zero] at kept
        obtain ⟨stays, keptBehind⟩ :=
          replace_append_fillAtOnce plain plainNames unknown put.toList kept
        rw [fillAtOnce_placeholder plainOther known, stays, ih keptBehind,
          fillAtOnce_placeholder plainOther ((others other same).trans known)]
  | plain c rest apart ih =>
      have filled : fillAtOnce text? (c :: rest) = c :: fillAtOnce text? rest :=
        fillAtOnce_cons fun other known => apart other (.inr known)
      have filledMore : fillAtOnce more? (c :: rest) = c :: fillAtOnce more? rest := by
        apply fillAtOnce_cons
        intro other known
        by_cases same : other = name
        · exact apart other (.inl same)
        · rw [others other same] at known
          exact apart other (.inr known)
      rw [filled, occurrences_cons_of_apart (apart name (.inl rfl))] at kept
      obtain ⟨stays, keptBehind⟩ := replace_append_fillAtOnce plain plainNames unknown [c] kept
      rw [filled, filledMore, ← ih keptBehind]
      exact stays

end Turns

/-- When the turn of a name comes, the texts that were put in before have not made it stand in
braces more often than the template has it so: none of them spells it, or completes it with what is
around. -/
def KeepsApart (places : Dict String) (template : List Char) : Prop :=
  ∀ i : Fin places.length,
    occurrences (placeholder places[i].1) (fillAtOnce (Dict.value? (places.take i)) template) ≤
      occurrences (placeholder places[i].1) template

instance (places : Dict String) (template : List Char) : Decidable (KeepsApart places template) :=
  inferInstanceAs (Decidable (∀ _ : Fin places.length, _))

variable {places : Dict String}

theorem KeepsApart.init {place : String × String}
    (apart : KeepsApart (places ++ [place]) template) : KeepsApart places template := by
  intro i
  have within : (i : ℕ) < (places ++ [place]).length := i.isLt.trans_le (by simp)
  have kept := apart ⟨i, within⟩
  simpa [List.getElem_append_left i.isLt, List.take_append_of_le_length i.isLt.le] using kept

theorem KeepsApart.last {place : String × String}
    (apart : KeepsApart (places ++ [place]) template) :
    occurrences (placeholder place.1) (fillAtOnce (Dict.value? places) template) ≤
      occurrences (placeholder place.1) template := by
  have kept := apart ⟨places.length, by simp⟩
  simpa using kept

theorem fillAtOnce_of_no_text (none : ∀ name, text? name = none) (template : List Char) :
    fillAtOnce text? template = template := by
  induction template with
  | nil => rfl
  | cons c rest ih =>
      have apart : ∀ name, (text? name).isSome → ¬ placeholder name <+: c :: rest := by
        simp [none]
      rw [fillAtOnce_cons apart, ih]

/-- Filled one name after another, a template is filled as at once if the names keep apart. -/
theorem foldl_replace_eq_fillAtOnce (plain : ∀ name ∈ places.keys, IsPlain name)
    (distinct : places.keys.Nodup) (apart : KeepsApart places template) :
    places.foldl (fun text place => replace (placeholder place.1) place.2.toList text) template =
      fillAtOnce (Dict.value? places) template := by
  induction places using List.reverseRecOn with
  | nil => exact (fillAtOnce_of_no_text (fun _ => rfl) template).symm
  | append_singleton places place ih =>
      obtain ⟨name, text⟩ := place
      have keys : Dict.keys (places ++ [(name, text)]) = Dict.keys places ++ [name] := by
        simp [Dict.keys]
      rw [keys] at plain distinct
      obtain ⟨distinct, _, fresh⟩ := List.nodup_append.mp distinct
      have plainNames : PlainNames (Dict.value? places) :=
        fun name known => plain name (List.mem_append_left _ (Dict.isSome_value?.mp known))
      have unknown : Dict.value? places name = none := by
        rw [← Option.not_isSome_iff_eq_none, Dict.isSome_value?]
        exact fun member => fresh name member name (List.mem_singleton_self name) rfl
      rw [List.foldl_append, ih (fun name member => plain name (List.mem_append_left _ member))
        distinct apart.init]
      apply replace_fillAtOnce (plain name (by simp)) plainNames unknown
      case own => simp [Dict.value?_append, Dict.value?_cons, unknown]
      case others =>
        intro other different
        simp [Dict.value?_append, Dict.value?_cons, Ne.symm different]
      case kept => exact apart.last

section Nesting

/-- No brace opens inside of braces. -/
def Unnested (template : List Char) : Prop :=
  ∀ before inside after, template = before ++ '{' :: (inside ++ '{' :: after) → '}' ∈ inside

theorem Unnested.of_append (unnested : Unnested (front ++ rest)) : Unnested rest := by
  intro before inside after whole
  exact unnested (front ++ before) inside after (by simp [whole])

theorem nameAt?_fillAtOnce (unnested : Unnested ('{' :: rest)) :
    nameAt? ('{' :: fillAtOnce text? rest) = nameAt? ('{' :: rest) := by
  have free : ∀ run more, rest = run ++ more → '}' ∉ run → '{' ∉ run := by
    intro run more whole closed nested
    subst whole
    obtain ⟨inside, after, rfl, _⟩ := List.eq_append_cons_of_mem nested
    have closing := unnested [] inside (after ++ more) (by simp)
    exact closed (List.mem_append_left _ closing)
  by_cases closing : '}' ∈ rest
  · obtain ⟨run, more, rfl, closed⟩ := List.eq_append_cons_of_mem closing
    rw [fillAtOnce_run (free run _ rfl closed), fillAtOnce_cons_of_ne (by decide),
      nameAt?_run closed, nameAt?_run closed]
  · have plain : fillAtOnce text? (rest ++ []) = rest ++ fillAtOnce text? [] :=
      fillAtOnce_run (free rest [] (by simp) closing) []
    rw [List.append_nil, fillAtOnce_nil, List.append_nil] at plain
    rw [plain]

theorem occurrences_fillAtOnce_le (plain : IsPlain name)
    (plainNames : PlainNames text?)
    (free : ∀ name text, text? name = some text → '{' ∉ text.toList)
    (unnested : Unnested template) :
    occurrences (placeholder name) (fillAtOnce text? template) ≤
      occurrences (placeholder name) template := by
  induction template using
    induction_on_placeholders (fun other => (text? other).isSome) with
  | nil => exact le_refl _
  | found other rest isKnown ih =>
      obtain ⟨text, known⟩ := Option.isSome_iff_exists.mp isKnown
      rw [fillAtOnce_placeholder (plainNames other isKnown) known,
        occurrences_run (free other text known)]
      exact (ih unnested.of_append).trans (occurrences_le_append _ _)
  | plain c rest apart ih =>
      have unnestedBehind : Unnested ([c] ++ rest) := unnested
      have later := ih unnestedBehind.of_append
      have starts : placeholder name <+: c :: fillAtOnce text? rest →
          placeholder name <+: c :: rest := by
        intro starts
        by_cases opens : c = '{'
        · subst opens
          have found := nameAt?_eq_some.mpr ⟨plain.2, starts⟩
          rw [nameAt?_fillAtOnce unnested] at found
          exact (nameAt?_eq_some.mp found).2
        · exact absurd starts (not_placeholder_prefix_of_ne opens _)
      rw [fillAtOnce_cons apart, occurrences_cons, occurrences_cons]
      refine Nat.add_le_add later ?_
      split
      next now => rw [if_pos (starts now)]
      next => exact Nat.zero_le _

theorem keepsApart_of_unnested (plain : ∀ name ∈ places.keys, IsPlain name)
    (free : ∀ name text, places.value? name = some text → '{' ∉ text.toList)
    (unnested : Unnested template) : KeepsApart places template := by
  intro i
  have whole : ∀ name text, Dict.value? (places.take i) name = some text →
      places.value? name = some text := by
    intro name text known
    rw [← List.take_append_drop i places, Dict.value?_append, known, Option.some_or]
  apply occurrences_fillAtOnce_le
  case plain => exact plain _ (List.mem_map_of_mem (List.getElem_mem _))
  case plainNames =>
    intro name known
    obtain ⟨text, known⟩ := Option.isSome_iff_exists.mp known
    exact plain name (Dict.isSome_value?.mp (Option.isSome_of_eq_some (whole name text known)))
  case free => exact fun name text known => free name text (whole name text known)
  case unnested => exact unnested

end Nesting

end FlowLogic.Text
