import FlowLogic.Proofs.Command.Status
import FlowLogic.Proofs.Dict
import FlowLogic.Proofs.Text.Placeholders

/-!
Listings of functions by a template.  The fields of a function are put in one after another, in the
order of their names, so the text of one field is searched for the names that come later.  As long as
it makes none of them appear, a line is the template with all fields put in at once.
-/

namespace FlowLogic

namespace ListedFunction

def fieldText : Json → String
  | .arr items => Text.joinTexts ", " (items.map Invocation.resultText)
  | value => Invocation.resultText value

/-- The text of a field, if it is one of those that the document of the function has. -/
def field? (f : ListedFunction) (name : String) : Option String :=
  match f.toJson with
  | .obj fields => (Dict.value? fields name).map fieldText
  | _ => none

/-- The template with all fields put in at once. -/
def filledAtOnce (f : ListedFunction) (template : String) : String :=
  String.ofList (Text.fillAtOnce f.field? template.toList)

/-- No text of a field makes the placeholder of a later field appear. -/
def KeepsApart (f : ListedFunction) (template : String) : Prop :=
  Text.KeepsApart f.places template.toList

instance (f : ListedFunction) (template : String) : Decidable (f.KeepsApart template) :=
  inferInstanceAs (Decidable (Text.KeepsApart _ _))

/-- No text of a field has an opening brace. -/
def OpensNoBrace (f : ListedFunction) : Prop :=
  ∀ name text, f.field? name = some text → '{' ∉ text.toList

variable (f : ListedFunction) {template : String}

theorem fieldText_str (text : String) : fieldText (.str text) = text := rfl

theorem fieldText_arr (texts : List String) :
    fieldText (.arr (texts.map .str)) = Text.joinTexts ", " texts := by
  simp [fieldText, Function.comp_def, Invocation.resultText]

theorem value?_places (name : String) : f.places.value? name = f.field? name := by
  rw [places, Dict.value?_ofEntries]
  case distinct =>
    have distinct :
        ["args", "code", "description", "group", "return_type", "builtin"].Nodup := by decide
    cases f.builtin with
    | none => exact distinct.sublist (List.sublist_append_left _ ["builtin"])
    | some builtin => exact distinct
  simp only [field?, toJson, Dict.value?_append, Option.map_or]
  congr 1
  · simp only [Dict.value?_cons, Dict.value?_nil, apply_ite (Option.map fieldText),
      Option.map_some, Option.map_none, fieldText_arr, fieldText_str]
    grind
  · cases f.builtin with
    | none => rfl
    | some builtin =>
        simp only [Option.map_some, Option.toList_some, Dict.value?_cons, Dict.value?_nil]
        split <;> rfl

theorem plainNames_field : Text.PlainNames f.field? := by
  intro name known
  have plain : ∀ name ∈ ["code", "group", "return_type", "description", "args", "builtin"],
      Text.IsPlain name := by decide
  simp only [field?, toJson, Option.isSome_map, Dict.isSome_value?] at known
  apply plain
  cases builtin : f.builtin with
  | none =>
      rw [builtin] at known
      exact List.mem_append_left ["builtin"] known
  | some _ =>
      rw [builtin] at known
      exact known

theorem isPlain_of_mem_places : ∀ name ∈ f.places.keys, Text.IsPlain name := by
  intro name member
  rw [← Dict.isSome_value?, value?_places] at member
  exact f.plainNames_field name member

theorem toList_fillPlace (text : String) (place : String × String) :
    (fillPlace text place).toList =
      Text.replace (Text.placeholder place.1) place.2.toList text.toList := by
  simp [fillPlace, Text.replaceText, Text.placeholder]

theorem fill_eq_filledAtOnce (apart : f.KeepsApart template) :
    f.fill template = f.filledAtOnce template := by
  have filled : (f.fill template).toList = Text.fillAtOnce f.places.value? template.toList := by
    rw [← Text.foldl_replace_eq_fillAtOnce f.isPlain_of_mem_places
      (Dict.ordered_ofEntries _).nodup apart]
    exact (List.foldl_hom String.toList fun text place => (toList_fillPlace text place).symm).symm
  rw [funext f.value?_places] at filled
  rw [filledAtOnce, ← filled, String.ofList_toList]

theorem OpensNoBrace.keepsApart {f : ListedFunction} (free : f.OpensNoBrace)
    (unnested : Text.Unnested template.toList) : f.KeepsApart template := by
  apply Text.keepsApart_of_unnested f.isPlain_of_mem_places
  case free =>
    intro name text known
    exact free name text (f.value?_places name ▸ known)
  case unnested => exact unnested

end ListedFunction

theorem OutputMode.ofListing_format {common : OutputMode} (spoken : common ≠ .quiet)
    (template : String) : common.ofListing false (some template) = .format template := by
  cases common with
  | quiet => exact absurd rfl spoken
  | _ => rfl

namespace Invocation

section

variable {σ : Type} {host : Host (StateM σ)} (around : Surroundings) {start state : σ}
  {arguments : List String} {invocation : Invocation} {group : Option String} {template : String}
  {config : Config} {registry : Registry}

theorem mode_ne_quiet (spoken : invocation.quiet = false) : invocation.mode around ≠ .quiet := by
  rw [mode, OutputMode.ofOptions, spoken, if_neg Bool.false_ne_true]
  split_ifs <;> simp

theorem run_listing (readLine : read arguments = .ok invocation)
    (asked : invocation.command = .functions group false (some template))
    (spoken : invocation.quiet = false)
    (prepared : (prepare host (invocation.configPath around) invocation.functions).run start =
      (.ok (config, registry), state)) :
    runArguments host around arguments start =
      (.success (listingText (.format template) (.ofRegistry registry group)), state) := by
  have form := OutputMode.ofListing_format (mode_ne_quiet around spoken) template
  have reported : invocation.report host around start =
      (⟨listingText (.format template) (.ofRegistry registry group), none⟩, state) := by
    simp only [report, asked, reportOf, ExceptT.run_bind, bind_assoc, bind_apply, prepared,
      ExceptT.run_pure, form]
    rfl
  simp only [runArguments, readLine, run, bind_apply, reported]
  rfl

/-- Every function is listed by the template with all its fields put in at once, unless a text that
is put in makes the placeholder of a later field appear.  None does if no text has an opening brace
and no brace of the template opens inside of braces. -/
theorem listing_fills_at_once (readLine : read arguments = .ok invocation)
    (asked : invocation.command = .functions group false (some template))
    (spoken : invocation.quiet = false)
    (prepared : (prepare host (invocation.configPath around) invocation.functions).run start =
      (.ok (config, registry), state)) :
    ∃ lines,
      runArguments host around arguments start = (.success (Outcome.lines lines), state) ∧
      List.Forall₂
        (fun f line =>
          f.KeepsApart template ∨ (f.OpensNoBrace ∧ Text.Unnested template.toList) →
            line = f.filledAtOnce template)
        (Listing.ofRegistry registry group).functions lines := by
  refine ⟨_, run_listing around readLine asked spoken prepared, ?_⟩
  rw [List.forall₂_map_right_iff, List.forall₂_same]
  intro f _ apart
  rcases apart with apart | ⟨free, unnested⟩
  · exact f.fill_eq_filledAtOnce apart
  · exact f.fill_eq_filledAtOnce (free.keepsApart unnested)

end

section

/-- A host with one file of functions.  Both have placeholders in their descriptions: the first one
that of a later field, the second one only those of earlier fields. -/
def aliasesHost : Host (StateM Unit) :=
  { bareHost with
    read := fun path => pure <|
      if path = "aliases.json" then
        .ok ("\x7bgroup: 'alias', functions: \x7b"
          ++ "cut: \x7bfunction: 'substr', desc: 'a \x7bcode\x7d of \x7bgroup\x7d'\x7d, "
          ++ "shout: \x7bfunction: 'upper', desc: '\x7bcode\x7d for \x7bargs\x7d'\x7d\x7d\x7d")
      else .error .missing }

def cutAlias : ListedFunction :=
  ⟨"cut", "alias", "string", "a \x7bcode\x7d of \x7bgroup\x7d", [], some "substr"⟩

def shoutAlias : ListedFunction :=
  ⟨"shout", "alias", "string", "\x7bcode\x7d for \x7bargs\x7d", [], some "upper"⟩

def descriptionsLine : List String :=
  ["--config", "config.json", "functions", "--functions", "aliases.json", "--group", "alias",
    "--format", "\x7bdescription\x7d"]

def aliasesAround : Surroundings := ⟨"/home", none, false, 0⟩

theorem read_descriptionsLine :
    read descriptionsLine =
      .ok ⟨some "config.json", false, false, false, ["aliases.json"],
        .functions (some "alias") false (some "\x7bdescription\x7d")⟩ := by
  rfl

theorem prepare_aliases :
    ∃ config registry,
      (prepare aliasesHost "config.json" ["aliases.json"]).run () = (.ok (config, registry), ()) ∧
      (Listing.ofRegistry registry (some "alias")).functions = [cutAlias, shoutAlias] := by
  have listed :
      ((prepare aliasesHost "config.json" ["aliases.json"]).run ()).1.toOption.map
        (fun prepared => (Listing.ofRegistry prepared.2 (some "alias")).functions) =
        some [cutAlias, shoutAlias] := by decide +kernel
  cases ran : (prepare aliasesHost "config.json" ["aliases.json"]).run () with
  | mk result state =>
      rw [ran] at listed
      cases result with
      | error failure => cases listed
      | ok prepared => exact ⟨prepared.1, prepared.2, rfl, Option.some.inj listed⟩

/-- The placeholders of earlier fields stay in the description of the second function. -/
theorem listing_fills_at_once_beside_earlier_fields :
    shoutAlias.KeepsApart "\x7bdescription\x7d" ∧
      ∃ first, runArguments aliasesHost aliasesAround descriptionsLine () =
        (.success (Outcome.lines [first, "\x7bcode\x7d for \x7bargs\x7d"]), ()) := by
  have apart : shoutAlias.KeepsApart "\x7bdescription\x7d" := by decide +kernel
  have verbatim :
      shoutAlias.filledAtOnce "\x7bdescription\x7d" = "\x7bcode\x7d for \x7bargs\x7d" := by
    decide +kernel
  obtain ⟨config, registry, prepared, listed⟩ := prepare_aliases
  obtain ⟨lines, ran, filled⟩ :=
    listing_fills_at_once aliasesAround read_descriptionsLine rfl rfl prepared
  simp only [listed, List.forall₂_cons_left_iff, List.forall₂_nil_left_iff] at filled
  obtain ⟨first, _, _, ⟨second, _, filled, rfl, rfl⟩, rfl⟩ := filled
  rw [filled (.inl apart), verbatim] at ran
  exact ⟨apart, first, ran⟩

/-- The description of the first function is searched once more, for the group. -/
theorem description_filled_again :
    ∃ config registry,
      (prepare aliasesHost "config.json" ["aliases.json"]).run () = (.ok (config, registry), ()) ∧
      runArguments aliasesHost aliasesAround descriptionsLine () =
        (.success "a \x7bcode\x7d of alias\n\x7bcode\x7d for \x7bargs\x7d\n", ()) ∧
      ¬ ∃ lines,
        runArguments aliasesHost aliasesAround descriptionsLine () =
          (.success (Outcome.lines lines), ()) ∧
        List.Forall₂ (fun f line => line = f.filledAtOnce "\x7bdescription\x7d")
          (Listing.ofRegistry registry (some "alias")).functions lines := by
  obtain ⟨config, registry, prepared, listed⟩ := prepare_aliases
  have output :
      listingText (.format "\x7bdescription\x7d") (.ofRegistry registry (some "alias")) =
        "a \x7bcode\x7d of alias\n\x7bcode\x7d for \x7bargs\x7d\n" := by
    rw [listingText, listed]
    decide +kernel
  have ran := run_listing aliasesAround read_descriptionsLine rfl rfl prepared
  rw [output] at ran
  refine ⟨config, registry, prepared, ran, ?_⟩
  intro atOnce
  obtain ⟨lines, ranAtOnce, filled⟩ := atOnce
  simp only [listed, List.forall₂_cons_left_iff, List.forall₂_nil_left_iff] at filled
  obtain ⟨_, _, rfl, ⟨_, _, rfl, rfl, rfl⟩, rfl⟩ := filled
  have differ : "a \x7bcode\x7d of alias\n\x7bcode\x7d for \x7bargs\x7d\n" ≠
      Outcome.lines [cutAlias.filledAtOnce "\x7bdescription\x7d",
        shoutAlias.filledAtOnce "\x7bdescription\x7d"] := by decide +kernel
  exact differ (congrArg (fun left => left.1.output) (ran.symm.trans ranAtOnce))

end

end Invocation

end FlowLogic
