import FlowLogic.Definition.Reader
import FlowLogic.Proofs.Outcome
import Mathlib.Data.List.Basic

/-!
What reading a definition guarantees.  A value that was read has tokens, all of them were read in a
value of its kind, and so were the values that they hold: the arguments of calls and the fields that
lists of members refer to.
-/

namespace FlowLogic

open Outcome

theorem Dict.search_eq {α β : Type} {key : String} {found : α → β} {absent : β}
    {search : Dict α → β} (nil : search [] = absent)
    (cons : ∀ name value rest, search ((name, value) :: rest) =
      if name = key then found value else search rest) (fields : Dict α) :
    search fields = ((fields.value? key).map found).getD absent := by
  induction fields with
  | nil => exact nil
  | cons field rest ih =>
      obtain ⟨name, value⟩ := field
      rw [cons, Dict.value?_cons]
      split
      · rfl
      · exact ih

/-- A document at some place describes the value. -/
def Value.IsRead (v : Value) : Prop := ∃ path document, Value.readAt path document = .ok (some v)

def Token.IsRead (origin : ValueKind) (token : Token) : Prop :=
  ∃ path document, Token.readAt origin path document = .ok token

def Value.OwnsTokens (v : Value) : Prop :=
  ∀ token ∈ v.expression.tokens, token.label.origin = v.kind

namespace Token

theorem dropBlankFirst_subset (tokens : List Token) : dropBlankFirst tokens ⊆ tokens := by
  cases tokens with
  | nil => exact List.Subset.refl []
  | cons first rest =>
      simp only [dropBlankFirst]
      split
      · exact List.subset_cons_self first rest
      · exact List.Subset.refl _

theorem dropBlankLast_subset (tokens : List Token) : dropBlankLast tokens ⊆ tokens := by
  unfold dropBlankLast
  split
  · split
    · exact List.dropLast_subset tokens
    · exact List.Subset.refl tokens
  · exact List.nil_subset tokens

theorem readAll_isRead {origin : ValueKind} {path : Path} {position : Nat} {documents : List Json}
    {tokens : List Token} (read : readAll origin path position documents = .ok tokens) :
    ∀ token ∈ tokens, token.IsRead origin := by
  induction documents generalizing position tokens with
  | nil =>
      simp only [readAll] at read
      cases read
      simp
  | cons document rest ih =>
      simp only [readAll, bind_eq_ok] at read
      obtain ⟨first, readFirst, others, readRest, returned⟩ := read
      cases returned
      rw [List.forall_mem_cons]
      exact ⟨⟨_, document, readFirst⟩, ih readRest⟩

end Token

namespace Expression

variable {origin : ValueKind} {path : Path} {e : Expression}

theorem ofTokens?_eq_some {tokens : List Token} (kept : ofTokens? tokens = some e) :
    e.tokens ≠ [] ∧ e.tokens ⊆ tokens := by
  simp only [ofTokens?, Option.ite_none_left_eq_some, Option.some.injEq] at kept
  obtain ⟨filled, rfl⟩ := kept
  refine ⟨by simpa using filled, ?_⟩
  exact List.Subset.trans (Token.dropBlankLast_subset _) (Token.dropBlankFirst_subset tokens)

theorem readAt_eq_some {document : Json} (read : readAt origin path document = .ok (some e)) :
    e.tokens ≠ [] ∧ ∀ token ∈ e.tokens, token.IsRead origin := by
  cases document with
  | arr items =>
      simp only [readAt, bind_eq_ok] at read
      obtain ⟨tokens, readTokens, returned⟩ := read
      obtain ⟨filled, kept⟩ := ofTokens?_eq_some (Except.ok.inj returned)
      refine ⟨filled, ?_⟩
      intro token member
      exact Token.readAll_isRead readTokens token (kept member)
  | null | bool | num | str | obj => simp [readAt] at read

theorem readUnder_eq (key : String) (origin : ValueKind) (path : Path) (fields : Dict Json) :
    readUnder key origin path fields =
      ((fields.value? key).map (readAt origin path)).getD (.ok none) :=
  Dict.search_eq (by rw [readUnder]) (fun _ _ _ => by rw [readUnder]) fields

theorem readUnder_eq_some {key : String} {fields : Dict Json}
    (read : readUnder key origin path fields = .ok (some e)) :
    e.tokens ≠ [] ∧ ∀ token ∈ e.tokens, token.IsRead origin := by
  rw [readUnder_eq] at read
  cases found : fields.value? key with
  | none =>
      rw [found] at read
      cases read
  | some document =>
      rw [found] at read
      exact readAt_eq_some read

end Expression

namespace Value

theorem readTemplate_tokens (fields : Dict Json) (e : Expression) :
    (readTemplate fields e).tokens = e.tokens := by
  unfold readTemplate
  split <;> rfl

theorem readAt_eq_some {path : Path} {document : Json} {v : Value}
    (read : readAt path document = .ok (some v)) :
    v.expression.tokens ≠ [] ∧ ∀ token ∈ v.expression.tokens, token.IsRead v.kind := by
  cases document with
  | obj fields =>
      simp only [readAt, pure_eq_ok] at read
      split at read
      next => cases read
      next =>
        simp only [bind_eq_ok] at read
        obtain ⟨_ | kind, _, read⟩ := read
        · cases read
        · simp only [bind_eq_ok] at read
          obtain ⟨_ | e, readTokens, read⟩ := read
          · cases read
          · simp only [bind_eq_ok] at read
            obtain ⟨dataType, _, returned⟩ := read
            cases returned
            rw [readTemplate_tokens]
            exact Expression.readUnder_eq_some readTokens
  | null | bool | num | str | arr => simp [readAt] at read

end Value

/-- The label says that its token was written in a value of the kind, and has no blank chain and no
component without a name. -/
structure Label.WellFormed (origin : ValueKind) (label : Label) : Prop where
  origin : label.origin = origin
  chain : ∀ chain, label.chain = some chain → Text.isBlankText chain = false
  component : ∀ component, label.component = some component → component ≠ ""

theorem textUnder?_ne_empty {fields : Dict Json} {key text : String}
    (found : textUnder? fields key = some text) : text ≠ "" := by
  obtain ⟨_, filled⟩ := Option.filter_eq_some_iff.mp found
  simpa using filled

theorem Label.WellFormed.withChain {origin : ValueKind} {label : Label}
    (sound : label.WellFormed origin) (text : String) :
    (label.withChain text).WellFormed origin := by
  refine ⟨sound.origin, ?_, sound.component⟩
  intro chain chained
  simp only [Label.withChain, Option.ite_none_left_eq_some, Option.some.injEq] at chained
  obtain ⟨visible, rfl⟩ := chained
  exact Bool.eq_false_iff.mpr visible

theorem Token.readLabel_wellFormed (kind : TokenKind) (origin : ValueKind) (text : String)
    (fields : Dict Json) : (readLabel kind origin text fields).WellFormed origin := by
  have plain : ∀ name, Label.WellFormed origin
      ⟨text, name, origin, none, textUnder? fields "component_id"⟩ := by
    intro name
    refine ⟨rfl, ?_, ?_⟩
    · intro chain chained
      cases chained
    · intro component named
      exact textUnder?_ne_empty named
  unfold readLabel
  dsimp only
  split
  next chain _ => exact (plain _).withChain chain
  next => exact plain _

/-! The arguments of calls were read as values, and none of them is an empty call. -/

namespace Value

variable {path : Path} {values : List Value}

theorem readAll_isRead {position : Nat} {documents : List Json}
    (read : readAll path position documents = .ok values) :
    ∀ v ∈ values, v.IsRead ∧ v.isEmptyCall = false := by
  induction documents generalizing position values with
  | nil =>
      simp only [readAll] at read
      cases read
      simp
  | cons document rest ih =>
      simp only [readAll, bind_eq_ok] at read
      obtain ⟨value?, readFirst, others, readRest, returned⟩ := read
      cases value? with
      | none =>
          cases returned
          exact ih readRest
      | some value =>
          dsimp only at returned
          split at returned
          next =>
            cases returned
            exact ih readRest
          next effective =>
            cases returned
            rw [List.forall_mem_cons]
            exact ⟨⟨⟨_, document, readFirst⟩, Bool.eq_false_iff.mpr effective⟩, ih readRest⟩

theorem readList_isRead {document : Json} (read : readList path document = .ok values) :
    ∀ v ∈ values, v.IsRead ∧ v.isEmptyCall = false := by
  cases document with
  | arr items =>
      simp only [readList] at read
      exact readAll_isRead read
  | null | bool | num | str | obj => simp [readList] at read

theorem readArguments_eq (path : Path) (fields : Dict Json) :
    readArguments path fields = ((fields.value? "args").map (readList path)).getD (.ok []) :=
  Dict.search_eq (by rw [readArguments]) (fun _ _ _ => by rw [readArguments]) fields

theorem readArguments_isRead {fields : Dict Json} (read : readArguments path fields = .ok values) :
    ∀ v ∈ values, v.IsRead ∧ v.isEmptyCall = false := by
  rw [readArguments_eq] at read
  cases found : fields.value? "args" with
  | none =>
      rw [found] at read
      cases read
      simp
  | some document =>
      rw [found] at read
      exact readList_isRead read

end Value

/-! The fields that a list of members refers to were read as values. -/

namespace Member

variable {v : Value}

def ofValue (document : Json) : Member :=
  match Value.readAt [.key "value"] document with
  | .ok (some value) => .reference value
  | .ok none => .blankReference
  | .error e => .brokenReference e

theorem readReference_eq (fields : Dict Json) :
    readReference fields = ((fields.value? "value").map ofValue).getD .blankReference :=
  Dict.search_eq (by rw [readReference]) (fun _ _ _ => by rw [readReference]; rfl) fields

theorem readReference_isRead {fields : Dict Json}
    (refers : readReference fields = .reference v) : v.IsRead := by
  rw [readReference_eq] at refers
  cases found : fields.value? "value" with
  | none =>
      rw [found] at refers
      cases refers
  | some document =>
      rw [found, Option.map_some, Option.getD_some, ofValue] at refers
      split at refers
      next read =>
        cases refers
        exact ⟨_, document, read⟩
      next => cases refers
      next => cases refers

theorem not_mem_readId (fields : Dict Json) : .reference v ∉ readId fields := by
  intro member
  rw [readId, Option.mem_toList, Option.map_eq_some_iff] at member
  obtain ⟨_, _, same⟩ := member
  cases same

theorem isRead_of_mem_entry {fields : Dict Json}
    (member : .reference v ∈
      if refersToField fields then [readReference fields] else readId fields) : v.IsRead := by
  split at member
  · exact readReference_isRead (List.mem_singleton.mp member).symm
  · exact absurd member (not_mem_readId fields)

theorem readAll_isRead {documents : List Json} (member : .reference v ∈ readAll documents) :
    v.IsRead := by
  induction documents with
  | nil => simp [readAll] at member
  | cons document rest ih =>
      cases document with
      | obj fields =>
          simp only [readAll, List.mem_append] at member
          apply member.elim
          · exact isRead_of_mem_entry
          · exact ih
      | null | bool | num | str | arr =>
          simp only [readAll, List.mem_cons, reduceCtorEq, false_or] at member
          exact ih member

theorem readPayload_isRead {payload : Json} (member : .reference v ∈ readPayload payload) :
    v.IsRead := by
  cases payload with
  | arr items =>
      simp only [readPayload] at member
      exact readAll_isRead member
  | obj fields =>
      simp only [readPayload] at member
      exact isRead_of_mem_entry member
  | null | bool | num | str => simp [readPayload] at member

theorem readUnder_eq (key : String) (fields : Dict Json) :
    readUnder key fields = ((fields.value? key).map readPayload).getD [] :=
  Dict.search_eq (by rw [readUnder]) (fun _ _ _ => by rw [readUnder]) fields

theorem readUnder_isRead {key : String} {fields : Dict Json}
    (member : .reference v ∈ readUnder key fields) : v.IsRead := by
  rw [readUnder_eq] at member
  cases found : fields.value? key with
  | none =>
      rw [found] at member
      cases member
  | some payload =>
      rw [found] at member
      exact readPayload_isRead member

end Member

def Member.value? : Member → Option Value
  | .reference v => some v
  | _ => none

def Token.values : Token → List Value
  | .call _ arguments => arguments
  | .display _ _ _ members => members.filterMap Member.value?
  | _ => []

theorem Member.mem_values {members : List Member} {v : Value} :
    v ∈ members.filterMap value? ↔ .reference v ∈ members := by
  rw [List.mem_filterMap]
  constructor
  · intro found
    obtain ⟨member, listed, refers⟩ := found
    cases member with
    | reference w =>
        cases refers
        exact listed
    | plain | blankReference | brokenReference => cases refers
  · intro listed
    exact ⟨.reference v, listed, rfl⟩

namespace Token

variable {origin : ValueKind} {token : Token}

theorem readAt_eq_ok {path : Path} {document : Json}
    (read : Token.readAt origin path document = .ok token) :
    token.label.WellFormed origin ∧ (∀ v ∈ token.values, v.IsRead) ∧
      ∀ v ∈ token.arguments, v.isEmptyCall = false := by
  cases document with
  | obj fields =>
      simp only [readAt, bind_eq_ok] at read
      obtain ⟨kind, _, text, _, read⟩ := read
      have label := readLabel_wellFormed kind origin text fields
      cases kind with
      | field | input =>
          cases read
          exact ⟨label, by simp [values], by simp [arguments]⟩
      | call =>
          simp only [bind_eq_ok] at read
          obtain ⟨arguments, readArguments, returned⟩ := read
          cases returned
          have sound := Value.readArguments_isRead readArguments
          exact ⟨label, fun v member => (sound v member).1, fun v member => (sound v member).2⟩
      | display shown =>
          cases read
          refine ⟨⟨label.origin, label.chain, label.component⟩, ?_, by simp [arguments]⟩
          intro v member
          have listed := Member.mem_values.mp member
          split at listed
          next => exact Member.readUnder_isRead listed
          next => cases listed
  | null | bool | num | str | arr => simp [readAt] at read

theorem IsRead.label (read : token.IsRead origin) : token.label.WellFormed origin := by
  obtain ⟨path, document, read⟩ := read
  exact (readAt_eq_ok read).1

theorem IsRead.values (read : token.IsRead origin) : ∀ v ∈ token.values, v.IsRead := by
  obtain ⟨path, document, read⟩ := read
  exact (readAt_eq_ok read).2.1

theorem IsRead.effective (read : token.IsRead origin) :
    ∀ v ∈ token.arguments, v.isEmptyCall = false := by
  obtain ⟨path, document, read⟩ := read
  exact (readAt_eq_ok read).2.2

end Token

theorem Value.IsRead.tokens {v : Value} (read : v.IsRead) :
    v.expression.tokens ≠ [] ∧ ∀ token ∈ v.expression.tokens, token.IsRead v.kind := by
  obtain ⟨path, document, read⟩ := read
  exact Value.readAt_eq_some read

theorem Value.IsRead.ownsTokens {v : Value} (read : v.IsRead) : v.OwnsTokens := by
  intro token member
  exact (read.tokens.2 token member).label.origin

theorem Value.readAt_ownsTokens {path : Path} {document : Json} {v : Value}
    (read : Value.readAt path document = .ok (some v)) : v.OwnsTokens :=
  Value.IsRead.ownsTokens ⟨path, document, read⟩

end FlowLogic
