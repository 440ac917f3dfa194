import FlowLogic.Proofs.Definition.Chains
import FlowLogic.Proofs.Text.Pieces

/-!
What the binding of chains binds.  Under each key stands the result of the last field with that key,
read from the bindings as they were given.  Fields share a key only if their dotted paths and the
digests of their chains agree; a component whose name has a point in it can make two paths look
alike, and nothing else can.
-/

namespace FlowLogic

open Outcome

namespace Text.Digest

theorem littleEndian_length (count n : Nat) : (littleEndian count n).length = count := by
  induction count generalizing n with
  | zero => rfl
  | succ count ih => rw [littleEndian, List.length_cons, ih]

theorem bytes_length (message : List UInt8) : (bytes message).length = 16 := by
  simp [bytes, littleEndian_length]

theorem hex_length (text : String) : (hex text).toList.length = 32 := by
  simp [hex, List.length_flatMap, bytes_length]

end Text.Digest

namespace Label

def dotted (label : Label) : String := Text.joinTexts "." label.path

theorem bindingKey_injective {path chain other third : String}
    (same : bindingKey path chain = bindingKey other third) :
    path = other ∧ Text.Digest.hex chain = Text.Digest.hex third := by
  have texts : (path ++ "_").toList ++ (Text.Digest.hex chain).toList =
      (other ++ "_").toList ++ (Text.Digest.hex third).toList := by
    simpa [bindingKey] using congrArg String.toList same
  have lengths : (Text.Digest.hex chain).toList.length = (Text.Digest.hex third).toList.length := by
    rw [Text.Digest.hex_length, Text.Digest.hex_length]
  obtain ⟨paths, digests⟩ := List.append_inj' texts lengths
  constructor
  · exact String.toList_inj.mp (by simpa using paths)
  · exact String.toList_inj.mp digests

theorem mem_path {label : Label} {segment : String} (member : segment ∈ label.path) :
    segment ≠ "" ∧ (label.component = some segment ∨ '.' ∉ segment.toList) := by
  rw [path, List.mem_filter, List.mem_append] at member
  obtain ⟨inComponent | inText, filled⟩ := member
  · exact ⟨by simpa using filled, .inl (by simpa [eq_comm] using inComponent)⟩
  · obtain ⟨piece, inSplit, rfl⟩ := List.mem_map.mp inText
    have absent : '.' ∉ piece := Text.not_mem_of_mem_split inSplit
    exact ⟨by simpa using filled, .inr (by simpa using absent)⟩

/-- Only the name of a component can have a point in it. -/
def PointFree (label : Label) : Prop :=
  ∀ component, label.component = some component → '.' ∉ component.toList

theorem path_eq_of_dotted_eq {label other : Label} (clean : label.PointFree)
    (cleanOther : other.PointFree) (same : label.dotted = other.dotted) :
    label.path = other.path := by
  have pieces : ∀ {l : Label}, l.PointFree →
      ∀ piece ∈ l.path.map String.toList, piece ≠ [] ∧ '.' ∉ piece := by
    intro l free piece member
    obtain ⟨segment, inPath, rfl⟩ := List.mem_map.mp member
    obtain ⟨filled, named | absent⟩ := mem_path inPath
    · exact ⟨by simpa using filled, free segment named⟩
    · exact ⟨by simpa using filled, absent⟩
  have joined := Text.join_injective (pieces clean) (pieces cleanOther) (String.ofList_inj.mp same)
  exact List.map_injective_iff.mpr (fun _ _ => String.toList_inj.mp) joined

/-- No token of the list has the chain and the dotted path of this one, but another path. -/
def KeptApart (tokens : List Token) (label : Label) : Prop :=
  ∀ token ∈ tokens, token.label.chain = label.chain → token.label.dotted = label.dotted →
    token.label.path = label.path

end Label

namespace Bindings

variable {data bound extended : Bindings} {tokens : List Token}

theorem extend_value? (succeeded : extend data bound tokens = .ok extended) (key : String) :
    (extended.value? key = bound.value? key ∧
        ∀ token ∈ tokens, token.label.chainKey? ≠ some key) ∨
      ∃ token ∈ tokens, token.label.chainKey? = some key ∧
        ∃ chain result, token.label.chain = some chain ∧
          token.label.transformed data chain = .ok result ∧ extended.value? key = some result := by
  induction tokens generalizing bound with
  | nil =>
      cases succeeded
      exact .inl ⟨rfl, by simp⟩
  | cons token rest ih =>
      simp only [extend] at succeeded
      split at succeeded
      next chain tokenKey chained keyed =>
        obtain ⟨result, transformed, others⟩ := bind_eq_ok.mp succeeded
        rcases ih others with ⟨kept, absent⟩ | ⟨later, member, found⟩
        · rw [Dict.value?_put] at kept
          split at kept
          next same =>
            subst same
            exact .inr ⟨token, List.mem_cons_self, keyed, chain, result, chained, transformed, kept⟩
          next distinct =>
            refine .inl ⟨kept, ?_⟩
            rw [List.forall_mem_cons]
            refine ⟨?_, absent⟩
            simpa [keyed] using distinct
        · exact .inr ⟨later, List.mem_cons_of_mem token member, found⟩
      next unkeyed =>
        rcases ih succeeded with ⟨kept, absent⟩ | ⟨later, member, found⟩
        · refine .inl ⟨kept, ?_⟩
          rw [List.forall_mem_cons]
          refine ⟨?_, absent⟩
          intro keyed
          cases chained : token.label.chain with
          | none => simp [Label.chainKey?, chained] at keyed
          | some chain => exact unkeyed chain key chained keyed
        · exact .inr ⟨later, List.mem_cons_of_mem token member, found⟩

theorem transformed_congr {label other : Label} (same : label.path = other.path) (chain : String) :
    label.transformed data chain = other.transformed data chain := by
  simp only [Label.transformed, same]

/-- Every field with a chain that is kept apart from the others has its own result under its key,
and all of them are kept apart if no component has a point in its name. -/
theorem bind_reads_own (succeeded : data.bind tokens = .ok extended)
    (told : ∀ token ∈ tokens, ∀ other ∈ tokens, ∀ chain third,
      token.label.chain = some chain → other.label.chain = some third →
        Text.Digest.hex chain = Text.Digest.hex third → chain = third) :
    (∀ token ∈ tokens, token.label.KeptApart tokens → ∀ chain key,
      token.label.chain = some chain → token.label.chainKey? = some key →
        ∃ steps result, Chain.read chain = .ok steps ∧
          Chain.apply steps ((data.lookup? token.label.path).getD .null) = .ok result ∧
          extended.value? key = some result) ∧
      ((∀ token ∈ tokens, token.label.PointFree) →
        ∀ token ∈ tokens, token.label.KeptApart tokens) := by
  constructor
  · intro token member apart chain key chained keyed
    rcases extend_value? succeeded key with ⟨_, absent⟩ | ⟨last, inTokens, keyedLast, found⟩
    · exact absurd keyed (absent token member)
    · obtain ⟨third, result, chainedLast, transformed, bound⟩ := found
      have keys : Label.bindingKey last.label.dotted third =
          Label.bindingKey token.label.dotted chain := by
        simpa [Label.chainKey?, chained, chainedLast, Label.dotted] using
          keyedLast.trans keyed.symm
      obtain ⟨paths, digests⟩ := Label.bindingKey_injective keys
      -- The last token with the key need not be the given one, but it reads the same path.
      obtain rfl := told last inTokens token member third chain chainedLast chained digests
      have same := apart last inTokens (chainedLast.trans chained.symm) paths
      rw [transformed_congr same, Label.transformed, bind_eq_ok] at transformed
      obtain ⟨steps, read, applied⟩ := transformed
      exact ⟨steps, result, read, applied, bound⟩
  · intro free token member other inTokens _ paths
    exact Label.path_eq_of_dotted_eq (free other inTokens) (free token member) paths

theorem bind_reads_own_in_component :
    ∃ (data extended : Bindings) (counted emptied : Label) (key : String) (result : Json),
      data.bind [.field emptied, .field counted] = .ok extended ∧
        counted.KeptApart [.field emptied, .field counted] ∧
        counted.chainKey? = some key ∧ counted.transformed data "count()" = .ok result ∧
        extended.value? key = some result := by
  have digests : Text.Digest.hex "count()" ≠ Text.Digest.hex "empty()" := by decide +kernel
  obtain ⟨extended, succeeded⟩ : ∃ extended,
      Bindings.bind [("a", .obj [("b", .arr [.null, .null])])]
        [.field ⟨"a.b", "", .expression, some "empty()", none⟩,
          .field ⟨"b", "", .expression, some "count()", some "a"⟩] = .ok extended := ⟨_, rfl⟩
  obtain ⟨own, apart⟩ := bind_reads_own succeeded
    (by simp [Token.label, digests, digests.symm])
  have member : Token.field ⟨"b", "", .expression, some "count()", some "a"⟩ ∈
      [Token.field ⟨"a.b", "", .expression, some "empty()", none⟩,
        .field ⟨"b", "", .expression, some "count()", some "a"⟩] := by simp
  have kept := apart (by simp [Token.label, Label.PointFree]) _ member
  obtain ⟨steps, result, read, applied, found⟩ := own _ member kept "count()" _ rfl rfl
  exact ⟨_, extended, _, _, _, result, succeeded, kept, rfl,
    bind_eq_ok.mpr ⟨steps, read, applied⟩, found⟩

/-- A component with a point in its name can take the key of a field of another path. -/
theorem result_lost_to_shared_key :
    ∃ (data extended : Bindings) (first second : Label) (key : String),
      data.bind [.field first, .field second] = .ok extended ∧
        first.chain = some "count()" ∧ second.chain = some "count()" ∧
        first.chainKey? = some key ∧ first.transformed data "count()" = .ok (.ofNat 1) ∧
        extended.value? key = some (.ofNat 2) := by
  refine ⟨[("a", .obj [("b", .obj [("c", .arr [.null, .null])])]),
      ("a.b", .obj [("c", .arr [.null])])], _,
    ⟨"c", "", .expression, some "count()", some "a.b"⟩,
    ⟨"a.b.c", "", .expression, some "count()", none⟩, _, rfl, rfl, rfl, rfl, rfl, ?_⟩
  exact (Dict.value?_put _ _ _ _).trans (if_pos rfl)

end Bindings

end FlowLogic
