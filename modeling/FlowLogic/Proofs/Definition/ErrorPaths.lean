import FlowLogic.Definition.Reader
import FlowLogic.Proofs.Definition.PathText
import FlowLogic.Proofs.Outcome
import Mathlib.Data.List.Basic

/-!
Where build errors point.  A reader is always at the place of the document that its path leads to,
and blames that place or what stands under a key of it.
-/

namespace FlowLogic

open Outcome

def Json.child? : Json → Step → Option Json
  | .obj fields, .key name => Dict.value? fields name
  | .arr items, .index position => items[position]?
  | _, _ => none

def Json.at? (root : Json) (path : Path) : Option Json := path.foldlM Json.child? root

theorem Json.at?_snoc {root place : Json} {path : Path} (found : root.at? path = some place)
    (step : Step) : root.at? (path ++ [step]) = place.child? step := by
  rw [at?, List.foldlM_append, ← at?, found]
  exact bind_pure (place.child? step)

/-- The path leads to a place in the document, or to a key that an object in it has not got. -/
def Path.PointsInto (root : Json) (path : Path) : Prop :=
  (root.at? path).isSome ∨
    ∃ (parent : Path) (fields : Dict Json) (name : String),
      path = parent.key name ∧ root.at? parent = some (.obj fields) ∧ fields.value? name = none

/-- The path that stands in the text of the error points into the document. -/
def BuildError.PointsInto (root : Json) (e : BuildError) : Prop :=
  ∃ path, Path.read? e.path.render = some path ∧ path.PointsInto root

structure Json.Reaches (root : Json) (path : Path) (place : Json) : Prop where
  plain : ∀ step ∈ path, step.IsPlain
  found : root.at? path = some place

def Json.ReachesUnder (root : Json) (path : Path) (key : String) (fields : Dict Json) : Prop :=
  ∀ place, fields.value? key = some place → root.Reaches path place

def Json.ReachesAll (root : Json) (path : Path) (position : Nat) (items : List Json) : Prop :=
  ∀ offset place, items[offset]? = some place → root.Reaches (path.index (position + offset)) place

namespace Json.Reaches

variable {root place : Json} {path : Path} {e : BuildError}

theorem here (root : Json) : root.Reaches [] root := ⟨by simp, rfl⟩

theorem snoc (reaches : root.Reaches path place) {step : Step} (plain : step.IsPlain) {inner : Json}
    (leads : place.child? step = some inner) : root.Reaches (path ++ [step]) inner := by
  refine ⟨?_, by rw [at?_snoc reaches.found, leads]⟩
  rw [List.forall_mem_append, List.forall_mem_singleton]
  exact ⟨reaches.plain, plain⟩

theorem key {fields : Dict Json} (reaches : root.Reaches path (.obj fields)) {name : String}
    (plain : (Step.key name).IsPlain) {inner : Json} (found : fields.value? name = some inner) :
    root.Reaches (path.key name) inner :=
  reaches.snoc plain found

theorem index {items : List Json} (reaches : root.Reaches path (.arr items)) {position : Nat}
    {inner : Json} (listed : items[position]? = some inner) :
    root.Reaches (path.index position) inner := by
  have plain : (Step.index position).IsPlain := trivial
  exact reaches.snoc plain listed

theorem under {fields : Dict Json} (reaches : root.Reaches path (.obj fields)) {name : String}
    (plain : (Step.key name).IsPlain) : root.ReachesUnder (path.key name) name fields :=
  fun _ found => reaches.key plain found

theorem items {items : List Json} (reaches : root.Reaches path (.arr items)) :
    root.ReachesAll path 0 items := by
  intro offset place listed
  rw [Nat.zero_add]
  exact reaches.index listed

theorem blame (reaches : root.Reaches path place) (same : e.path = path) : e.PointsInto root := by
  refine ⟨path, by rw [same, Path.read?_render reaches.plain], ?_⟩
  apply Or.inl
  rw [reaches.found, Option.isSome_some]

theorem blame_key {fields : Dict Json} (reaches : root.Reaches path (.obj fields)) {name : String}
    (plain : (Step.key name).IsPlain) (same : e.path = path.key name) : e.PointsInto root := by
  cases found : fields.value? name with
  | some inner => exact (reaches.key plain found).blame same
  | none =>
      have steps : ∀ step ∈ path.key name, step.IsPlain := by
        rw [Path.key, List.forall_mem_append, List.forall_mem_singleton]
        exact ⟨reaches.plain, plain⟩
      refine ⟨path.key name, by rw [same, Path.read?_render steps], ?_⟩
      exact Or.inr ⟨path, fields, name, rfl, reaches.found, found⟩

end Json.Reaches

namespace Json

variable {root item : Json} {path : Path} {items : List Json}

theorem ReachesUnder.head {key name : String} {rest : Dict Json}
    (under : root.ReachesUnder path key ((name, item) :: rest)) (same : name = key) :
    root.Reaches path item := by
  apply under
  rw [Dict.value?_cons, if_pos same]

theorem ReachesUnder.tail {key name : String} {rest : Dict Json}
    (under : root.ReachesUnder path key ((name, item) :: rest)) (other : name ≠ key) :
    root.ReachesUnder path key rest := by
  intro place found
  apply under
  rw [Dict.value?_cons, if_neg other, found]

theorem ReachesAll.head {position : Nat} (listed : root.ReachesAll path position (item :: items)) :
    root.Reaches (path.index position) item :=
  listed 0 item rfl

theorem ReachesAll.tail {position : Nat} (listed : root.ReachesAll path position (item :: items)) :
    root.ReachesAll path (position + 1) items := by
  intro offset place found
  rw [Nat.add_assoc, Nat.add_comm 1]
  exact listed (offset + 1) place found

end Json

/-! What is read without going further into the document. -/

theorem ValueKind.tokensKey_isPlain (kind : ValueKind) : (Step.key kind.tokensKey).IsPlain := by
  cases kind <;> decide

variable {path : Path} {fields : Dict Json} {e : BuildError}

theorem Token.readText_eq_error (failed : readText path fields = .error e) :
    e.path = path.key "value" := by
  unfold readText at failed
  split at failed <;> cases failed <;> rfl

theorem Token.readKind_eq_error (failed : readKind path fields = .error e) :
    e.path = path ∨ e.path = path.key "type" := by
  unfold readKind at failed
  split at failed
  next =>
    cases failed
    exact .inl rfl
  next =>
    split at failed <;> cases failed
    exact .inr rfl

theorem Value.readKind_eq_error (failed : readKind path fields = .error e) :
    e.path = path.key "type" := by
  unfold readKind at failed
  split at failed
  next =>
    split at failed <;> cases failed
    rfl
  next =>
    cases failed
    rfl
  next =>
    split at failed
    · cases failed
    · split at failed <;> cases failed

theorem Value.readDataType_eq_error (failed : readDataType path fields = .error e) :
    e.path = path.key "data_type" := by
  unfold readDataType at failed
  split at failed
  next => cases failed
  next => cases failed
  next =>
    split at failed
    · cases failed
    · split at failed <;> cases failed
      rfl
  next =>
    cases failed
    rfl

variable {root : Json}

mutual

theorem Value.readAt_pointsInto (document : Json) {path : Path}
    (reaches : root.Reaches path document) (failed : Value.readAt path document = .error e) :
    e.PointsInto root := by
  cases document with
  | obj fields =>
      simp only [Value.readAt, pure_eq_ok] at failed
      split at failed
      next => cases failed
      next =>
        apply (bind_eq_error.mp failed).elim
        · intro failedKind
          exact reaches.blame_key (by decide) (Value.readKind_eq_error failedKind)
        · intro later
          obtain ⟨_ | kind, _, later⟩ := later
          · cases later
          · apply (bind_eq_error.mp later).elim
            · exact Expression.readUnder_pointsInto fields (reaches.under kind.tokensKey_isPlain)
            · intro last
              obtain ⟨_ | expression, _, last⟩ := last
              · cases last
              · apply (bind_eq_error.mp last).elim
                · intro failedType
                  exact reaches.blame_key (by decide) (Value.readDataType_eq_error failedType)
                · intro returned
                  obtain ⟨_, _, returned⟩ := returned
                  cases returned
  | null | bool | num | str | arr => simp [Value.readAt] at failed

theorem Expression.readUnder_pointsInto (fields : List (String × Json)) {key : String}
    {origin : ValueKind} {path : Path}
    (under : root.ReachesUnder path key fields)
    (failed : Expression.readUnder key origin path fields = .error e) : e.PointsInto root := by
  cases fields with
  | nil => simp [Expression.readUnder] at failed
  | cons field rest =>
      cases field with
      | mk name value =>
          simp only [Expression.readUnder] at failed
          split at failed
          next same => exact Expression.readAt_pointsInto value (under.head same) failed
          next other => exact Expression.readUnder_pointsInto rest (under.tail other) failed

theorem Expression.readAt_pointsInto (document : Json) {origin : ValueKind} {path : Path}
    (reaches : root.Reaches path document)
    (failed : Expression.readAt origin path document = .error e) : e.PointsInto root := by
  cases document with
  | arr items =>
      simp only [Expression.readAt, pure_eq_ok, bind_ok_eq_error] at failed
      exact Token.readAll_pointsInto items reaches.items failed
  | null => simp [Expression.readAt] at failed
  | bool | num | str | obj =>
      simp only [Expression.readAt] at failed
      cases failed
      exact reaches.blame rfl

theorem Token.readAll_pointsInto (items : List Json) {origin : ValueKind} {path : Path}
    {position : Nat}
    (listed : root.ReachesAll path position items)
    (failed : Token.readAll origin path position items = .error e) : e.PointsInto root := by
  cases items with
  | nil => simp [Token.readAll] at failed
  | cons item rest =>
      simp only [Token.readAll, pure_eq_ok] at failed
      apply (bind_eq_error.mp failed).elim
      · exact Token.readAt_pointsInto item listed.head
      · intro later
        obtain ⟨_, _, later⟩ := later
        exact Token.readAll_pointsInto rest listed.tail (bind_ok_eq_error.mp later)

theorem Token.readAt_pointsInto (document : Json) {origin : ValueKind} {path : Path}
    (reaches : root.Reaches path document)
    (failed : Token.readAt origin path document = .error e) : e.PointsInto root := by
  cases document with
  | obj fields =>
      simp only [Token.readAt] at failed
      apply (bind_eq_error.mp failed).elim
      · intro failedKind
        apply (Token.readKind_eq_error failedKind).elim
        · exact reaches.blame
        · exact reaches.blame_key (by decide)
      · intro later
        obtain ⟨kind, _, later⟩ := later
        apply (bind_eq_error.mp later).elim
        · intro failedText
          exact reaches.blame_key (by decide) (Token.readText_eq_error failedText)
        · intro last
          obtain ⟨text, _, last⟩ := last
          cases kind with
          | field | input | display => cases last
          | call =>
              exact Value.readArguments_pointsInto fields (reaches.under (by decide))
                (bind_ok_eq_error.mp last)
  | null | bool | num | str | arr =>
      simp only [Token.readAt] at failed
      cases failed
      exact reaches.blame rfl

theorem Value.readArguments_pointsInto (fields : List (String × Json)) {path : Path}
    (under : root.ReachesUnder path "args" fields)
    (failed : Value.readArguments path fields = .error e) : e.PointsInto root := by
  cases fields with
  | nil => simp [Value.readArguments] at failed
  | cons field rest =>
      cases field with
      | mk name value =>
          simp only [Value.readArguments] at failed
          split at failed
          next same => exact Value.readList_pointsInto value (under.head same) failed
          next other => exact Value.readArguments_pointsInto rest (under.tail other) failed

theorem Value.readList_pointsInto (document : Json) {path : Path}
    (reaches : root.Reaches path document) (failed : Value.readList path document = .error e) :
    e.PointsInto root := by
  cases document with
  | arr items =>
      simp only [Value.readList] at failed
      exact Value.readAll_pointsInto items reaches.items failed
  | null | bool | num | str | obj =>
      simp only [Value.readList] at failed
      cases failed
      exact reaches.blame rfl

theorem Value.readAll_pointsInto (items : List Json) {path : Path} {position : Nat}
    (listed : root.ReachesAll path position items)
    (failed : Value.readAll path position items = .error e) : e.PointsInto root := by
  cases items with
  | nil => simp [Value.readAll] at failed
  | cons item rest =>
      simp only [Value.readAll] at failed
      apply (bind_eq_error.mp failed).elim
      · exact Value.readAt_pointsInto item listed.head
      · intro later
        obtain ⟨value?, _, later⟩ := later
        apply (bind_eq_error.mp later).elim
        · exact Value.readAll_pointsInto rest listed.tail
        · intro returned
          obtain ⟨_, _, returned⟩ := returned
          cases value? <;> cases returned

end

end FlowLogic
