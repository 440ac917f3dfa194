import FlowLogic.Definition.BuildError
import FlowLogic.Proofs.Number.Numerals
import Mathlib.Data.List.Induction

/-!
Paths as texts.  Keys stand between points and indexes in brackets, so a path reads back from its
text as long as no key in it is empty or has a point or an opening bracket in it.
-/

namespace FlowLogic

/-- A key that is told apart from what stands around it in the text of a path. -/
def Step.IsPlain : Step → Prop
  | .key name => name ≠ "" ∧ '.' ∉ name.toList ∧ '[' ∉ name.toList
  | .index _ => True

instance : DecidablePred Step.IsPlain
  | .key name =>
    inferInstanceAs (Decidable (name ≠ "" ∧ '.' ∉ name.toList ∧ '[' ∉ name.toList))
  | .index _ => inferInstanceAs (Decidable True)

def Step.chars : Step → List Char
  | .key name => '.' :: name.toList
  | .index position => '[' :: Decimal.digitChars position ++ [']']

namespace Path

/-- Where the text of a path is being read: in a key, between brackets, or before a step. -/
inductive Place where
  | key (name : List Char)
  | index (digits : List Char)
  | step

def opens? (c : Char) : Option Place :=
  if c = '.' then some (.key []) else if c = '[' then some (.index []) else none

def steps? : Place → List Char → Option Path
  | .key name, [] => if name = [] then none else some [.key (String.ofList name)]
  | .key name, c :: rest =>
    match opens? c with
    | none => steps? (.key (name ++ [c])) rest
    | some next =>
      if name = [] then none else (steps? next rest).map (.key (String.ofList name) :: ·)
  | .index _, [] => none
  | .index digits, c :: rest =>
    if Text.isAsciiDigit c then steps? (.index (digits ++ [c])) rest
    else if c = ']' ∧ digits ≠ [] then
      (steps? .step rest).map (.index (Decimal.digitsValue digits) :: ·)
    else none
  | .step, [] => some []
  | .step, c :: rest => (opens? c).bind (steps? · rest)

def withPoint : List Char → List Char
  | [] => []
  | c :: rest => if c = '[' then c :: rest else '.' :: c :: rest

def read? (text : String) : Option Path := steps? .step (withPoint text.toList)

variable {path : Path}

theorem render_key (path : Path) (name : String) :
    (path.key name).render =
      if path.render.isEmpty then name else path.render ++ "." ++ name := by
  simp only [render, key, List.foldl_append]
  rfl

theorem toList_render_index (path : Path) (position : Nat) :
    (path.index position).render.toList = path.render.toList ++ (Step.index position).chars := by
  simp [render, index, List.foldl_append, Step.chars, Decimal.digitChars]

theorem withPoint_append {text : List Char} (filled : text ≠ []) (rest : List Char) :
    withPoint (text ++ rest) = withPoint text ++ rest := by
  cases text with
  | nil => exact absurd rfl filled
  | cons c others =>
      simp only [List.cons_append, withPoint]
      split <;> rfl

theorem withPoint_key {name : String} (plain : (Step.key name).IsPlain) :
    withPoint name.toList = (Step.key name).chars := by
  obtain ⟨filled, _, unbracketed⟩ := plain
  rw [Step.chars]
  cases letters : name.toList with
  | nil => exact absurd (by simpa using letters) filled
  | cons c rest =>
      rw [letters] at unbracketed
      have first : c ≠ '[' := fun same => unbracketed (same ▸ List.mem_cons_self)
      rw [withPoint, if_neg first]

theorem withPoint_render (plain : ∀ step ∈ path, step.IsPlain) :
    withPoint path.render.toList = path.flatMap Step.chars := by
  induction path using List.reverseRecOn with
  | nil => rfl
  | append_singleton path step ih =>
      rw [List.forall_mem_append, List.forall_mem_singleton] at plain
      rw [List.flatMap_append, List.flatMap_singleton, ← ih plain.1]
      cases step with
      | key name =>
          rw [← key, render_key]
          split
          next empty =>
            have none : (render path).toList = [] := by simpa using empty
            rw [none, withPoint, List.nil_append, withPoint_key plain.2]
          next filled =>
            have some : (render path).toList ≠ [] := by simpa using filled
            rw [String.append_assoc, String.toList_append, withPoint_append some]
            simp [Step.chars]
      | index position =>
          rw [← index, toList_render_index]
          cases (render path).toList with
          | nil => rfl
          | cons c rest => exact withPoint_append (List.cons_ne_nil c rest) _

theorem steps?_name {name : List Char} (inside : ∀ c ∈ name, opens? c = none)
    (before rest : List Char) :
    steps? (.key before) (name ++ rest) = steps? (.key (before ++ name)) rest := by
  induction name generalizing before with
  | nil => rw [List.nil_append, List.append_nil]
  | cons c others ih =>
      rw [List.forall_mem_cons] at inside
      rw [List.cons_append, steps?, inside.1]
      dsimp only
      rw [ih inside.2, List.append_assoc, List.singleton_append]

theorem steps?_digits {digits : List Char} (run : Numeral.IsRun digits) (before rest : List Char) :
    steps? (.index before) (digits ++ rest) = steps? (.index (before ++ digits)) rest := by
  induction digits generalizing before with
  | nil => rw [List.nil_append, List.append_nil]
  | cons c others ih =>
      obtain ⟨digit, runOthers⟩ := List.forall_mem_cons.mp run
      rw [List.cons_append, steps?, if_pos digit, ih runOthers, List.append_assoc,
        List.singleton_append]

theorem steps?_key {name : List Char} (filled : name ≠ []) (path : Path) :
    steps? (.key name) (path.flatMap Step.chars) =
      (steps? .step (path.flatMap Step.chars)).map (.key (String.ofList name) :: ·) := by
  cases path with
  | nil => simp [steps?, filled]
  | cons step rest => cases step <;> simp [Step.chars, steps?, opens?, filled]

theorem steps?_chars (plain : ∀ step ∈ path, step.IsPlain) :
    steps? .step (path.flatMap Step.chars) = some path := by
  induction path with
  | nil => rfl
  | cons step rest ih =>
      rw [List.forall_mem_cons] at plain
      have following := ih plain.2
      rw [List.flatMap_cons]
      cases step with
      | key name =>
          obtain ⟨filled, unpointed, unbracketed⟩ := plain.1
          have inside : ∀ c ∈ name.toList, opens? c = none := by
            intro c member
            have point : c ≠ '.' := fun same => unpointed (same ▸ member)
            have bracket : c ≠ '[' := fun same => unbracketed (same ▸ member)
            rw [opens?, if_neg point, if_neg bracket]
          have letters : name.toList ≠ [] := by simpa using filled
          calc steps? .step ((Step.key name).chars ++ rest.flatMap Step.chars)
              = steps? (.key []) (name.toList ++ rest.flatMap Step.chars) := rfl
            _ = steps? (.key name.toList) (rest.flatMap Step.chars) := steps?_name inside [] _
            _ = some (.key name :: rest) := by
                rw [steps?_key letters, following, Option.map_some, String.ofList_toList]
      | index position =>
          have run := Decimal.isRun_digitChars position
          have filled := Decimal.digitChars_ne_nil position
          have closing : steps? (.index (Decimal.digitChars position))
              (']' :: rest.flatMap Step.chars) = some (.index position :: rest) := by
            rw [steps?, if_neg (by decide), if_pos ⟨rfl, filled⟩, following, Option.map_some,
              Decimal.digitsValue_digitChars]
          calc steps? .step ((Step.index position).chars ++ rest.flatMap Step.chars)
              = steps? (.index []) (Decimal.digitChars position ++
                  ']' :: rest.flatMap Step.chars) := by
                simp [Step.chars, steps?, opens?]
            _ = steps? (.index (Decimal.digitChars position)) (']' :: rest.flatMap Step.chars) :=
                steps?_digits run [] _
            _ = some (.index position :: rest) := closing

/-- The text of a path of plain keys stands for that path. -/
theorem read?_render (plain : ∀ step ∈ path, step.IsPlain) : read? path.render = some path := by
  rw [read?, withPoint_render plain, steps?_chars plain]

end Path

end FlowLogic
