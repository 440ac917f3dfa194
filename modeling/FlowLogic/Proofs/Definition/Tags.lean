import FlowLogic.Definition.Tag

/-!
Tags of tokens with a suffix.  Of the exact tags only one has an underscore in it; behind any other
an underscore and a suffix change nothing.
-/

namespace FlowLogic.TokenKind

def jointTag : String := "department_names"

theorem exactTag?_eq_some {tag : String} {kind : TokenKind} (exact : exactTag? tag = some kind) :
    tag = jointTag ∨ '_' ∉ tag.toList := by
  unfold exactTag? at exact
  split at exact <;> cases exact <;> decide

theorem stem?_suffixed {tag : String} (plain : '_' ∉ tag.toList) (suffix : String) :
    stem? (tag ++ "_" ++ suffix) = some tag := by
  have chars : (tag ++ "_" ++ suffix).toList = tag.toList ++ '_' :: suffix.toList := by simp
  have before : ∀ c ∈ tag.toList, (c != '_') = true := by
    intro c member
    simpa using fun same : c = '_' => plain (same ▸ member)
  rw [stem?, chars, if_pos (by simp), List.takeWhile_append_of_pos before]
  simp

theorem ofTag?_suffixed {tag : String} {kind : TokenKind} (exact : exactTag? tag = some kind)
    (apart : tag ≠ jointTag) (suffix : String) : ofTag? (tag ++ "_" ++ suffix) = some kind := by
  have plain : '_' ∉ tag.toList := (exactTag?_eq_some exact).resolve_left apart
  have stem := stem?_suffixed plain suffix
  have inexact : exactTag? (tag ++ "_" ++ suffix) = none := by
    cases found : exactTag? (tag ++ "_" ++ suffix) with
    | none => rfl
    | some other =>
        rcases exactTag?_eq_some found with joint | plainWhole
        · -- What stands before the underscore of the joint tag is no tag.
          rw [joint] at stem
          obtain rfl : "department" = tag := Option.some.inj stem
          cases exact
        · simp at plainWhole
  rw [ofTag?, inexact, stem, Option.none_or, Option.bind_some, exact]

end FlowLogic.TokenKind
