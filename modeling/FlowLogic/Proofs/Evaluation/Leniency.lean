import FlowLogic.Proofs.Outcome
import FlowLogic.Evaluation.Basic

/-!
Strict and lenient evaluation side by side.  They part at the conversion of the result alone: the
misfit that ends the one is `null` in the other.  The fields of a list of members are read strictly
by both, so a misfit in such a list ends both.
-/

namespace FlowLogic

open Outcome

variable {env : Environment} {data : Bindings} {misfit : CoercionError}

namespace Value

/-- The value is a list of members, and a field of the list has a result that does not fit. -/
def ListsMisfit (env : Environment) (data : Bindings) (v : Value) : Prop :=
  ∃ label kind payload members, v.expression = ⟨[.display label kind payload members], false⟩ ∧
    kind.listsMembers = true ∧
    ∃ w misfit, Member.reference w ∈ members ∧ w.result env data = .error (.coercion misfit)

theorem convert_of_ok {dataType : Option DataType} {given result : Json}
    (converted : convert true dataType given = .ok result) :
    convert false dataType given = .ok result := by
  cases dataType with
  | none => exact converted
  | some dataType =>
      simp only [convert] at converted ⊢
      split at converted
      next => exact converted
      next => cases converted

theorem convert_of_error {dataType : Option DataType} {given : Json} {error : FlowError}
    (failed : convert true dataType given = .error error) :
    (∃ misfit, error = .coercion misfit) ∧ convert false dataType given = .ok .null := by
  cases dataType with
  | none => cases failed
  | some dataType =>
      simp only [convert] at failed ⊢
      split at failed
      next => cases failed
      next misfit _ =>
        cases failed
        exact ⟨⟨misfit, rfl⟩, rfl⟩

def given (env : Environment) (data : Bindings) (v : Value) : Except FlowError Json :=
  match v.literalResult? with
  | some result => .ok result
  | none => v.expression.resolve env data

theorem resolve_eq_given (strict : Bool) (v : Value) :
    v.resolve env data strict = v.given env data >>= convert strict v.dataType := by
  obtain ⟨kind, e, dataType⟩ := v
  rw [resolve, given]
  cases Value.literalResult? ⟨kind, e, dataType⟩ <;> rfl

end Value

namespace Member

theorem resolveAll_ne_ok {members : List Member} {w : Value} {error : FlowError}
    (member : .reference w ∈ members) (failed : w.result env data = .error error)
    (ids : List Json) : resolveAll env data members ≠ .ok ids := by
  intro resolved
  induction members generalizing ids with
  | nil => cases member
  | cons first rest ih =>
      cases first with
      | plain id =>
          obtain ⟨others, resolvedRest, _⟩ := bind_eq_ok.mp resolved
          exact ih (by simpa using member) others resolvedRest
      | reference v =>
          simp only [resolveAll] at resolved
          obtain ⟨result, succeeded, resolved⟩ := bind_eq_ok.mp resolved
          obtain ⟨others, resolvedRest, _⟩ := bind_eq_ok.mp resolved
          rcases List.mem_cons.mp member with same | member
          · cases same
            cases succeeded.symm.trans failed
          · exact ih member others resolvedRest
      | blankReference => exact ih (by simpa using member) ids resolved
      | brokenReference e => cases resolved

theorem exists_reference_of_misfit {members : List Member}
    (failed : resolveAll env data members = .error (.coercion misfit)) :
    ∃ w, .reference w ∈ members ∧ w.result env data = .error (.coercion misfit) := by
  induction members with
  | nil => cases failed
  | cons first rest ih =>
      have later : resolveAll env data rest = .error (.coercion misfit) →
          ∃ w, .reference w ∈ first :: rest ∧ w.result env data = .error (.coercion misfit) := by
        intro failedRest
        obtain ⟨w, member, found⟩ := ih failedRest
        exact ⟨w, List.mem_cons_of_mem first member, found⟩
      cases first with
      | plain id =>
          rcases bind_eq_error.mp failed with failedRest | ⟨_, _, returned⟩
          · exact later failedRest
          · cases returned
      | reference v =>
          simp only [resolveAll] at failed
          rcases bind_eq_error.mp failed with failedFirst | ⟨_, _, failed⟩
          · exact ⟨v, List.mem_cons_self, failedFirst⟩
          · rcases bind_eq_error.mp failed with failedRest | ⟨_, _, returned⟩
            · exact later failedRest
            · cases returned
      | blankReference => exact later failed
      | brokenReference e => cases failed

end Member

namespace Expression

theorem runProgram_ne_misfit (e : Expression) :
    e.runProgram env data ≠ .error (.coercion misfit) := by
  intro failed
  unfold runProgram at failed
  rcases bind_eq_error.mp failed with failedChain | ⟨_, _, failed⟩
  · obtain ⟨_, _, renamed⟩ := mapError_eq_error.mp failedChain
    cases renamed
  · rcases bind_eq_error.mp failed with failedLowering | ⟨_, _, failed⟩
    · obtain ⟨_, _, renamed⟩ := mapError_eq_error.mp failedLowering
      cases renamed
    · obtain ⟨_, _, renamed⟩ := mapError_eq_error.mp failed
      cases renamed

theorem listsMembers_of_misfit {e : Expression}
    (failed : e.resolve env data = .error (.coercion misfit)) :
    ∃ label kind payload members, e = ⟨[.display label kind payload members], false⟩ ∧
      kind.listsMembers = true ∧
      Member.resolveAll env data members = .error (.coercion misfit) := by
  unfold resolve at failed
  split at failed
  next label kind payload members =>
    cases lists : kind.listsMembers with
    | true =>
        rw [if_pos lists] at failed
        rcases bind_eq_error.mp failed with failedList | ⟨_, _, returned⟩
        · exact ⟨label, kind, payload, members, rfl, lists, failedList⟩
        · cases returned
    | false =>
        rw [if_neg (by simp [lists])] at failed
        cases fixed : kind.fixedValue payload with
        | ok value => simp [fixed] at failed
        | error refused => simp [fixed] at failed
  next => exact absurd failed (runProgram_ne_misfit _)

end Expression

namespace Value

theorem ListsMisfit.given_ne_ok {v : Value} (lists : v.ListsMisfit env data) (result : Json) :
    v.given env data ≠ .ok result := by
  obtain ⟨label, kind, payload, members, shown, listed, w, _, member, failed⟩ := lists
  intro found
  have notLiteral : v.literalResult? = none := by
    simp [literalResult?, literal?, shown, Expression.single?]
  simp only [given, notLiteral, shown, Expression.resolve, if_pos listed] at found
  obtain ⟨ids, resolved, _⟩ := bind_eq_ok.mp found
  exact Member.resolveAll_ne_ok member failed ids resolved

theorem listsMisfit_of_given {v : Value} (failed : v.given env data = .error (.coercion misfit)) :
    v.ListsMisfit env data := by
  unfold given at failed
  split at failed
  next => cases failed
  next =>
    obtain ⟨label, kind, payload, members, shown, listed, failedList⟩ :=
      Expression.listsMembers_of_misfit failed
    obtain ⟨w, member, failedField⟩ := Member.exists_reference_of_misfit failedList
    exact ⟨label, kind, payload, members, shown, listed, w, misfit, member, failedField⟩

/-- Lenient evaluation has the outcome of strict evaluation, but for a result that does not fit its
type, which is `null`.  A misfit in a list of members is the error of both. -/
theorem lenientResult_of_result (env : Environment) (data : Bindings) (v : Value) :
    (∀ result, v.result env data = .ok result → v.lenientResult env data = .ok result) ∧
      (∀ error, v.result env data = .error error → (∀ misfit, error ≠ .coercion misfit) →
        v.lenientResult env data = .error error) ∧
      ∀ misfit, v.result env data = .error (.coercion misfit) →
        (v.ListsMisfit env data → v.lenientResult env data = .error (.coercion misfit)) ∧
          (¬ v.ListsMisfit env data → v.lenientResult env data = .ok .null) := by
  simp only [result, lenientResult, resolve_eq_given]
  cases found : v.given env data with
  | error failure =>
      refine ⟨?_, fun _ failed _ => failed, ?_⟩
      · intro result succeeded
        cases succeeded
      · intro misfit failed
        cases failed
        exact ⟨fun _ => rfl, fun unlisted => absurd (listsMisfit_of_given found) unlisted⟩
  | ok given =>
      simp only [ok_bind]
      refine ⟨fun _ => convert_of_ok, ?_, ?_⟩
      · intro error failed other
        obtain ⟨⟨misfit, same⟩, _⟩ := convert_of_error failed
        exact absurd same (other misfit)
      · intro misfit failed
        exact ⟨fun lists => absurd found (lists.given_ne_ok given),
          fun _ => (convert_of_error failed).2⟩

theorem lenientResult_of_result_unfit :
    ∃ (env : Environment) (data : Bindings) (v : Value) (misfit : CoercionError),
      v.result env data = .error (.coercion misfit) ∧ ¬ v.ListsMisfit env data ∧
        v.lenientResult env data = .ok .null := by
  let v : Value := ⟨.const, ⟨[.input (.ofText .const "abc")], false⟩, some .number⟩
  have unlisted : ¬ v.ListsMisfit ⟨.empty, 0⟩ [] := by
    rintro ⟨_, _, _, _, shown, _⟩
    cases shown
  obtain ⟨_, _, misfits⟩ := lenientResult_of_result ⟨.empty, 0⟩ [] v
  have failed : v.result ⟨.empty, 0⟩ [] = .error (.coercion ⟨.number, .string⟩) := rfl
  exact ⟨⟨.empty, 0⟩, [], v, _, failed, unlisted, (misfits _ failed).2 unlisted⟩

theorem misfit_escapes_from_member_list :
    ∃ (document : Json) (v : Value) (misfit : CoercionError),
      Value.read document = .ok (some v) ∧
        v.result ⟨.empty, 0⟩ [] = .error (.coercion misfit) ∧
        v.lenientResult ⟨.empty, 0⟩ [] = .error (.coercion misfit) := by
  refine ⟨.obj [("type", .str "expression"), ("expression_value", .arr [
    .obj [("type", .str "member"), ("member_value", .arr [
      .obj [("type", .str "field"), ("value", .obj [("type", .str "const"),
        ("const_value", .arr [.obj [("type", .str "input"), ("value", .str "abc")]]),
        ("data_type", .str "number")])]])]])], _, _, rfl, rfl, rfl⟩

end Value

end FlowLogic
