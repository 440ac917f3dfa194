import FlowLogic.Json.Comparison
import FlowLogic.Proofs.Dict
import FlowLogic.Proofs.Json.Numbers

/-!
The two equalities of values.  Strict equality is an equivalence; loose equality is reflexive and
symmetric and holds wherever strict equality does.  Objects are compared entry by entry, which for
objects in the order of their keys is to look up every key of one in the other.
-/

namespace FlowLogic

namespace Binary64

theorem numEq_iff {x y : Binary64} :
    x.numEq y = true ↔ (∃ negative, x = .infinite negative ∧ y = .infinite negative) ∨
      ∃ a b, x = .finite a ∧ y = .finite b ∧ a.scaled = b.scaled := by
  cases x with
  | nan => simp [numEq, compare]
  | infinite negative =>
      cases y with
      | nan => simp [numEq, compare]
      | infinite other => cases negative <;> cases other <;> simp [numEq, compare]
      | finite b => cases negative <;> simp [numEq, compare]
  | finite a =>
      cases y with
      | nan => simp [numEq, compare]
      | infinite other => cases other <;> simp [numEq, compare]
      | finite b => simp [numEq, compare]

theorem numEq_self {x : Binary64} (number : x ≠ .nan) : x.numEq x = true := by
  rw [numEq_iff]
  cases x with
  | nan => exact absurd rfl number
  | infinite negative => exact .inl ⟨negative, rfl, rfl⟩
  | finite a => exact .inr ⟨a, a, rfl, rfl, rfl⟩

theorem numEq_comm (x y : Binary64) : x.numEq y = y.numEq x := by
  have swap : ∀ {x y : Binary64}, x.numEq y = true → y.numEq x = true := by
    intro x y equal
    rw [numEq_iff] at equal ⊢
    rcases equal with ⟨negative, rfl, rfl⟩ | ⟨a, b, rfl, rfl, same⟩
    · exact .inl ⟨negative, rfl, rfl⟩
    · exact .inr ⟨b, a, rfl, rfl, same.symm⟩
  rw [Bool.eq_iff_iff]
  exact ⟨swap, swap⟩

theorem numEq_trans {x y z : Binary64} (first : x.numEq y = true) (second : y.numEq z = true) :
    x.numEq z = true := by
  rw [numEq_iff] at first second ⊢
  rcases first with ⟨negative, rfl, rfl⟩ | ⟨a, b, rfl, rfl, same⟩
  · rcases second with ⟨other, infinite, rfl⟩ | ⟨_, _, finite, _⟩
    · cases infinite
      exact .inl ⟨negative, rfl, rfl⟩
    · cases finite
  · rcases second with ⟨_, infinite, _⟩ | ⟨b', c, finite, rfl, again⟩
    · cases infinite
    · cases finite
      exact .inr ⟨a, c, rfl, rfl, same.trans again⟩

theorem ofUnits_ne_nan (negative : Bool) (num den : Nat) : ofUnits negative num den ≠ .nan := by
  rcases ofUnits_cases negative num den with ⟨x, finite⟩ | infinite
  · simp [finite]
  · simp [infinite]

end Binary64

theorem JsonNumber.toBinary64_ne_nan (n : JsonNumber) : n.toBinary64 ≠ .nan := by
  cases n with
  | int value =>
      rw [toBinary64, Binary64.ofInt]
      exact Binary64.ofUnits_ne_nan _ _ _
  | float x => simp [toBinary64]

theorem Numeral.toBinary64?_ne_nan (n : Numeral) : n.toBinary64? ≠ some .nan := by
  rw [toBinary64?, Decimal.toBinary64_eq_ofUnits]
  simpa using fun _ => Binary64.ofUnits_ne_nan _ _ _

namespace Json

theorem toNumber?_ne_nan (value : Json) : value.toNumber? ≠ some .nan := by
  cases value with
  | num n => simpa [toNumber?] using n.toBinary64_ne_nan
  | str text =>
      rw [toNumber?, ne_eq, Option.bind_eq_some_iff]
      rintro ⟨numeral, _, nan⟩
      exact numeral.toBinary64?_ne_nan nan
  | null | bool | arr | obj => simp [toNumber?]

theorem scalarEq_self (value : Json) : scalarEq value value = true := by
  have number := value.toNumber?_ne_nan
  unfold scalarEq
  cases numeric : value.toNumber? with
  | none => simp
  | some x => exact Binary64.numEq_self fun nan => number (by rw [numeric, nan])

theorem scalarEq_comm (a b : Json) : scalarEq a b = scalarEq b a := by
  unfold scalarEq
  cases a.toNumber? with
  | none => cases b.toNumber? <;> exact Bool.beq_comm
  | some x =>
      cases b.toNumber? with
      | none => exact Bool.beq_comm
      | some y => exact Binary64.numEq_comm x y

mutual

theorem strictEq_self (value : Json) : strictEq value value = true := by
  cases value with
  | null => rfl
  | bool | str => simp [strictEq]
  | num n =>
      rw [strictEq]
      exact Binary64.numEq_self n.toBinary64_ne_nan
  | arr items =>
      rw [strictEq]
      exact strictEqItems_self items
  | obj fields =>
      rw [strictEq]
      exact strictEqFields_self fields

theorem strictEqItems_self (items : List Json) : strictEqItems items items = true := by
  cases items with
  | nil => rfl
  | cons item rest => simp [strictEqItems, strictEq_self item, strictEqItems_self rest]

theorem strictEqFields_self (fields : List (String × Json)) :
    strictEqFields fields fields = true := by
  cases fields with
  | nil => rfl
  | cons field rest =>
      cases field with
      | mk key value => simp [strictEqFields, strictEq_self value, strictEqFields_self rest]

end

mutual

theorem strictEq_comm (a b : Json) : strictEq a b = strictEq b a := by
  cases a with
  | arr items =>
      cases b with
      | arr others => simp only [strictEq, strictEqItems_comm items others]
      | null | bool | num | str | obj => rfl
  | obj fields =>
      cases b with
      | obj others => simp only [strictEq, strictEqFields_comm fields others]
      | null | bool | num | str | arr => rfl
  | num n =>
      cases b with
      | num m => simp only [strictEq, Binary64.numEq_comm n.toBinary64]
      | null | bool | str | arr | obj => rfl
  | null | bool | str => cases b <;> simp [strictEq, Bool.beq_comm]

theorem strictEqItems_comm (items others : List Json) :
    strictEqItems items others = strictEqItems others items := by
  cases items with
  | nil => cases others <;> rfl
  | cons item rest =>
      cases others with
      | nil => rfl
      | cons other others =>
          simp only [strictEqItems, strictEq_comm item other, strictEqItems_comm rest others]

theorem strictEqFields_comm (fields others : List (String × Json)) :
    strictEqFields fields others = strictEqFields others fields := by
  cases fields with
  | nil => cases others <;> rfl
  | cons field rest =>
      cases field with
      | mk key value =>
          cases others with
          | nil => rfl
          | cons other others =>
              simp only [strictEqFields, strictEq_comm value other.2, Bool.beq_comm (a := key),
                strictEqFields_comm rest others]

end

/-! What is strictly equal to a value of each kind. -/

section

variable {b : Json}

theorem strictEq_null : strictEq .null b = true ↔ b = .null := by
  cases b <;> simp [strictEq]

theorem strictEq_bool {truth : Bool} : strictEq (.bool truth) b = true ↔ b = .bool truth := by
  cases b with
  | bool other => simp [strictEq, eq_comm (a := truth)]
  | null | num | str | arr | obj => simp [strictEq]

theorem strictEq_num {n : JsonNumber} :
    strictEq (.num n) b = true ↔ ∃ m, b = .num m ∧ n.toBinary64.numEq m.toBinary64 = true := by
  cases b <;> simp [strictEq]

theorem strictEq_str {text : String} : strictEq (.str text) b = true ↔ b = .str text := by
  cases b with
  | str other => simp [strictEq, eq_comm (a := text)]
  | null | bool | num | arr | obj => simp [strictEq]

theorem strictEq_arr {items : List Json} :
    strictEq (.arr items) b = true ↔
      ∃ others, b = .arr others ∧ strictEqItems items others = true := by
  cases b <;> simp [strictEq]

theorem strictEq_obj {fields : List (String × Json)} :
    strictEq (.obj fields) b = true ↔
      ∃ others, b = .obj others ∧ strictEqFields fields others = true := by
  cases b <;> simp [strictEq]

theorem strictEqItems_nil {others : List Json} : strictEqItems [] others = true ↔ others = [] := by
  cases others <;> simp [strictEqItems]

theorem strictEqItems_cons {item : Json} {rest others : List Json} :
    strictEqItems (item :: rest) others = true ↔
      ∃ other more, others = other :: more ∧ strictEq item other = true ∧
        strictEqItems rest more = true := by
  cases others <;> simp [strictEqItems]

theorem strictEqFields_nil {others : List (String × Json)} :
    strictEqFields [] others = true ↔ others = [] := by
  cases others <;> simp [strictEqFields]

theorem strictEqFields_cons {key : String} {value : Json} {rest others : List (String × Json)} :
    strictEqFields ((key, value) :: rest) others = true ↔
      ∃ other more, others = (key, other) :: more ∧ strictEq value other = true ∧
        strictEqFields rest more = true := by
  cases others with
  | nil => simp [strictEqFields]
  | cons other more =>
      obtain ⟨otherKey, other⟩ := other
      simp only [strictEqFields, Bool.and_eq_true, beq_iff_eq, List.cons.injEq, Prod.mk.injEq]
      constructor
      · rintro ⟨⟨rfl, equal⟩, equalRest⟩
        exact ⟨other, more, ⟨⟨rfl, rfl⟩, rfl⟩, equal, equalRest⟩
      · rintro ⟨_, _, ⟨⟨rfl, rfl⟩, rfl⟩, equal, equalRest⟩
        exact ⟨⟨rfl, equal⟩, equalRest⟩

end

mutual

theorem strictEq_trans {a b c : Json} (first : strictEq a b = true) (second : strictEq b c = true) :
    strictEq a c = true := by
  cases a with
  | null =>
      obtain rfl := strictEq_null.mp first
      exact second
  | bool truth =>
      obtain rfl := strictEq_bool.mp first
      exact second
  | num n =>
      obtain ⟨m, rfl, first⟩ := strictEq_num.mp first
      obtain ⟨l, rfl, second⟩ := strictEq_num.mp second
      exact strictEq_num.mpr ⟨l, rfl, Binary64.numEq_trans first second⟩
  | str text =>
      obtain rfl := strictEq_str.mp first
      exact second
  | arr items =>
      obtain ⟨others, rfl, first⟩ := strictEq_arr.mp first
      obtain ⟨third, rfl, second⟩ := strictEq_arr.mp second
      exact strictEq_arr.mpr ⟨third, rfl, strictEqItems_trans first second⟩
  | obj fields =>
      obtain ⟨others, rfl, first⟩ := strictEq_obj.mp first
      obtain ⟨third, rfl, second⟩ := strictEq_obj.mp second
      exact strictEq_obj.mpr ⟨third, rfl, strictEqFields_trans first second⟩

theorem strictEqItems_trans {items others third : List Json}
    (first : strictEqItems items others = true) (second : strictEqItems others third = true) :
    strictEqItems items third = true := by
  cases items with
  | nil =>
      obtain rfl := strictEqItems_nil.mp first
      exact second
  | cons item rest =>
      obtain ⟨other, others, rfl, first, firstRest⟩ := strictEqItems_cons.mp first
      obtain ⟨last, third, rfl, second, secondRest⟩ := strictEqItems_cons.mp second
      exact strictEqItems_cons.mpr
        ⟨last, third, rfl, strictEq_trans first second, strictEqItems_trans firstRest secondRest⟩

theorem strictEqFields_trans {fields others third : List (String × Json)}
    (first : strictEqFields fields others = true) (second : strictEqFields others third = true) :
    strictEqFields fields third = true := by
  cases fields with
  | nil =>
      obtain rfl := strictEqFields_nil.mp first
      exact second
  | cons field rest =>
      cases field with
      | mk key value =>
          obtain ⟨other, others, rfl, first, firstRest⟩ := strictEqFields_cons.mp first
          obtain ⟨last, third, rfl, second, secondRest⟩ := strictEqFields_cons.mp second
          exact strictEqFields_cons.mpr
            ⟨last, third, rfl, strictEq_trans first second,
              strictEqFields_trans firstRest secondRest⟩

end

mutual

theorem looseEq_comm (a b : Json) : looseEq a b = looseEq b a := by
  cases a with
  | arr items =>
      cases b with
      | arr others => simp only [looseEq, looseEqItems_comm items others]
      | null | bool | num | str | obj => simp [looseEq]
  | obj fields =>
      cases b with
      | obj others => simp only [looseEq, looseEqFields_comm fields others]
      | null | bool | num | str | arr => simp [looseEq]
  | null => cases b <;> simp [looseEq]
  | bool truth => cases b <;> simp [looseEq, isTrue, Bool.beq_comm]
  | num | str => cases b <;> simp [looseEq, scalarEq_comm]

theorem looseEqItems_comm (items others : List Json) :
    looseEqItems items others = looseEqItems others items := by
  cases items with
  | nil => cases others <;> rfl
  | cons item rest =>
      cases others with
      | nil => rfl
      | cons other others =>
          simp only [looseEqItems, looseEq_comm item other, looseEqItems_comm rest others]

theorem looseEqFields_comm (fields others : List (String × Json)) :
    looseEqFields fields others = looseEqFields others fields := by
  cases fields with
  | nil => cases others <;> rfl
  | cons field rest =>
      cases field with
      | mk key value =>
          cases others with
          | nil => rfl
          | cons other others =>
              simp only [looseEqFields, looseEq_comm value other.2, Bool.beq_comm (a := key),
                looseEqFields_comm rest others]

end

mutual

theorem looseEq_of_strictEq {a b : Json} (equal : strictEq a b = true) : looseEq a b = true := by
  cases a with
  | null =>
      obtain rfl := strictEq_null.mp equal
      rfl
  | bool truth =>
      obtain rfl := strictEq_bool.mp equal
      simp [looseEq, isTrue]
  | num n =>
      obtain ⟨m, rfl, same⟩ := strictEq_num.mp equal
      simpa [looseEq, scalarEq, toNumber?] using same
  | str text =>
      obtain rfl := strictEq_str.mp equal
      simpa [looseEq] using scalarEq_self (.str text)
  | arr items =>
      obtain ⟨others, rfl, equal⟩ := strictEq_arr.mp equal
      rw [looseEq]
      exact looseEqItems_of_strictEqItems equal
  | obj fields =>
      obtain ⟨others, rfl, equal⟩ := strictEq_obj.mp equal
      rw [looseEq]
      exact looseEqFields_of_strictEqFields equal

theorem looseEqItems_of_strictEqItems {items others : List Json}
    (equal : strictEqItems items others = true) : looseEqItems items others = true := by
  cases items with
  | nil =>
      obtain rfl := strictEqItems_nil.mp equal
      rfl
  | cons item rest =>
      obtain ⟨other, others, rfl, equal, equalRest⟩ := strictEqItems_cons.mp equal
      simp [looseEqItems, looseEq_of_strictEq equal, looseEqItems_of_strictEqItems equalRest]

theorem looseEqFields_of_strictEqFields {fields others : List (String × Json)}
    (equal : strictEqFields fields others = true) : looseEqFields fields others = true := by
  cases fields with
  | nil =>
      obtain rfl := strictEqFields_nil.mp equal
      rfl
  | cons field rest =>
      cases field with
      | mk key value =>
          obtain ⟨other, others, rfl, equal, equalRest⟩ := strictEqFields_cons.mp equal
          simp [looseEqFields, looseEq_of_strictEq equal, looseEqFields_of_strictEqFields equalRest]

end

/-! Objects are equal if they have one size and what one has under a key the other has too. -/

theorem strictEqFields_iff {fields others : List (String × Json)} :
    strictEqFields fields others = true ↔
      List.Forall₂ (fun x y => x.1 = y.1 ∧ strictEq x.2 y.2 = true) fields others := by
  induction fields generalizing others with
  | nil => rw [strictEqFields_nil, List.forall₂_nil_left_iff]
  | cons field rest ih => cases others <;> simp [strictEqFields, ih, and_assoc]

theorem looseEqFields_iff {fields others : List (String × Json)} :
    looseEqFields fields others = true ↔
      List.Forall₂ (fun x y => x.1 = y.1 ∧ looseEq x.2 y.2 = true) fields others := by
  induction fields generalizing others with
  | nil => cases others <;> simp [looseEqFields]
  | cons field rest ih => cases others <;> simp [looseEqFields, ih, and_assoc]

section

variable {fields others : Dict Json} (ordered : fields.Ordered) (orderedOthers : others.Ordered)

include ordered orderedOthers

theorem strictEq_obj_iff_lookups :
    strictEq (.obj fields) (.obj others) = true ↔
      fields.length = others.length ∧ ∀ key value, fields.value? key = some value →
        ∃ other, others.value? key = some other ∧ strictEq value other = true := by
  rw [strictEq, strictEqFields_iff]
  exact Dict.forall₂_iff ordered orderedOthers fun value other => strictEq value other = true

theorem looseEq_obj_iff_lookups :
    looseEq (.obj fields) (.obj others) = true ↔
      fields.length = others.length ∧ ∀ key value, fields.value? key = some value →
        ∃ other, others.value? key = some other ∧ looseEq value other = true := by
  rw [looseEq, looseEqFields_iff]
  exact Dict.forall₂_iff ordered orderedOthers fun value other => looseEq value other = true

end

/-- Strict equality is an equivalence, loose equality is reflexive and symmetric, and strictly equal
values are loosely equal. -/
theorem strictEq_equivalence_within_looseEq :
    Equivalence (fun a b => strictEq a b = true) ∧
      (∀ a, looseEq a a = true) ∧ (∀ a b, looseEq a b = looseEq b a) ∧
      ∀ a b, strictEq a b = true → looseEq a b = true := by
  refine ⟨⟨strictEq_self, ?_, strictEq_trans⟩, ?_, looseEq_comm, fun a b => looseEq_of_strictEq⟩
  · intro a b equal
    rw [strictEq_comm, equal]
  · exact fun a => looseEq_of_strictEq (strictEq_self a)

theorem strictEq_equivalence_within_looseEq_of_whole_float :
    ∃ one whole : Json, one = .num (.int 1 (by decide)) ∧
      whole = .num (.float ⟨false, Binary64.one, by decide +kernel⟩) ∧ strictEq one whole = true ∧
      strictEq whole one = true ∧ looseEq one whole = true := by
  obtain ⟨equivalence, _, _, within⟩ := strictEq_equivalence_within_looseEq
  have equal : strictEq (.num (.int 1 (by decide)))
      (.num (.float ⟨false, Binary64.one, by decide +kernel⟩)) = true := by decide +kernel
  exact ⟨_, _, rfl, rfl, equal, equivalence.symm equal, within _ _ equal⟩

end Json

end FlowLogic
