import FlowLogic.Dict
import Mathlib.Data.List.Perm.Subperm
import Mathlib.Data.String.Basic

/-!
Dictionaries with one entry replaced, and dictionaries in the order of their keys, as all are that
were built entry by entry.  Two of these agree entry by entry when they have the same size and every
entry of one is found in the other.
-/

namespace FlowLogic.Dict

variable {α β : Type}

section

variable {before after : Dict α} {key other : String} {value replaced : α}

theorem value?_entry :
    value? (before ++ (key, value) :: after) key = some ((before.value? key).getD value) := by
  rw [value?_append, value?_cons, if_pos rfl]
  cases before.value? key <;> rfl

theorem value?_entry_congr (f : Option α → β) (same : f (some value) = f (some replaced)) :
    f (value? (before ++ (key, value) :: after) key) =
      f (value? (before ++ (key, replaced) :: after) key) := by
  rw [value?_entry, value?_entry]
  cases before.value? key with
  | some earlier => rfl
  | none => exact same

theorem value?_replaced (apart : key ≠ other) :
    value? (before ++ (key, value) :: after) other =
      value? (before ++ (key, replaced) :: after) other := by
  rw [value?_append, value?_append, value?_cons, value?_cons, if_neg apart, if_neg apart]

theorem hasKey_replaced :
    hasKey (before ++ (key, value) :: after) other =
      hasKey (before ++ (key, replaced) :: after) other := by
  unfold hasKey
  by_cases same : key = other
  · subst same
    simp only [value?_entry, Option.isSome_some]
  · rw [value?_replaced same]

end

/-- The keys stand in their order, so none of them stands twice. -/
def Ordered (d : Dict α) : Prop := d.keys.Pairwise (· < ·)

theorem Ordered.nodup {d : Dict α} (ordered : d.Ordered) : d.keys.Nodup :=
  List.Pairwise.imp (fun less => ne_of_lt less) ordered

theorem mem_keys_put {d : Dict α} {key other : String} {value : α} :
    other ∈ (d.put key value).keys ↔ other = key ∨ other ∈ d.keys := by
  rw [← isSome_value?, ← isSome_value?, value?_put]
  split
  next same => simp [same]
  next apart => rw [or_iff_right (Ne.symm apart)]

theorem Ordered.put {d : Dict α} (ordered : d.Ordered) (key : String) (value : α) :
    (d.put key value).Ordered := by
  induction d with
  | nil => exact List.pairwise_singleton _ _
  | cons entry rest ih =>
      obtain ⟨k, v⟩ := entry
      obtain ⟨first, later⟩ := List.pairwise_cons.mp ordered
      unfold Dict.put
      split
      next same =>
        subst same
        exact ordered
      next apart =>
        split
        next less =>
          refine List.pairwise_cons.mpr ⟨?_, ordered⟩
          intro other member
          rcases List.mem_cons.mp member with rfl | member
          · exact less
          · exact less.trans (first other member)
        next notLess =>
          refine List.pairwise_cons.mpr ⟨?_, ih later⟩
          intro other member
          rcases mem_keys_put.mp member with rfl | member
          · exact lt_of_le_of_ne (not_lt.mp notLess) apart
          · exact first other member

theorem ordered_ofEntries (entries : List (String × α)) : (ofEntries entries).Ordered := by
  have grows : ∀ d : Dict α, d.Ordered →
      (entries.foldl (fun d entry => d.put entry.1 entry.2) d).Ordered := by
    induction entries with
    | nil => exact fun d ordered => ordered
    | cons entry rest ih => exact fun d ordered => ih _ (ordered.put entry.1 entry.2)
  exact grows [] List.Pairwise.nil

theorem value?_ofEntries {entries : Dict α} (distinct : entries.keys.Nodup) (key : String) :
    (ofEntries entries).value? key = entries.value? key := by
  have added : ∀ d : Dict α,
      value? (entries.foldl (fun d entry => d.put entry.1 entry.2) d) key =
        (entries.value? key).or (d.value? key) := by
    induction entries with
    | nil => exact fun d => rfl
    | cons entry rest ih =>
        intro d
        obtain ⟨fresh, distinct⟩ := List.nodup_cons.mp distinct
        rw [List.foldl_cons, ih distinct, value?_put, value?_cons]
        split
        next same =>
          have absent : value? rest key = none := by
            rw [← Option.not_isSome_iff_eq_none, isSome_value?, ← same]
            exact fresh
          rw [absent]
          rfl
        next => rfl
  exact (added []).trans Option.or_none

theorem keys_eq_of_subset {d : Dict α} {e : Dict β} (ordered : d.Ordered) (orderedOther : e.Ordered)
    (size : d.length = e.length) (subset : d.keys ⊆ e.keys) : d.keys = e.keys := by
  have sub := List.subperm_of_subset ordered.nodup subset
  have perm := sub.perm_of_length_le (by simp [keys, size])
  exact perm.eq_of_pairwise (fun a b _ _ less more => absurd more less.not_gt) ordered orderedOther

/-- Two dictionaries in order agree entry by entry if they have one size and every entry of one is
found in the other. -/
theorem forall₂_iff {d : Dict α} {e : Dict β} (ordered : d.Ordered) (orderedOther : e.Ordered)
    (R : α → β → Prop) :
    List.Forall₂ (fun x y => x.1 = y.1 ∧ R x.2 y.2) d e ↔
      d.length = e.length ∧
        ∀ key value, d.value? key = some value →
          ∃ other, e.value? key = some other ∧ R value other := by
  constructor
  · intro agree
    refine ⟨agree.length_eq, ?_⟩
    intro key value found
    clear ordered orderedOther
    induction agree with
    | nil => cases found
    | @cons x y xs ys first _ ih =>
        obtain ⟨k, v⟩ := x
        obtain ⟨k', v'⟩ := y
        obtain ⟨rfl, related⟩ := first
        rw [value?_cons] at found ⊢
        split at found
        next same =>
          cases found
          exact ⟨v', by simp [same], related⟩
        next apart =>
          rw [if_neg apart]
          exact ih found
  · rintro ⟨size, finds⟩
    have same : d.keys = e.keys := by
      apply keys_eq_of_subset ordered orderedOther size
      intro key member
      obtain ⟨value, found⟩ := Option.isSome_iff_exists.mp (isSome_value?.mpr member)
      obtain ⟨other, foundOther, _⟩ := finds key value found
      exact isSome_value?.mp (by simp [foundOther])
    have distinct := ordered.nodup
    clear ordered orderedOther size
    induction d generalizing e with
    | nil =>
        obtain rfl : e = [] := by simpa [keys] using same.symm
        exact .nil
    | cons x xs ih =>
        obtain ⟨k, v⟩ := x
        cases e with
        | nil => cases same
        | cons y ys =>
            obtain ⟨k', v'⟩ := y
            obtain ⟨rfl, rest⟩ : k = k' ∧ keys xs = keys ys := List.cons.inj same
            obtain ⟨fresh, distinct⟩ := List.nodup_cons.mp distinct
            refine .cons ⟨rfl, ?_⟩ (ih ?_ rest distinct)
            · simpa [value?_cons] using finds k v
            · intro key value found
              have member : key ∈ keys xs := isSome_value?.mp (by simp [found])
              have apart : k ≠ key := fun same => fresh (same ▸ member)
              have findsRest := finds key value
              rwa [value?_cons, value?_cons, if_neg apart, if_neg apart, imp_iff_right found]
                at findsRest

end FlowLogic.Dict
