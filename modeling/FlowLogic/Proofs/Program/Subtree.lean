import FlowLogic.Code.Node
import Mathlib.Data.List.Basic

/-!
The nodes of a program.  A tree is walked through the children of its nodes alone, which gives an
induction principle, the nodes within a node and their order; the calls of a program are those of
all its nodes.
-/

namespace FlowLogic.Node

def children : Node → List Node
  | literal _ | raw _ _ | lookup _ => []
  | call _ arguments => arguments
  | concat parts => parts
  | not inner | isSet inner | coalesce inner | paren inner => [inner]
  | contains haystack needle => [haystack, needle]
  | compare _ left right => [left, right]
  | logical _ operands => operands

theorem sizeOf_lt_of_mem_children {child node : Node} (member : child ∈ node.children) :
    sizeOf child < sizeOf node := by
  cases node with
  | literal | raw | lookup => simp [children] at member
  | call name nodes | logical connective nodes | concat nodes =>
      have smaller : sizeOf child < sizeOf nodes := List.sizeOf_lt_of_mem member
      simp only [call.sizeOf_spec, concat.sizeOf_spec, logical.sizeOf_spec]
      omega
  | not inner | isSet inner | coalesce inner | paren inner =>
      obtain rfl := List.mem_singleton.mp member
      simp
  | contains left right | compare comparator left right =>
      simp only [children, List.mem_cons, List.not_mem_nil, or_false] at member
      simp only [contains.sizeOf_spec, compare.sizeOf_spec]
      rcases member with rfl | rfl <;> omega

theorem induction_on_children {motive : Node → Prop}
    (step : ∀ node : Node, (∀ child ∈ node.children, motive child) → motive node) (node : Node) :
    motive node :=
  step node fun child member =>
    have := sizeOf_lt_of_mem_children member
    induction_on_children step child
termination_by sizeOf node

/-- A node and all nodes below it, each before those below it. -/
def preorder (node : Node) : List Node :=
  node :: node.children.attach.flatMap fun ⟨child, _⟩ => preorder child
termination_by sizeOf node
decreasing_by exact sizeOf_lt_of_mem_children ‹_›

theorem preorder_eq (node : Node) : node.preorder = node :: node.children.flatMap preorder := by
  rw [preorder]
  simp [List.flatMap_subtype]

inductive Within (inner : Node) : Node → Prop
  | self : Within inner inner
  | child {outer child : Node} (member : child ∈ outer.children)
      (within : Within inner child) : Within inner outer

theorem mem_preorder {inner outer : Node} : inner ∈ outer.preorder ↔ Within inner outer := by
  induction outer using induction_on_children with
  | step outer ih =>
      rw [preorder_eq, List.mem_cons, List.mem_flatMap]
      constructor
      · rintro (rfl | ⟨child, member, found⟩)
        · exact .self
        · exact .child member ((ih child member).mp found)
      · rintro (_ | ⟨member, within⟩)
        · exact .inl rfl
        · exact .inr ⟨_, member, (ih _ member).mpr within⟩

def call? : Node → Option (String × Nat)
  | call name arguments => some (name, arguments.length)
  | _ => none

theorem callsAll_eq (nodes : List Node) : callsAll nodes = nodes.flatMap calls := by
  induction nodes with
  | nil => rfl
  | cons node rest ih => rw [callsAll, ih, List.flatMap_cons]

theorem calls_eq_children (node : Node) :
    node.calls = node.call?.toList ++ node.children.flatMap calls := by
  cases node <;> simp [calls, call?, children, callsAll_eq]

theorem calls_eq_preorder (node : Node) : node.calls = node.preorder.filterMap call? := by
  induction node using induction_on_children with
  | step node ih =>
      rw [calls_eq_children, preorder_eq, List.filterMap_cons, List.filterMap_flatMap]
      have below : node.children.flatMap calls =
          node.children.flatMap fun child => child.preorder.filterMap call? :=
        List.flatMap_congr ih
      rw [below]
      cases node.call? <;> rfl

def lookup? : Node → Option (List String)
  | lookup path => some path
  | _ => none

def lookups (node : Node) : List (List String) := node.preorder.filterMap lookup?

theorem lookups_eq_children (node : Node) :
    node.lookups = node.lookup?.toList ++ node.children.flatMap lookups := by
  rw [lookups, preorder_eq, List.filterMap_cons, List.filterMap_flatMap]
  cases node.lookup? <;> rfl

@[simp] theorem lookups_literal (value : Json) : (literal value).lookups = [] := by
  rw [lookups_eq_children]
  rfl

@[simp] theorem lookups_raw (code : String) (value : Json) : (raw code value).lookups = [] := by
  rw [lookups_eq_children]
  rfl

@[simp] theorem lookups_lookup (path : List String) : (lookup path).lookups = [path] := by
  rw [lookups_eq_children]
  rfl

@[simp] theorem lookups_call (name : String) (arguments : List Node) :
    (call name arguments).lookups = arguments.flatMap lookups := by
  rw [lookups_eq_children]
  rfl

@[simp] theorem lookups_concat (parts : List Node) :
    (concat parts).lookups = parts.flatMap lookups := by
  rw [lookups_eq_children]
  rfl

@[simp] theorem lookups_logical (connective : Connective) (operands : List Node) :
    (logical connective operands).lookups = operands.flatMap lookups := by
  rw [lookups_eq_children]
  rfl

section

variable (inner left right : Node)

@[simp] theorem lookups_not : (not inner).lookups = inner.lookups := by
  simp [lookups_eq_children (not inner), lookup?, children]

@[simp] theorem lookups_isSet : (isSet inner).lookups = inner.lookups := by
  simp [lookups_eq_children (isSet inner), lookup?, children]

@[simp] theorem lookups_coalesce : (coalesce inner).lookups = inner.lookups := by
  simp [lookups_eq_children (coalesce inner), lookup?, children]

@[simp] theorem lookups_paren : (paren inner).lookups = inner.lookups := by
  simp [lookups_eq_children (paren inner), lookup?, children]

@[simp] theorem lookups_contains :
    (contains left right).lookups = left.lookups ++ right.lookups := by
  simp [lookups_eq_children (contains left right), lookup?, children]

@[simp] theorem lookups_compare (comparator : Comparator) :
    (compare comparator left right).lookups = left.lookups ++ right.lookups := by
  simp [lookups_eq_children (compare comparator left right), lookup?, children]

end

theorem mem_calls {node : Node} {name : String} {count : Nat} :
    (name, count) ∈ node.calls ↔
      ∃ arguments, arguments.length = count ∧ Within (.call name arguments) node := by
  simp only [calls_eq_preorder, List.mem_filterMap, mem_preorder]
  constructor
  · rintro ⟨inner, within, called⟩
    cases inner <;> simp only [call?, Option.some.injEq, Prod.mk.injEq, reduceCtorEq] at called
    obtain ⟨rfl, rfl⟩ := called
    exact ⟨_, rfl, within⟩
  · rintro ⟨arguments, rfl, within⟩
    exact ⟨_, within, rfl⟩

end FlowLogic.Node
