import FlowLogic.Proofs.Program.Subtree
import FlowLogic.Sandbox.Interpreter

/-!
What the result of a program depends on.  Of a registry it sees no more than what its calls resolve
to, and of the bindings no more than what its lookups find.
-/

namespace FlowLogic.Node

def ResolvesAlike (registry other : Registry) (program : Node) : Prop :=
  ∀ name arguments, Within (.call name arguments) program →
    registry.resolve name arguments.length = other.resolve name arguments.length

def FindsAlike (data given : Bindings) (program : Node) : Prop :=
  ∀ path, Within (.lookup path) program → data.lookup? path = given.lookup? path

variable {registry other : Registry} {clock : Int} {data given : Bindings}

theorem ResolvesAlike.child {program child : Node} (alike : program.ResolvesAlike registry other)
    (member : child ∈ program.children) : child.ResolvesAlike registry other :=
  fun name arguments within => alike name arguments (.child member within)

theorem FindsAlike.child {program child : Node} (alike : program.FindsAlike data given)
    (member : child ∈ program.children) : child.FindsAlike data given :=
  fun path within => alike path (.child member within)

theorem evalAll_congr {nodes : List Node}
    (each : ∀ node ∈ nodes, node.eval ⟨registry, clock⟩ data = node.eval ⟨other, clock⟩ given) :
    evalAll ⟨registry, clock⟩ data nodes = evalAll ⟨other, clock⟩ given nodes := by
  induction nodes with
  | nil => rfl
  | cons node rest ih =>
      rw [List.forall_mem_cons] at each
      simp only [evalAll, each.1, ih each.2]

theorem evalLogical_congr (connective : Connective) {nodes : List Node}
    (each : ∀ node ∈ nodes, node.eval ⟨registry, clock⟩ data = node.eval ⟨other, clock⟩ given) :
    evalLogical ⟨registry, clock⟩ data connective nodes =
      evalLogical ⟨other, clock⟩ given connective nodes := by
  induction nodes with
  | nil => rfl
  | cons node rest ih =>
      rw [List.forall_mem_cons] at each
      simp only [evalLogical, each.1, ih each.2]

theorem eval_agree {program : Node} (alike : program.ResolvesAlike registry other)
    (found : program.FindsAlike data given) :
    program.eval ⟨registry, clock⟩ data = program.eval ⟨other, clock⟩ given := by
  induction program using induction_on_children with
  | step node ih =>
      have below : ∀ child ∈ node.children,
          child.eval ⟨registry, clock⟩ data = child.eval ⟨other, clock⟩ given :=
        fun child member => ih child member (alike.child member) (found.child member)
      cases node with
      | literal | raw => rfl
      | lookup path => simp only [eval, found path .self]
      | call name arguments =>
          have values : evalAll ⟨registry, clock⟩ data arguments =
              evalAll ⟨other, clock⟩ given arguments := evalAll_congr below
          simp only [eval, alike name arguments .self, values]
          rfl
      | concat parts =>
          have values : evalAll ⟨registry, clock⟩ data parts =
              evalAll ⟨other, clock⟩ given parts := evalAll_congr below
          simp only [eval, values]
      | logical connective operands =>
          have truth : evalLogical ⟨registry, clock⟩ data connective operands =
              evalLogical ⟨other, clock⟩ given connective operands :=
            evalLogical_congr connective below
          simp only [eval, truth]
      | not inner | isSet inner | coalesce inner | paren inner =>
          simp only [eval, below inner (by simp [children])]
      | contains left right | compare comparator left right =>
          simp only [eval, below left (by simp [children]), below right (by simp [children])]

theorem eval_congr {program : Node} (alike : program.ResolvesAlike registry other) :
    program.eval ⟨registry, clock⟩ data = program.eval ⟨other, clock⟩ data :=
  eval_agree alike fun _ _ => rfl

end FlowLogic.Node

namespace FlowLogic.Environment

theorem execute_agree {program : Node} {data given : Bindings} (env : Environment)
    (found : program.FindsAlike data given) :
    env.execute program data = env.execute program given := by
  have evaluated : program.eval env data = program.eval env given :=
    Node.eval_agree (fun _ _ _ => rfl) found
  simp only [execute, run, evaluated]

end FlowLogic.Environment
