import FlowLogic.Proofs.Program.Resolution

/-!
The functions that a program runs.  A traced evaluation gives the outcome of the plain one and
records every run of a function on the way.  A program that resolves runs only registered functions,
each with as many arguments as it takes, and can fail only in one of these runs.
-/

namespace FlowLogic

open Outcome

structure FunctionRun where
  code : String
  builtin : Builtin
  arguments : List Json

namespace FunctionRun

def Registered (registry : Registry) (run : FunctionRun) : Prop :=
  ∃ spec, registry.functions.value? run.code = some spec ∧ spec.builtin = run.builtin ∧
    run.builtin.arity.accepts run.arguments.length = true

/-- The function itself fails, which is the fault of the whole program. -/
def Fails (clock : Int) (run : FunctionRun) (fault : RunFault) : Prop :=
  ∃ failure, run.builtin.run clock run.arguments = .error failure ∧
    fault = .failed run.code failure

end FunctionRun

/-- An outcome with the runs of functions that led to it. -/
structure Traced (α : Type) where
  runs : List FunctionRun
  outcome : Except RunFault α

namespace Traced

variable {α β : Type}

def fail (fault : RunFault) : Traced α := ⟨[], .error fault⟩

instance : Monad Traced where
  pure value := ⟨[], .ok value⟩
  bind first next :=
    match first.outcome with
    | .ok value => ⟨first.runs ++ (next value).runs, (next value).outcome⟩
    | .error fault => ⟨first.runs, .error fault⟩

def invoke (env : Environment) (name : String) (builtin : Builtin) (arguments : List Json) :
    Traced Json :=
  ⟨[⟨name, builtin, arguments⟩], Node.invoke env name builtin arguments⟩

@[simp] theorem outcome_pure (value : α) : (pure value : Traced α).outcome = .ok value := rfl

@[simp] theorem outcome_fail (fault : RunFault) : (fail fault : Traced α).outcome = .error fault :=
  rfl

@[simp] theorem outcome_invoke (env : Environment) (name : String) (builtin : Builtin)
    (arguments : List Json) :
    (invoke env name builtin arguments).outcome = Node.invoke env name builtin arguments := rfl

@[simp] theorem outcome_bind (first : Traced α) (next : α → Traced β) :
    (first >>= next).outcome = first.outcome >>= fun value => (next value).outcome := by
  simp only [bind]
  cases first.outcome <;> rfl

/-- Every run is one of a registered function, and a failure is the failure of a run. -/
structure Sound (env : Environment) (traced : Traced α) : Prop where
  registered : ∀ run ∈ traced.runs, run.Registered env.registry
  failed : ∀ fault, traced.outcome = .error fault →
    ∃ run ∈ traced.runs, run.Fails env.clock fault

variable {env : Environment}

theorem Sound.pure (value : α) : (Pure.pure value : Traced α).Sound env where
  registered := by simp [Pure.pure]
  failed := by simp

theorem Sound.bind {first : Traced α} {next : α → Traced β} (soundFirst : first.Sound env)
    (soundNext : ∀ value, first.outcome = .ok value → (next value).Sound env) :
    (first >>= next).Sound env := by
  obtain ⟨runs, outcome⟩ := first
  cases outcome with
  | ok value =>
      have soundRest := soundNext value rfl
      constructor
      · intro run member
        rcases List.mem_append.mp member with inFirst | inNext
        · exact soundFirst.registered run inFirst
        · exact soundRest.registered run inNext
      · intro fault failed
        obtain ⟨run, member, fails⟩ := soundRest.failed fault failed
        exact ⟨run, List.mem_append_right runs member, fails⟩
  | error cause =>
      constructor
      · exact soundFirst.registered
      · intro fault failed
        cases failed
        exact soundFirst.failed cause rfl

theorem Sound.invoke {name : String} {builtin : Builtin} {arguments : List Json}
    (registered : FunctionRun.Registered env.registry ⟨name, builtin, arguments⟩) :
    (Traced.invoke env name builtin arguments).Sound env := by
  constructor
  · intro run member
    obtain rfl := List.mem_singleton.mp member
    exact registered
  · intro fault failed
    refine ⟨_, List.mem_singleton.mpr rfl, ?_⟩
    simp only [outcome_invoke, Node.invoke] at failed
    split at failed
    next => cases failed
    next failure failedRun =>
      cases failed
      exact ⟨failure, failedRun, rfl⟩

end Traced

namespace Node

variable (env : Environment) (data : Bindings)

mutual

def trace : Node → Traced Json
  | literal value | raw _ value => pure value
  | lookup path => pure ((data.lookup? path).getD .null)
  | call name arguments =>
    match env.registry.resolve name arguments.length with
    | .error fault => .fail (.unresolved fault)
    | .ok (.constant value) => pure value
    | .ok (.function builtin) => do Traced.invoke env name builtin (← traceAll arguments)
  | concat parts => do return .str (String.ofList ((← traceAll parts).flatMap Json.asChars))
  | not inner => do return .bool !(← trace inner).isTrue
  | isSet inner => do return .bool !(← trace inner).isUnset
  | coalesce inner => do
    let value ← trace inner
    return if value.isUnset then .str "" else value
  | contains haystack needle => do
    let whole ← trace haystack
    return .bool (whole.holds (← trace needle))
  | compare comparator left right => do
    let value ← trace left
    return .bool (comparator.test value (← trace right))
  | logical connective operands => do return .bool (← traceLogical connective operands)
  | paren inner => trace inner

def traceAll : List Node → Traced (List Json)
  | [] => pure []
  | node :: rest => do
    let value ← trace node
    return value :: (← traceAll rest)

def traceLogical (connective : Connective) : List Node → Traced Bool
  | [] => pure connective.unit
  | node :: rest => do
    let truth := (← trace node).isTrue
    if truth = connective.unit then traceLogical connective rest else return truth

end

mutual

@[simp] theorem trace_outcome (node : Node) :
    (node.trace env data).outcome = node.eval env data := by
  cases node with
  | literal | raw | lookup => simp only [trace, eval, Traced.outcome_pure]
  | call name arguments =>
      simp only [trace, eval]
      cases env.registry.resolve name arguments.length with
      | error fault => simp
      | ok callee => cases callee <;> simp [traceAll_outcome arguments]
  | concat parts => simp [trace, eval, traceAll_outcome parts]
  | not inner | isSet inner | coalesce inner | paren inner =>
      simp [trace, eval, trace_outcome inner]
  | contains left right | compare comparator left right =>
      simp [trace, eval, trace_outcome left, trace_outcome right]
  | logical connective operands => simp [trace, eval, traceLogical_outcome connective operands]

theorem traceAll_outcome (nodes : List Node) :
    (traceAll env data nodes).outcome = evalAll env data nodes := by
  cases nodes with
  | nil => simp [traceAll, evalAll]
  | cons node rest => simp [traceAll, evalAll, trace_outcome node, traceAll_outcome rest]

theorem traceLogical_outcome (connective : Connective) (nodes : List Node) :
    (traceLogical env data connective nodes).outcome = evalLogical env data connective nodes := by
  cases nodes with
  | nil => simp [traceLogical, evalLogical]
  | cons node rest =>
      simp only [traceLogical, evalLogical, Traced.outcome_bind, trace_outcome node]
      congr 1
      funext value
      split
      · exact traceLogical_outcome connective rest
      · rfl

end

variable {env data}

theorem evalAll_length {nodes : List Node} {values : List Json}
    (evaluated : evalAll env data nodes = .ok values) : values.length = nodes.length := by
  induction nodes generalizing values with
  | nil =>
      cases evaluated
      rfl
  | cons node rest ih =>
      simp only [evalAll, bind_eq_ok] at evaluated
      obtain ⟨value, _, results, evaluatedRest, returned⟩ := evaluated
      cases returned
      rw [List.length_cons, List.length_cons, ih evaluatedRest]

theorem traceAll_sound {nodes : List Node}
    (sound : ∀ node ∈ nodes, (node.trace env data).Sound env) :
    (traceAll env data nodes).Sound env := by
  induction nodes with
  | nil => exact .pure []
  | cons node rest ih =>
      rw [List.forall_mem_cons] at sound
      exact sound.1.bind fun _ _ => (ih sound.2).bind fun _ _ => .pure _

theorem traceLogical_sound (connective : Connective) {nodes : List Node}
    (sound : ∀ node ∈ nodes, (node.trace env data).Sound env) :
    (traceLogical env data connective nodes).Sound env := by
  induction nodes with
  | nil => exact .pure connective.unit
  | cons node rest ih =>
      rw [List.forall_mem_cons] at sound
      refine sound.1.bind fun value _ => ?_
      dsimp only
      split
      · exact ih sound.2
      · exact .pure _

theorem trace_call_sound {name : String} {arguments : List Node}
    (resolves : env.registry.Resolves name arguments.length)
    (sound : ∀ node ∈ arguments, (node.trace env data).Sound env) :
    ((call name arguments).trace env data).Sound env := by
  obtain ⟨callee, resolved⟩ := Registry.resolves_iff.mp resolves
  simp only [trace, resolved]
  cases callee with
  | constant value => exact .pure value
  | function builtin =>
      obtain ⟨spec, found, same, accepted⟩ := Registry.resolve_eq_function resolved
      refine (traceAll_sound sound).bind fun values evaluated => .invoke ⟨spec, found, same, ?_⟩
      rw [traceAll_outcome] at evaluated
      rwa [evalAll_length evaluated]

/-- What a program that resolves runs is registered, and it fails only in what it runs. -/
theorem trace_sound (data : Bindings) {program : Node}
    (resolved : program.Resolved env.registry) : (program.trace env data).Sound env := by
  induction program using induction_on_children with
  | step node ih =>
      have below : ∀ child ∈ node.children, (child.trace env data).Sound env :=
        fun child member => ih child member (resolved.child member)
      cases node with
      | literal | raw | lookup => exact .pure _
      | call name arguments => exact trace_call_sound resolved.call below
      | concat parts => exact (traceAll_sound below).bind fun _ _ => .pure _
      | logical connective operands =>
          exact (traceLogical_sound connective below).bind fun _ _ => .pure _
      | paren inner => exact below inner (by simp [children])
      | not inner | isSet inner | coalesce inner =>
          exact (below inner (by simp [children])).bind fun _ _ => .pure _
      | contains left right | compare comparator left right =>
          exact (below left (by simp [children])).bind fun _ _ =>
            (below right (by simp [children])).bind fun _ _ => .pure _

end Node

end FlowLogic
