import FlowLogic.Definition.Value
import FlowLogic.Transform.Chain

/-!
Binding of transformed fields.  Every chain reads the bindings as they were given, and its result is
bound under a key of its own.
-/

namespace FlowLogic

namespace Label

/-- The result of a chain on the field that the token names, which is `null` where it is absent. -/
def transformed (data : Bindings) (label : Label) (chain : String) :
    Except TransformError Json := do
  (← Chain.read chain).apply ((data.lookup? label.path).getD .null)

end Label

namespace Bindings

/-- Adds the results of chains to bindings; the fields are read from `data`. -/
def extend (data : Bindings) : Bindings → List Token → Except TransformError Bindings
  | bound, [] => .ok bound
  | bound, token :: rest =>
    match token.label.chain, token.label.chainKey? with
    | some chain, some key => do
      let result ← token.label.transformed data chain
      extend data (bound.put key result) rest
    | _, _ => extend data bound rest

def bind (data : Bindings) (tokens : List Token) : Except TransformError Bindings :=
  extend data data tokens

end Bindings

end FlowLogic
