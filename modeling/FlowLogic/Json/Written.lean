import FlowLogic.Json.Basic

/-!
Documents as they are written: objects have their entries in the order of the text, equal keys
included, and what stands for no value is still part of the document.
-/

namespace FlowLogic

/-- A document.  A scalar or a key may be well formed and stand for nothing, as an integer out of
range does. -/
inductive Written where
  | scalar (value : Option Json)
  | list (items : List Written)
  | table (entries : List (Option String × Written))

instance : Inhabited Written := ⟨.scalar none⟩

namespace Written

mutual

/-- The value of a document in which everything stands for something; of equal keys the last one
counts. -/
def value? : Written → Option Json
  | .scalar value => value
  | .list items => (values? items).map .arr
  | .table entries => (fields? entries).map fun fields => .obj (Dict.ofEntries fields)

def values? : List Written → Option (List Json)
  | [] => some []
  | item :: rest => do some ((← item.value?) :: (← values? rest))

def fields? : List (Option String × Written) → Option (List (String × Json))
  | [] => some []
  | (key, item) :: rest => do some ((← key, ← item.value?) :: (← fields? rest))

end

end Written

end FlowLogic
