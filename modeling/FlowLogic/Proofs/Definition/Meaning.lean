import FlowLogic.Evaluation.Basic

/-!
What definitions mean, read off their tokens without a program.  A field is looked up, an input is
its literal or its terms appended, a call is made with the meanings of its arguments, a display
token is its payload; several tokens are appended.
-/

namespace FlowLogic

def Json.appended (values : List Json) : Json := .str (String.join (values.map Json.asText))

namespace Node.Fragment

def Term.meaning (data : Bindings) : Term → Json
  | .literal value => value
  | .lookup path => (data.lookup? path).getD .null

/-- A term alone stands for its value, several for their texts appended. -/
def meaning? (data : Bindings) (source : String) : Option Json :=
  match read? source with
  | some [term] => some (term.meaning data)
  | some terms => some (.appended (terms.map (·.meaning data)))
  | none => none

end Node.Fragment

namespace Label

def fieldMeaning (data : Bindings) (label : Label) : Except CompileError Json :=
  match label.chainKey? with
  | some key => .ok ((data.value? key).getD .null)
  | none =>
    if label.path.isEmpty then .error .emptyPath
    else .ok ((data.lookup? label.path).getD .null)

def inputMeaning (data : Bindings) (label : Label) : Except CompileError Json :=
  match label.origin with
  | .const => .ok (Value.literalValue label.text)
  | .expression =>
    if Text.isBlankText label.text then .ok (.str label.text)
    else
      match Node.Fragment.meaning? data label.text with
      | some value => .ok value
      | none => .error (.badFragment label.text)

end Label

def DisplayKind.staticValue (kind : DisplayKind) (payload : Json) (members : List Member) :
    Except CompileError Json :=
  if kind.listsMembers then do return .arr (← Member.fixedIds kind members)
  else
    match kind.fixedValue payload with
    | .ok value => .ok value
    | .error refused => .error (.refusedFormat refused)

def Expression.combine (template : Bool) : List Json → Json
  | [value] => if template then .appended [value] else value
  | values => .appended values

section

variable (env : Environment) (data : Bindings)

mutual

def Token.meaning : Token → Except FlowError Json
  | .field label => (label.fieldMeaning data).mapError .compile
  | .input label => (label.inputMeaning data).mapError .compile
  | .call label arguments =>
    if label.callee = "" then .error (.compile .namelessCall)
    else
      match env.registry.resolve label.callee arguments.length with
      | .error fault => .error (.sandbox (.rejected fault))
      | .ok (.constant value) => .ok value
      | .ok (.function builtin) => do
        let values ← Value.meaningAll arguments
        match builtin.run env.clock values with
        | .ok value => .ok value
        | .error failure => .error (.sandbox (.execution (.failed label.callee failure)))
  | .display _ kind payload members => (kind.staticValue payload members).mapError .compile

def Token.meaningAll : List Token → Except FlowError (List Json)
  | [] => .ok []
  | token :: rest => do
    let value ← token.meaning
    return value :: (← Token.meaningAll rest)

def Expression.meaning : Expression → Except FlowError Json
  | ⟨tokens, template⟩ => (Token.meaningAll tokens).map (Expression.combine template)

/-- The declared type of a value has no part in its meaning. -/
def Value.meaning : Value → Except FlowError Json
  | ⟨kind, expression, dataType⟩ =>
    match Value.literalResult? ⟨kind, expression, dataType⟩ with
    | some result => .ok result
    | none => expression.meaning

def Value.meaningAll : List Value → Except FlowError (List Json)
  | [] => .ok []
  | value :: rest => do
    let result ← value.meaning
    return result :: (← Value.meaningAll rest)

end

end

end FlowLogic
