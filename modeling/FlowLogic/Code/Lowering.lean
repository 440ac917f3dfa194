import FlowLogic.Code.Fragment
import FlowLogic.Definition.Display

/-!
Values as programs.  A template, or anything but one token, appends the texts of its tokens.
-/

namespace FlowLogic

inductive CompileError where
  | emptyPath
  | namelessCall
  | badFragment (text : String)
  /-- A list of members that refers to a field has no result without bindings. -/
  | fieldReference (kind : DisplayKind)
  | refusedFormat (refused : RefusedFormat)
  deriving DecidableEq

namespace CompileError

def unsupported (kind : TokenKind) (reason : String) : String :=
  "compile error: " ++ kind.name ++ " items cannot be compiled: " ++ reason

def message : CompileError → String
  | .emptyPath => unsupported .field "empty field path"
  | .namelessCall => unsupported .call "call without a function name"
  | .badFragment text => unsupported .input ("unsupported code fragment '" ++ text ++ "'")
  | .fieldReference kind =>
    unsupported (.display kind) "field references inside a template need bindings"
  | .refusedFormat refused => "compile error: date format '" ++ refused.format ++ "' is refused"

end CompileError

namespace Label

def lowerField (label : Label) : Except CompileError Node :=
  match label.chainKey? with
  | some key => .ok (.lookup [key])
  | none => if label.path.isEmpty then .error .emptyPath else .ok (.lookup label.path)

/-- An input that is source text; blank text stands for itself. -/
def lowerFragment (label : Label) : Except CompileError Node :=
  if Text.isBlankText label.text then .ok (.raw label.text (.str label.text))
  else
    match Node.readFragment? label.text with
    | some node => .ok node
    | none => .error (.badFragment label.text)

def lowerInput (label : Label) : Except CompileError Node :=
  match label.origin with
  | .const => .ok (.literal (Value.literalValue label.text))
  | .expression => label.lowerFragment

end Label

namespace Member

def fixedIds (kind : DisplayKind) : List Member → Except CompileError (List Json)
  | [] => .ok []
  | .plain id :: rest => do return id :: (← fixedIds kind rest)
  | _ :: _ => .error (.fieldReference kind)

end Member

def Token.lowerDisplay (kind : DisplayKind) (payload : Json) (members : List Member) :
    Except CompileError Node :=
  if kind.listsMembers then (Member.fixedIds kind members).map (.literal <| .arr ·)
  else
    match kind.fixedValue payload with
    | .ok value => .ok (.literal value)
    | .error refused => .error (.refusedFormat refused)

/-- One node alone, unless a template is asked for. -/
def Node.ofParts (template : Bool) : List Node → Node
  | [node] => if template then .concat [node] else node
  | nodes => .concat nodes

mutual

def Token.lower : Token → Except CompileError Node
  | .field label => label.lowerField
  | .input label => label.lowerInput
  | .call label arguments =>
    if label.callee = "" then .error .namelessCall
    else (Value.lowerAll arguments).map (.call label.callee)
  | .display _ kind payload members => Token.lowerDisplay kind payload members

def Token.lowerAll : List Token → Except CompileError (List Node)
  | [] => .ok []
  | token :: rest => do
    let node ← token.lower
    return node :: (← Token.lowerAll rest)

def Expression.lower : Expression → Except CompileError Node
  | ⟨tokens, template⟩ => (Token.lowerAll tokens).map (Node.ofParts template)

def Value.lower : Value → Except CompileError Node
  | ⟨kind, expression, dataType⟩ =>
    match Value.literalResult? ⟨kind, expression, dataType⟩ with
    | some result => .ok (.literal result)
    | none => expression.lower

def Value.lowerAll : List Value → Except CompileError (List Node)
  | [] => .ok []
  | value :: rest => do
    let node ← value.lower
    return node :: (← Value.lowerAll rest)

end

def Value.code (v : Value) : Except CompileError String := v.lower.map Node.code

def Expression.code (e : Expression) : Except CompileError String := e.lower.map Node.code

end FlowLogic
