import FlowLogic.Definition.BuildError
import FlowLogic.Definition.Tag
import FlowLogic.Json.Scalar
import FlowLogic.Text.Digest
import FlowLogic.Text.Search

/-!
Values: lists of tokens that stand for one value or, as a template, for a text made of all of them.
-/

namespace FlowLogic

structure Label where
  /-- The path of a field, the text of an input, or the name of a function. -/
  text : String
  name : String
  origin : ValueKind
  chain : Option String
  component : Option String
  deriving DecidableEq

def Label.ofText (origin : ValueKind) (text : String) : Label := ⟨text, "", origin, none, none⟩

mutual

inductive Token where
  | field (label : Label)
  | input (label : Label)
  | call (label : Label) (arguments : List Value)
  | display (label : Label) (kind : DisplayKind) (payload : Json) (members : List Member)

structure Expression where
  tokens : List Token
  template : Bool

structure Value where
  kind : ValueKind
  expression : Expression
  dataType : Option DataType

/-- An entry of a list of members: an id, or a field that the ids are read from. -/
inductive Member where
  | plain (id : Json)
  | reference (value : Value)
  | blankReference
  | brokenReference (error : BuildError)

end

instance : Inhabited Token := ⟨.input (.ofText .const "")⟩

instance : Inhabited Value := ⟨⟨.const, ⟨[], false⟩, none⟩⟩

namespace Token

def label : Token → Label
  | .field label | .input label | .call label _ | .display label _ _ _ => label

def kind : Token → TokenKind
  | .field _ => .field
  | .input _ => .input
  | .call _ _ => .call
  | .display _ kind _ _ => .display kind

def payload? : Token → Option Json
  | .display _ _ payload _ => some payload
  | _ => none

def arguments : Token → List Value
  | .call _ arguments => arguments
  | _ => []

def mapLabel (f : Label → Label) : Token → Token
  | .field label => .field (f label)
  | .input label => .input (f label)
  | .call label arguments => .call (f label) arguments
  | .display label kind payload members => .display (f label) kind payload members

def isBlankInput : Token → Bool
  | .input label => Text.isBlankText label.text
  | _ => false

def dropBlankFirst : List Token → List Token
  | [] => []
  | first :: rest => if first.isBlankInput then rest else first :: rest

def dropBlankLast (tokens : List Token) : List Token :=
  match tokens.getLast? with
  | some last => if last.isBlankInput then tokens.dropLast else tokens
  | none => []

end Token

namespace Label

/-- The segments of the path, below the component if there is one. -/
def path (label : Label) : List String :=
  (label.component.toList ++ Text.splitText "." label.text).filter (· != "")

def bindingKey (path chain : String) : String := path ++ "_" ++ Text.Digest.hex chain

def chainKey? (label : Label) : Option String :=
  label.chain.map (bindingKey (Text.joinTexts "." label.path))

def callee (label : Label) : String := if label.name = "" then label.text else label.name

def withChain (label : Label) (chain : String) : Label :=
  { label with chain := if Text.isBlankText chain then none else some chain }

def withComponent (label : Label) (component : String) : Label :=
  { label with component := some component }

end Label

namespace Expression

/-- Leaves out one blank input at either end.  Several tokens make a template, none nothing. -/
def ofTokens? (tokens : List Token) : Option Expression :=
  let kept := Token.dropBlankLast (Token.dropBlankFirst tokens)
  if kept.isEmpty then none else some ⟨kept, decide (1 < kept.length)⟩

def single? (e : Expression) : Option Token :=
  match e.tokens, e.template with
  | [token], false => some token
  | _, _ => none

end Expression

mutual

def Token.chained : Token → List Token
  | .field label => if label.chain.isSome then [.field label] else []
  | .input _ => []
  | .call _ arguments => Value.chainedAll arguments
  | .display _ _ _ _ => []

def Expression.chained : Expression → List Token
  | ⟨tokens, _⟩ => Token.chainedAll tokens

def Token.chainedAll : List Token → List Token
  | [] => []
  | token :: rest => token.chained ++ Token.chainedAll rest

def Value.chained : Value → List Token
  | ⟨_, expression, _⟩ => expression.chained

def Value.chainedAll : List Value → List Token
  | [] => []
  | value :: rest => value.chained ++ Value.chainedAll rest

end

namespace Value

/-- A constant text; a blank one is no value. -/
def ofLiteral? (text : String) : Option Value :=
  (Expression.ofTokens? [.input (.ofText .const text)]).map (⟨.const, ·, none⟩)

def ofField (path : String) : Value :=
  ⟨.expression, ⟨[.field (.ofText .expression path)], false⟩, none⟩

def ofTokens? (kind : ValueKind) (tokens : List Token) (template : Option Bool) : Option Value :=
  (Expression.ofTokens? tokens).map fun e =>
    ⟨kind, { e with template := template.getD e.template }, none⟩

def literal? (v : Value) : Option String :=
  match v.kind, v.expression.single? with
  | .const, some (.input label) => some label.text
  | _, _ => none

/-- A literal that is a numeral means its number, any other its text. -/
def literalValue (text : String) : Json := (Json.readNumber? text).getD (.str text)

def literalResult? (v : Value) : Option Json := v.literal?.map literalValue

def isNumericLiteral (v : Value) : Bool :=
  match v.literal? with
  | some text => Json.isNumeric text
  | none => false

def soleInput? (v : Value) : Option Token :=
  match v.expression.single? with
  | some (.input label) => some (.input label)
  | _ => none

end Value

end FlowLogic
