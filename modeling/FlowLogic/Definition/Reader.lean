import FlowLogic.Definition.Value

/-!
Values from documents.  A document without tokens stands for no value; a malformed one is an error
at the place where it is malformed.  The entries of a list of members are read along with it, each
as a document of its own.
-/

namespace FlowLogic

def textUnder? (fields : Dict Json) (key : String) : Option String :=
  ((fields.value? key).bind Json.text?).filter (· != "")

namespace Token

def readText (path : Path) (fields : Dict Json) : Except BuildError String :=
  match fields.value? "value" with
  | none | some .null => .ok ""
  | some (.arr items) => .error ⟨.tokenValueNotScalar (Json.arr items).kind, path.key "value"⟩
  | some (.obj inner) => .error ⟨.tokenValueNotScalar (Json.obj inner).kind, path.key "value"⟩
  | some scalar => .ok scalar.asText

def readKind (path : Path) (fields : Dict Json) : Except BuildError TokenKind :=
  match (fields.value? "type").bind Json.text? with
  | none => .error ⟨.tokenTypeMissing, path⟩
  | some tag =>
    match TokenKind.ofTag? tag with
    | some kind => .ok kind
    | none => .error ⟨.unknownTokenType tag, path.key "type"⟩

/-- The label of a token; a call without a name is named by its text. -/
def readLabel (kind : TokenKind) (origin : ValueKind) (text : String) (fields : Dict Json) :
    Label :=
  let name := (textUnder? fields "name").getD (if kind = .call then text else "")
  let label : Label := ⟨text, name, origin, none, textUnder? fields "component_id"⟩
  match textUnder? fields "trans" with
  | some chain => label.withChain chain
  | none => label

end Token

namespace Value

/-- The kind that a document states, or else that of the tokens it has. -/
def readKind (path : Path) (fields : Dict Json) : Except BuildError (Option ValueKind) :=
  match fields.value? "type" with
  | some (.str tag) =>
    match ValueKind.ofTag? tag with
    | some kind => .ok (some kind)
    | none => .error ⟨.unknownValueType tag, path.key "type"⟩
  | some other => .error ⟨.valueTypeNotText other.kind, path.key "type"⟩
  | none =>
    if fields.hasKey ValueKind.const.tokensKey then .ok (some .const)
    else if fields.hasKey ValueKind.expression.tokensKey then .ok (some .expression)
    else .ok none

def readDataType (path : Path) (fields : Dict Json) : Except BuildError (Option DataType) :=
  match fields.value? "data_type" with
  | none | some .null => .ok none
  | some (.str tag) =>
    if tag = "" then .ok none
    else
      match DataType.ofTag? tag with
      | some dataType => .ok (some dataType)
      | none => .error ⟨.unknownDataType tag, path.key "data_type"⟩
  | some other => .error ⟨.dataTypeNotText other.kind, path.key "data_type"⟩

/-- A document can say itself whether its tokens make a template. -/
def readTemplate (fields : Dict Json) (e : Expression) : Expression :=
  match fields.value? "is_string_template" with
  | some (.bool template) => { e with template := template }
  | _ => e

def isEmptyCall (v : Value) : Bool :=
  match v.expression.single? with
  | some (.call label arguments) => label.callee == "" && arguments.isEmpty
  | _ => false

end Value

namespace Member

def refersToField (fields : Dict Json) : Bool :=
  match fields.value? "type" with
  | some (.str tag) => tag == "field"
  | _ => false

def readId (fields : Dict Json) : List Member :=
  (((fields.value? "value").or (fields.value? "id")).map Member.plain).toList

end Member

mutual

def Value.readAt (path : Path) : Json → Except BuildError (Option Value)
  | .obj fields => do
    if fields.isEmpty then return none
    match ← Value.readKind path fields with
    | none => return none
    | some kind =>
      match ← Expression.readUnder kind.tokensKey kind (path.key kind.tokensKey) fields with
      | none => return none
      | some e =>
        let dataType ← Value.readDataType path fields
        return some ⟨kind, Value.readTemplate fields e, dataType⟩
  | _ => .ok none

def Expression.readUnder (key : String) (origin : ValueKind) (path : Path) :
    List (String × Json) → Except BuildError (Option Expression)
  | [] => .ok none
  | (k, v) :: rest =>
    if k = key then Expression.readAt origin path v else Expression.readUnder key origin path rest

def Expression.readAt (origin : ValueKind) (path : Path) :
    Json → Except BuildError (Option Expression)
  | .arr items => do return Expression.ofTokens? (← Token.readAll origin path 0 items)
  | .null => .ok none
  | other => .error ⟨.tokensNotArray other.kind, path⟩

def Token.readAll (origin : ValueKind) (path : Path) (position : Nat) :
    List Json → Except BuildError (List Token)
  | [] => .ok []
  | item :: rest => do
    let token ← Token.readAt origin (path.index position) item
    return token :: (← Token.readAll origin path (position + 1) rest)

def Token.readAt (origin : ValueKind) (path : Path) : Json → Except BuildError Token
  | .obj fields => do
    let kind ← Token.readKind path fields
    let text ← Token.readText path fields
    let label := Token.readLabel kind origin text fields
    match kind with
    | .field => return .field label
    | .input => return .input label
    | .call => return .call label (← Value.readArguments (path.key "args") fields)
    | .display shown =>
      return .display { label with text := "" } shown
        ((Dict.value? fields kind.payloadKey).getD .null)
        (if shown.listsMembers then Member.readUnder kind.payloadKey fields else [])
  | other => .error ⟨.tokenNotObject other.kind, path⟩

def Value.readArguments (path : Path) : List (String × Json) → Except BuildError (List Value)
  | [] => .ok []
  | (k, v) :: rest =>
    if k = "args" then Value.readList path v else Value.readArguments path rest

def Value.readList (path : Path) : Json → Except BuildError (List Value)
  | .arr items => Value.readAll path 0 items
  | _ => .error ⟨.argumentsNotArray, path⟩

/-- The values of a list of documents, without those that stand for none and empty calls. -/
def Value.readAll (path : Path) (position : Nat) : List Json → Except BuildError (List Value)
  | [] => .ok []
  | item :: rest => do
    let value? ← Value.readAt (path.index position) item
    let values ← Value.readAll path (position + 1) rest
    match value? with
    | some value => return if value.isEmptyCall then values else value :: values
    | none => return values

def Member.readUnder (key : String) : List (String × Json) → List Member
  | [] => []
  | (k, v) :: rest => if k = key then Member.readPayload v else Member.readUnder key rest

def Member.readPayload : Json → List Member
  | .null => []
  | .arr items => Member.readAll items
  | .obj fields =>
    if Member.refersToField fields then [Member.readReference fields] else Member.readId fields
  | other => [.plain other]

def Member.readAll : List Json → List Member
  | [] => []
  | .obj fields :: rest =>
    (if Member.refersToField fields then [Member.readReference fields] else Member.readId fields)
      ++ Member.readAll rest
  | id :: rest => .plain id :: Member.readAll rest

def Member.readReference : List (String × Json) → Member
  | [] => .blankReference
  | (k, v) :: rest =>
    if k = "value" then
      match Value.readAt [.key "value"] v with
      | .ok (some value) => .reference value
      | .ok none => .blankReference
      | .error e => .brokenReference e
    else Member.readReference rest

end

def Value.read (document : Json) : Except BuildError (Option Value) := Value.readAt [] document

def Expression.read (origin : ValueKind) (document : Json) :
    Except BuildError (Option Expression) :=
  Expression.readAt origin [] document

def Token.ofPayload (label : Label) (kind : DisplayKind) (payload : Json) : Token :=
  .display label kind payload (if kind.listsMembers then Member.readPayload payload else [])

end FlowLogic
