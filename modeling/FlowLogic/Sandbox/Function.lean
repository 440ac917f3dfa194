import FlowLogic.Calendar.Format
import FlowLogic.Json.Comparison
import FlowLogic.Json.Reader
import FlowLogic.Sandbox.Builtin
import FlowLogic.Text.Case
import FlowLogic.Text.Digest

/-!
What the functions compute.  Arguments are converted to the texts and numbers that a function wants;
where that is impossible the call fails.
-/

namespace FlowLogic

inductive CallFailure where
  | notNumeric (position : Nat) (actual : Json.Kind)
  | notArray (function : Builtin) (actual : Json.Kind)
  | noValues
  | invalidJson
  | invalidDate (text : String)
  | outOfRange (seconds : Int)
  | refusedFormat (format : String)
  /-- A read beyond the arguments or beyond a text. -/
  | beyondEnd
  deriving DecidableEq

namespace CallFailure

def message : CallFailure → String
  | .notNumeric position actual =>
    "argument " ++ toString (position + 1) ++ " must be numeric, got " ++ actual.name
  | .notArray function actual => function.name ++ " expects an array, got " ++ actual.name
  | .noValues => "expected at least one value"
  | .invalidJson => "invalid JSON: malformed document"
  | .invalidDate text => "invalid date '" ++ text ++ "': not a date with a time"
  | .outOfRange seconds => "timestamp out of range: " ++ toString seconds
  | .refusedFormat format => "date format '" ++ format ++ "' is refused"
  | .beyondEnd => "read beyond the end"

end CallFailure

namespace Builtin

abbrev Outcome := Except CallFailure Json

/-- An argument that the arity of the function promises. -/
def argument (arguments : List Json) (position : Nat) : Outcome :=
  match arguments[position]? with
  | some value => .ok value
  | none => .error .beyondEnd

/-- The text of an argument; a missing one is empty. -/
def textAt (arguments : List Json) (position : Nat) : List Char :=
  ((arguments[position]?).map Json.asChars).getD []

/-- A value as a number; `null` is zero and booleans are zero and one. -/
def numeric (position : Nat) : Json → Except CallFailure Binary64
  | .null => .ok (.ofInt 0)
  | .bool value => .ok (.ofInt (if value then 1 else 0))
  | other =>
    match other.toNumber? with
    | some number => .ok number
    | none => .error (.notNumeric position other.kind)

def numberAt (arguments : List Json) (position : Nat) : Except CallFailure Binary64 :=
  numeric position ((arguments[position]?).getD .null)

/-- An array that is the only argument stands for its items. -/
def spread : List Json → List Json
  | [.arr items] => items
  | arguments => arguments

def numbersFrom (position : Nat) : List Json → Except CallFailure (List Binary64)
  | [] => .ok []
  | value :: rest => do
    let number ← numeric position value
    return number :: (← numbersFrom (position + 1) rest)

def text (cs : List Char) : Json := .str (String.ofList cs)

def slice (cs : List Char) (start stop : Int) : Except CallFailure (List Char) :=
  if 0 ≤ start ∧ start ≤ stop ∧ stop ≤ cs.length then
    .ok ((cs.drop start.toNat).take (stop - start).toNat)
  else .error .beyondEnd

/-- The sum of two integers of 64 bits; one that leaves their range stays at its end. -/
def saturatedSum (x y : Int) : Int :=
  Max.max (-9223372036854775808) (Min.min 9223372036854775807 (x + y))

/-- Where a substring starts: a negative start counts from the end. -/
def startOf (length given : Int) : Int :=
  if given < 0 then Max.max 0 (saturatedSum length given) else Min.min given length

/-- Where a substring stops: a negative count stops short of the end. -/
def stopOf (length start : Int) : Option Int → Int
  | none => length
  | some given =>
    if given < 0 then Max.max start (saturatedSum length given)
    else Min.min length (saturatedSum start given)

def countAt (arguments : List Json) (position : Nat) : Except CallFailure (Option Int) :=
  match arguments[position]? with
  | none | some .null => .ok none
  | some _ => (numberAt arguments position).map fun number => some number.toInt64

def substring (arguments : List Json) : Outcome := do
  let cs := textAt arguments 0
  let start := startOf cs.length (← numberAt arguments 1).toInt64
  let stop := stopOf cs.length start (← countAt arguments 2)
  return text (← slice cs start (Max.max start stop))

def replaceAll (arguments : List Json) : Outcome :=
  let pattern := textAt arguments 1
  if pattern.isEmpty then .ok (text (textAt arguments 0))
  else .ok (text (Text.replace pattern (textAt arguments 2) (textAt arguments 0)))

def splitAll (arguments : List Json) : Outcome :=
  let separator := textAt arguments 1
  if separator.isEmpty then .ok (.arr ((textAt arguments 0).map fun c => text [c]))
  else .ok (.arr ((Text.split separator (textAt arguments 0)).map text))

def joinAll (arguments : List Json) : Outcome := do
  let separator := ((arguments[1]?).map Json.asChars).getD [',']
  match ← argument arguments 0 with
  | .arr items => .ok (text (Text.join separator (items.map Json.asChars)))
  | other => .error (.notArray .join other.kind)

def countOf : Json → Json
  | .null => .ofNat 0
  | .arr items => .ofNat items.length
  | .obj fields => .ofNat fields.length
  | _ => .ofNat 1

def memberOf (arguments : List Json) : Outcome := do
  let wanted ← argument arguments 0
  match ← argument arguments 1 with
  | .arr items => .ok (.bool (items.any (Json.looseEq · wanted)))
  | other => .error (.notArray .inArray other.kind)

def mapNumber (f : Binary64 → Binary64) (arguments : List Json) : Outcome :=
  (numberAt arguments 0).map fun number => .ofNumber (f number)

def roundTo (arguments : List Json) : Outcome := do
  let number ← numberAt arguments 0
  let places ←
    match arguments[1]? with
    | some _ => Binary64.toInt32 <$> numberAt arguments 1
    | none => pure 0
  let factor := Binary64.pow (.ofInt 10) places
  return .ofNumber ((number * factor).round / factor)

/-- The first of the values that no later one exceeds in the wanted direction. -/
def extreme (wanted : Ordering) (arguments : List Json) : Outcome :=
  match spread arguments with
  | [] => .error .noValues
  | first :: rest =>
    .ok (rest.foldl (fun best value =>
      if Json.order? value best == some wanted then value else best) first)

def total (numbers : List Binary64) : Binary64 := numbers.foldl (· + ·) (.ofInt 0)

def sumAll (arguments : List Json) : Outcome := do
  return .ofNumber (total (← numbersFrom 0 (spread arguments)))

def average (arguments : List Json) : Outcome := do
  match ← numbersFrom 0 (spread arguments) with
  | [] => return .null
  | numbers => return .ofNumber (total numbers / .ofInt numbers.length)

def numberOrZero (arguments : List Json) : Binary64 :=
  match numberAt arguments 0 with
  | .ok number => number
  | .error _ => .ofInt 0

def decode : Json → Outcome
  | .str document =>
    match Json.read? document with
    | some value => .ok value
    | none => .error .invalidJson
  | other => .ok other

/-- The moment of a date with a time, or else of a number of seconds. -/
def momentOf (value : Json) : Except CallFailure Moment :=
  match value, value.toNumber? with
  | .str given, none =>
    match Moment.read? (Text.trim given.toList) with
    | some moment => .ok moment
    | none => .error (.invalidDate given)
  | _, _ => do
    let seconds := (← numeric 0 value).toInt64
    match Moment.ofSeconds? seconds with
    | some moment => .ok moment
    | none => .error (.outOfRange seconds)

def formatDate (arguments : List Json) : Outcome := do
  let format := ((arguments[1]?).map Json.asText).getD Moment.usualFormat
  let moment ← momentOf (← argument arguments 0)
  match moment.format? format with
  | some shown => return .str shown
  | none => .error (.refusedFormat format)

def choose (arguments : List Json) : Outcome := do
  if (← argument arguments 0).isTrue then argument arguments 1 else argument arguments 2

def fallback (arguments : List Json) : Outcome := do
  let value ← argument arguments 0
  let blank :=
    match value with
    | .str given => given == ""
    | other => other.isUnset
  if blank then argument arguments 1 else return value

def run (clock : Int) (builtin : Builtin) (arguments : List Json) : Outcome :=
  match builtin with
  | .strlen => .ok (.ofNat (textAt arguments 0).length)
  | .upper => .ok (text (Text.upper (textAt arguments 0)))
  | .lower => .ok (text (Text.lower (textAt arguments 0)))
  | .trim => .ok (text (Text.trim (textAt arguments 0)))
  | .substr => substring arguments
  | .replace => replaceAll arguments
  | .split => splitAll arguments
  | .concat => .ok (text (arguments.flatMap Json.asChars))
  | .contains => do return .bool (Json.holds (← argument arguments 0) (← argument arguments 1))
  | .startsWith => .ok (.bool ((textAt arguments 1).isPrefixOf (textAt arguments 0)))
  | .endsWith => .ok (.bool ((textAt arguments 1).isSuffixOf (textAt arguments 0)))
  | .join => joinAll arguments
  | .count => (argument arguments 0).map countOf
  | .inArray => memberOf arguments
  | .abs => mapNumber Binary64.abs arguments
  | .round => roundTo arguments
  | .floor => mapNumber Binary64.floor arguments
  | .ceil => mapNumber Binary64.ceil arguments
  | .max => extreme .gt arguments
  | .min => extreme .lt arguments
  | .sum => sumAll arguments
  | .avg => average arguments
  | .toInt => .ok ((Json.ofInt? (numberOrZero arguments).toInt64).getD .null)
  | .toFloat => .ok (.ofBinary64 (numberOrZero arguments))
  | .toText => .ok (text (textAt arguments 0))
  | .isNumeric => (argument arguments 0).map fun value => .bool value.toNumber?.isSome
  | .jsonEncode => (argument arguments 0).map fun value => .str value.compact
  | .jsonDecode => do decode (← argument arguments 0)
  | .md5 => .ok (.str (Text.Digest.hex (String.ofList (textAt arguments 0))))
  | .now => .ok ((Json.ofInt? clock).getD .null)
  | .dateFormat => formatDate arguments
  | .ifElse => choose arguments
  | .default => fallback arguments

end Builtin

end FlowLogic
