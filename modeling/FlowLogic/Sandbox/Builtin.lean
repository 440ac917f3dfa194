import FlowLogic.Definition.Tag

/-!
The functions that a registry can make callable, with what a listing says about them.
-/

namespace FlowLogic

inductive Builtin where
  | strlen | upper | lower | trim | substr | replace | split | concat | contains
  | startsWith | endsWith
  | join | count | inArray
  | abs | round | floor | ceil | max | min | sum | avg
  | toInt | toFloat | toText | isNumeric
  | jsonEncode | jsonDecode
  | md5
  | now | dateFormat
  | ifElse | default
  deriving DecidableEq

structure Arity where
  least : Nat
  most : Option Nat
  deriving DecidableEq

namespace Arity

def accepts (arity : Arity) (count : Nat) : Bool :=
  arity.least ≤ count &&
    match arity.most with
    | some most => count ≤ most
    | none => true

def exactly (count : Nat) : Arity := ⟨count, some count⟩

def between (least most : Nat) : Arity := ⟨least, some most⟩

def atLeast (least : Nat) : Arity := ⟨least, none⟩

def display (arity : Arity) : String :=
  match arity.most with
  | some most =>
    if most = arity.least then toString most else toString arity.least ++ "-" ++ toString most
  | none => toString arity.least ++ "+"

end Arity

structure Signature where
  name : String
  group : String
  result : DataType
  description : String
  arity : Arity

namespace Builtin

def signature : Builtin → Signature
  | .strlen =>
    ⟨"strlen", "string", .number, "length of a string in characters", .exactly 1⟩
  | .upper => ⟨"upper", "string", .string, "uppercase a string", .exactly 1⟩
  | .lower => ⟨"lower", "string", .string, "lowercase a string", .exactly 1⟩
  | .trim => ⟨"trim", "string", .string, "strip surrounding whitespace", .exactly 1⟩
  | .substr =>
    ⟨"substr", "string", .string, "substring by start and optional length", .between 2 3⟩
  | .replace =>
    ⟨"replace", "string", .string, "replace every occurrence of a substring", .exactly 3⟩
  | .split => ⟨"split", "string", .array, "split a string by a separator", .exactly 2⟩
  | .concat => ⟨"concat", "string", .string, "append all arguments", .atLeast 1⟩
  | .contains =>
    ⟨"contains", "string", .boolean, "substring or element membership", .exactly 2⟩
  | .startsWith => ⟨"starts_with", "string", .boolean, "string prefix test", .exactly 2⟩
  | .endsWith => ⟨"ends_with", "string", .boolean, "string suffix test", .exactly 2⟩
  | .join => ⟨"join", "array", .string, "join array elements with a separator", .between 1 2⟩
  | .count => ⟨"count", "array", .number, "number of elements", .exactly 1⟩
  | .inArray =>
    ⟨"in_array", "array", .boolean, "loose membership of a value in an array", .exactly 2⟩
  | .abs => ⟨"abs", "math", .number, "absolute value", .exactly 1⟩
  | .round => ⟨"round", "math", .number, "round to an optional precision", .between 1 2⟩
  | .floor => ⟨"floor", "math", .number, "round down", .exactly 1⟩
  | .ceil => ⟨"ceil", "math", .number, "round up", .exactly 1⟩
  | .max => ⟨"max", "math", .number, "largest argument or array element", .atLeast 1⟩
  | .min => ⟨"min", "math", .number, "smallest argument or array element", .atLeast 1⟩
  | .sum => ⟨"sum", "math", .number, "sum of arguments or array elements", .atLeast 1⟩
  | .avg => ⟨"avg", "math", .number, "mean of arguments or array elements", .atLeast 1⟩
  | .toInt => ⟨"to_int", "cast", .number, "integer part, 0 when not numeric", .exactly 1⟩
  | .toFloat => ⟨"to_float", "cast", .number, "float value, 0 when not numeric", .exactly 1⟩
  | .toText => ⟨"to_string", "cast", .string, "string form of a value", .exactly 1⟩
  | .isNumeric => ⟨"is_numeric", "cast", .boolean, "number or numeric string", .exactly 1⟩
  | .jsonEncode => ⟨"json_encode", "json", .string, "encode a value as JSON", .exactly 1⟩
  | .jsonDecode => ⟨"json_decode", "json", .expression, "decode a JSON string", .exactly 1⟩
  | .md5 => ⟨"md5", "hash", .string, "hex md5 digest", .exactly 1⟩
  | .now => ⟨"now", "date", .number, "current unix timestamp", .exactly 0⟩
  | .dateFormat => ⟨"date_format", "date", .string, "format a timestamp", .between 1 2⟩
  | .ifElse => ⟨"if_else", "logic", .expression, "pick a value by truthiness", .exactly 3⟩
  | .default =>
    ⟨"default", "logic", .expression, "fallback for unset or blank values", .exactly 2⟩

def name (builtin : Builtin) : String := builtin.signature.name

def arity (builtin : Builtin) : Arity := builtin.signature.arity

def all : List Builtin :=
  [.strlen, .upper, .lower, .trim, .substr, .replace, .split, .concat, .contains, .startsWith,
   .endsWith, .join, .count, .inArray, .abs, .round, .floor, .ceil, .max, .min, .sum, .avg, .toInt,
   .toFloat, .toText, .isNumeric, .jsonEncode, .jsonDecode, .md5, .now, .dateFormat, .ifElse,
   .default]

def ofName? (name : String) : Option Builtin := all.find? (·.name == name)

end Builtin

end FlowLogic
