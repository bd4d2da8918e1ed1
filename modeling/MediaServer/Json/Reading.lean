import MediaServer.Json.Basic
import MediaServer.Json.Written
import MediaServer.Decimal.Reading

namespace MediaServer

/-- The parts of a number's spelling: sign, digits before and after the point, and exponent. -/
structure Spelling where
  negative : Bool
  whole : List Char
  fraction : List Char
  exponent : Option Int

def Spelling.ofBytes (bytes : Bytes) : Spelling :=
  let chars := bytes.map fun byte => Char.ofNat byte.toNat
  let (negative, unsigned) := match chars with
    | '-' :: rest => (true, rest)
    | chars => (false, chars)
  let (whole, rest) := unsigned.span isDigit
  let (fraction, rest) := match rest with
    | '.' :: rest => rest.span isDigit
    | rest => ([], rest)
  let exponent := match rest with
    | _ :: '-' :: digits => some (-(exponentSize digits : Int))
    | _ :: '+' :: digits => some (exponentSize digits : Int)
    | _ :: digits => some (exponentSize digits : Int)
    | [] => none
  ⟨negative, whole, fraction, exponent⟩

/-- A number without fraction and exponent is a whole number if 64 bits hold it;
minus zero and all others are floating-point numbers. -/
def Spelling.value (spelling : Spelling) : Json :=
  let asFloat := .float (readFloat spelling.negative spelling.whole spelling.fraction
    (spelling.exponent.getD 0))
  if !spelling.fraction.isEmpty || spelling.exponent.isSome then asFloat
  else
    match ofDigitsUpTo? (if spelling.negative then 9223372036854775808 else max64) spelling.whole with
    | none => asFloat
    | some magnitude =>
      if !spelling.negative then .int magnitude
      else if magnitude = 0 then asFloat
      else .int (-(magnitude : Int))

mutual

/-- The value that is written, if all of its texts can be decoded. -/
def Written.toJson? : Written → Option Json
  | .null => some .null
  | .bool b => some (.bool b)
  | .number spelling => some (Spelling.ofBytes spelling).value
  | .text body => (Written.decodeBody? body).map .text
  | .list items => (Written.itemsToJson? items).map .list
  | .object members => (Written.membersToJson? members).map .object

def Written.itemsToJson? : List Written → Option (List Json)
  | [] => some []
  | item :: items => do
    let value ← item.toJson?
    let values ← Written.itemsToJson? items
    some (value :: values)

def Written.membersToJson? : List (Bytes × Written) → Option (List (String × Json))
  | [] => some []
  | (name, item) :: members => do
    let key ← Written.decodeBody? name
    let value ← item.toJson?
    let others ← Written.membersToJson? members
    some ((key, value) :: others)

end

def Json.read? (bytes : Bytes) : Option Json :=
  (Written.read? bytes).bind Written.toJson?

/-- The value of a member of an object; of several with one name, the last. -/
def Json.member? (name : String) : Json → Option Json
  | .object members => (members.reverse.find? (·.1 == name)).map (·.2)
  | _ => none

end MediaServer
