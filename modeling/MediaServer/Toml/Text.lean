import MediaServer.Toml.Basic
import MediaServer.Text.Digits

namespace MediaServer

/-- The character of a code point; surrogates have none. -/
def charOfCode? (code : Nat) : Option Char :=
  if code < 0xD800 || (0xDFFF < code && code ≤ 0x10FFFF) then some (Char.ofNat code) else none

/-- Reads a code point of as many hexadecimal digits as are asked for. -/
def Toml.readCode (count : Nat) (chars : List Char) : Option (Char × List Char) := do
  let digits ← (chars.take count).mapM hexValue?
  if digits.length < count then none
  else
    let c ← charOfCode? (digits.foldl (fun code digit => code * 16 + digit) 0)
    some (c, chars.drop count)

def Toml.readEscape : List Char → Option (Char × List Char)
  | 'b' :: rest => some ('\x08', rest)
  | 't' :: rest => some ('\t', rest)
  | 'n' :: rest => some ('\n', rest)
  | 'f' :: rest => some ('\x0c', rest)
  | 'r' :: rest => some ('\r', rest)
  | '"' :: rest => some ('"', rest)
  | '\\' :: rest => some ('\\', rest)
  | 'u' :: rest => Toml.readCode 4 rest
  | 'U' :: rest => Toml.readCode 8 rest
  | _ => none

/-- Reads a text of one line up to its closing quote. The first list bounds the number of steps:
each takes a character, so the text that is read is as long as need be. -/
def Toml.readQuoted : (bound : List Char) → List Char → Option (List Char × List Char)
  | [], _ => none
  | _, [] => none
  | _ :: bound, c :: rest =>
    if c == '"' then some ([], rest)
    else if c == '\\' then
      (Toml.readEscape rest).bind fun (escaped, rest) =>
        (readQuoted bound rest).map fun (body, after) => (escaped :: body, after)
    else if Toml.isShown c then (readQuoted bound rest).map fun (body, after) => (c :: body, after)
    else none

/-- Reads a text of one line in which every character stands for itself. -/
def Toml.readLiteral : List Char → Option (List Char × List Char)
  | [] => none
  | c :: rest =>
    if c == '\x27' then some ([], rest)
    else if Toml.isShown c then (readLiteral rest).map fun (body, after) => (c :: body, after)
    else none

def Toml.skipSpace : List Char → List Char
  | '\r' :: '\n' :: rest => skipSpace rest
  | c :: rest => if c == '\n' || Toml.isBlank c then skipSpace rest else c :: rest
  | [] => []

/-- Reads a text of several lines up to the three quotes that close it. One or two quotes belong
to the text, also right before the closing ones. A backslash at the end of a line joins
the next line that shows something. -/
def Toml.readLines (quote : Char) :
    (bound : List Char) → List Char → Option (List Char × List Char)
  | [], _ => none
  | _, [] => none
  | _ :: bound, c :: rest =>
    let count := ((c :: rest).takeWhile (· == quote)).length
    if 5 < count then none
    else if 3 ≤ count then some (List.replicate (count - 3) quote, (c :: rest).drop count)
    else if c == quote then (readLines quote bound rest).map fun (body, after) => (c :: body, after)
    else if c == '\\' && quote == '"' then
      match Toml.newline? (Toml.skipBlanks rest) with
      | some next => readLines quote bound (Toml.skipSpace next)
      | none =>
        (Toml.readEscape rest).bind fun (escaped, rest) =>
          (readLines quote bound rest).map fun (body, after) => (escaped :: body, after)
    else
      match Toml.newline? (c :: rest) with
      | some next => (readLines quote bound next).map fun (body, after) => ('\n' :: body, after)
      | none =>
        if Toml.isShown c then (readLines quote bound rest).map fun (body, after) => (c :: body, after)
        else none

/-- Reads the text of several lines after the quotes that open it; a line end right there is skipped. -/
def Toml.readBlock (quote : Char) (chars : List Char) : Option (List Char × List Char) :=
  Toml.readLines quote chars ((Toml.newline? chars).getD chars)

def Toml.readText : List Char → Option (List Char × List Char)
  | '"' :: '"' :: '"' :: rest => Toml.readBlock '"' rest
  | '\x27' :: '\x27' :: '\x27' :: rest => Toml.readBlock '\x27' rest
  | '"' :: rest => Toml.readQuoted rest rest
  | '\x27' :: rest => Toml.readLiteral rest
  | _ => none

end MediaServer
