namespace MediaServer

def replaceChar (c : Char) (replacement : List Char) (text : List Char) : List Char :=
  text.flatMap fun x => if x == c then replacement else [x]

/-- Escapes a text for use between double quotes: first each backslash is
doubled, then each quote gets one. The other order would escape a quote's own backslash. -/
def Quoted.escape (text : List Char) : List Char :=
  replaceChar '"' ['\\', '"'] (replaceChar '\\' ['\\', '\\'] text)

/-- Reads up to the first quote that no backslash precedes: the text, and what
follows the quote. A backslash takes the next character as it is. -/
def Quoted.read? : List Char → Option (List Char × List Char)
  | [] => none
  | '"' :: rest => some ([], rest)
  | ['\\'] => none
  | '\\' :: c :: rest => (read? rest).map fun (text, after) => (c :: text, after)
  | c :: rest => (read? rest).map fun (text, after) => (c :: text, after)

def contentDisposition (filename : String) : String :=
  "inline; filename=\"" ++ String.ofList (Quoted.escape filename.toList) ++ "\""

end MediaServer
