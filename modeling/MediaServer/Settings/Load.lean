import MediaServer.Settings.Overlay
import MediaServer.Settings.Check
import MediaServer.Toml.Document
import MediaServer.Text.Utf8

namespace MediaServer

/-- Why settings could not be loaded. A document that does not follow the grammar is no
worse described than that. -/
inductive LoadFault
  | unreadable (reason : String)
  | badGrammar
  | badType (fault : TypeFault)
  | invalid (faults : List SettingsFault)

def SettingsFault.join (faults : List SettingsFault) : String :=
  String.intercalate ", " (faults.map (·.message))

/-- The text of a settings file: it has to follow the grammar, then the types, then the rules. -/
def Settings.parse (text : String) : Except LoadFault Settings :=
  match Toml.read? text with
  | none => .error .badGrammar
  | some members =>
    match Settings.ofMembers members with
    | .error fault => .error (.badType fault)
    | .ok settings => if settings.isValid then .ok settings else .error (.invalid settings.faults)

/-- What reading a settings file gave: its bytes, or why there are none. -/
def Settings.load (content : Except String Bytes) : Except LoadFault Settings :=
  match content with
  | .error reason => .error (.unreadable reason)
  | .ok bytes =>
    match Utf8.decode? bytes with
    | none => .error (.unreadable "stream did not contain valid UTF-8")
    | some text => Settings.parse text

def LoadFault.message : LoadFault → String
  | .unreadable reason => "IO error: " ++ reason
  | .badGrammar => "Parse error"
  | .badType fault => "Parse error: " ++ fault.message
  | .invalid faults => "Validation failed: " ++ SettingsFault.join faults

end MediaServer
