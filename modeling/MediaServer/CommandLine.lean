import MediaServer.Startup

namespace MediaServer

structure Arguments where
  settingsFile? : Option String
  check : Bool
  deriving DecidableEq, Repr

/-- What the arguments ask for: the help text, or to load settings and maybe only check them. -/
inductive Command
  | help
  | load (settingsFile : String) (check : Bool)
  deriving DecidableEq, Repr

def defaultSettingsFile : String := "media-repo.toml"

def Arguments.command (arguments : Arguments) : Command :=
  .load (arguments.settingsFile?.getD defaultSettingsFile) arguments.check

/-- The file is named once, and not by an empty text. -/
def Arguments.setFile? (arguments : Arguments) (file : String) : Option Arguments :=
  if arguments.settingsFile?.isSome || file.isEmpty then none
  else some { arguments with settingsFile? := some file }

/-- A value in an argument of its own does not look like an option. -/
def isValueArgument (argument : String) : Bool :=
  argument == "-" || argument.toList.head? ≠ some '-'

/-- What an argument is: an option that takes the next argument, one with its value, a
switch, the help option, the mark that ends all options, or nothing known. -/
inductive Argument
  | file
  | fileIs (value : String)
  | check
  | help
  | mark
  | unknown
  deriving DecidableEq, Repr

/-- A value right after a short option; an equals sign between them is not part of it. -/
def Argument.ofShort : List Char → Argument
  | 'c' :: [] => .file
  | 'c' :: '=' :: value => .fileIs (String.ofList value)
  | 'c' :: value => .fileIs (String.ofList value)
  | 'h' :: _ => .help
  | _ => .unknown

def Argument.ofLong (chars : List Char) : Argument :=
  match cutAt '=' chars with
  | (name, none) =>
    if name.isEmpty then .mark
    else if String.ofList name = "config" then .file
    else if String.ofList name = "check" then .check
    else if String.ofList name = "help" then .help
    else .unknown
  | (name, some value) =>
    if String.ofList name = "config" then .fileIs (String.ofList value) else .unknown

def Argument.ofText (text : String) : Argument :=
  match text.toList with
  | '-' :: '-' :: chars => .ofLong chars
  | '-' :: c :: chars => .ofShort (c :: chars)
  | _ => .unknown

/-- Reads arguments in order; none if they are not used as they should be. -/
def Arguments.read? : List String → Arguments → Option Command
  | [], arguments => some arguments.command
  | text :: others, arguments =>
    match Argument.ofText text with
    | .file =>
      match others with
      | [] => none
      | value :: others =>
        if isValueArgument value then (arguments.setFile? value).bind (read? others) else none
    | .fileIs value => (arguments.setFile? value).bind (read? others)
    | .check => if arguments.check then none else read? others { arguments with check := true }
    | .help => some .help
    | .mark => if others.isEmpty then some arguments.command else none
    | .unknown => none

def Command.ofArguments? (arguments : List String) : Option Command :=
  Arguments.read? arguments ⟨none, false⟩

def usageText : String :=
  "Usage: media-gateway [OPTIONS]\n"

def helpText : String :=
  "Media repository gateway\n\n" ++ usageText ++ "\nOptions:\n" ++
  "  -c, --config <CONFIG>  Path to the TOML configuration file [default: media-repo.toml]\n" ++
  "      --check            Validate the configuration and exit\n" ++
  "  -h, --help             Print help\n"

structure Printed where
  code : Nat
  output : String
  errors : String
  deriving DecidableEq, Repr

/-- The end of a run, or the settings to serve with. -/
inductive Action
  | quit (printed : Printed)
  | serve (settings : Settings)

def loadAction (file : String) (check : Bool) (content : Except String Bytes) : Action :=
  match Settings.load content with
  | .error fault => .quit ⟨1, "", file ++ ": " ++ (StartupFault.settings fault).message ++ "\n"⟩
  | .ok settings => if check then .quit ⟨0, file ++ ": configuration ok\n", ""⟩ else .serve settings

/-- What the program does for its arguments, given a way to read files. -/
def runArguments {m : Type → Type} [Monad m] (readFile : String → m (Except String Bytes))
    (arguments : List String) : m Action :=
  match Command.ofArguments? arguments with
  | none => pure (.quit ⟨2, "", usageText⟩)
  | some .help => pure (.quit ⟨0, helpText, ""⟩)
  | some (.load file check) => do
    let content ← readFile file
    return loadAction file check content

end MediaServer
