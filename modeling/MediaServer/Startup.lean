import MediaServer.Settings.Load
import MediaServer.Gateway.Serve

namespace MediaServer

inductive BindFault
  | noPort
  | badPort
  | zeroInHost
  | unknownHost
  | unavailable
  deriving DecidableEq, Repr

def BindFault.message : BindFault → String
  | .noPort => "invalid socket address"
  | .badPort => "invalid port value"
  | .zeroInHost => DiskFault.zeroInName.message
  | .unknownHost => "failed to lookup address information: Name or service not known"
  | .unavailable => "Cannot assign requested address (os error 99)"

inductive StartupFault
  | settings (fault : LoadFault)
  | store (fault : StoreFault)
  | routes (fault : RouteFault)
  | bind (address : String) (fault : BindFault)

def StartupFault.message : StartupFault → String
  | .settings fault => "configuration error: " ++ fault.message
  | .store fault => "failed to open media store: " ++ fault.message
  | .routes fault => "failed to build routes: " ++ fault.message
  | .bind address fault => "failed to bind " ++ address ++ ": " ++ fault.message

/-- Makes the directory that keeps the media, unless it is there, and builds the server.
Nothing is listening yet. -/
def Gateway.prepare (settings : Settings) (disk : Disk) (storage : DiskPath) :
    Except StartupFault (Gateway × World) :=
  match disk.makeDirectories storage with
  | .error fault => .error (.store (.disk fault))
  | .ok disk =>
    match Gateway.ofSettings settings none with
    | .error fault => .error (.routes fault)
    | .ok gateway => .ok (gateway, World.start settings disk)

/-- Any address of four bytes can be listened on; of the others, the loopback address and
the one that stands for all. -/
def Address.isAvailable : Address → Bool
  | .four _ _ _ _ => true
  | .six groups => groups == List.replicate 8 0 || groups == List.replicate 7 0 ++ [1]

/-- The address of a host that is known without asking other machines. -/
def Address.ofHost? (host : List Char) : Option Address :=
  if host.map Char.toLower = ['l', 'o', 'c', 'a', 'l', 'h', 'o', 's', 't'] then some (.four 127 0 0 1)
  else (Address.four? host).or (Address.six? host)

/-- The address and port that a text names: the port follows the last colon. -/
def Address.resolve (text : String) : Except BindFault (Address × Nat) :=
  match Address.withPort? text with
  | some found => .ok found
  | none =>
    match (pieces ':' text.toList).reverse with
    | port :: last :: others =>
      match readUnsigned? max16 (String.ofList port) with
      | none => .error .badPort
      | some port =>
        let host := [':'].intercalate (last :: others).reverse
        if host.contains '\x00' then .error .zeroInHost
        else
          match Address.ofHost? host with
          | none => .error .unknownHost
          | some address => .ok (address, port)
    | _ => .error .noPort

def Address.listenOn (text : String) : Except StartupFault (Address × Nat) :=
  match Address.resolve text with
  | .error fault => .error (.bind text fault)
  | .ok (address, port) =>
    if address.isAvailable then .ok (address, port) else .error (.bind text .unavailable)

end MediaServer
