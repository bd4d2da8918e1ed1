import MediaServer.CommandLine

namespace MediaServer

/-- Why a file cannot be read. The number of a fault comes with either sign. -/
def faultText (fault : IO.Error) : String :=
  let known : Option DiskFault := match fault with
    | .noFileOrDirectory .. => some .notFound
    | .inappropriateType _ number _ => DiskFault.ofNumber? (min number (0 - number)).toNat
    | .invalidArgument _ number _ => DiskFault.ofNumber? (min number (0 - number)).toNat
    | _ => none
  (known.map DiskFault.message).getD fault.toString

def readSettingsFile (file : String) : IO (Except String Bytes) := do
  try
    let content ← IO.FS.readBinFile file
    return .ok content.data.toList
  catch fault =>
    return .error (faultText fault)

end MediaServer

open MediaServer in
/-- Loads the settings and tells whether they are right. It opens no sockets. -/
def main (arguments : List String) : IO UInt32 := do
  match ← runArguments readSettingsFile arguments with
  | .quit printed =>
    IO.print printed.output
    IO.eprint printed.errors
    return printed.code.toUInt32
  | .serve settings =>
    IO.eprintln (settings.listenAddress ++ ": this program checks settings and does not listen")
    return 1
