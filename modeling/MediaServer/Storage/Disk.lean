import MediaServer.Text.Utf8

namespace MediaServer

/-- The names on the way from the root of the disk. -/
abbrev DiskPath := List String

inductive DiskNode
  | file (content : Bytes)
  | directory
  deriving DecidableEq, Repr

/-- Files and directories by path, and every path that was opened for reading or writing.
The root is always a directory. -/
structure Disk where
  nodes : List (DiskPath × DiskNode)
  opened : List DiskPath
  deriving DecidableEq, Repr

inductive DiskFault
  | notFound
  | exists
  | notDirectory
  | isDirectory
  | nameTooLong
  | zeroInName
  deriving DecidableEq, Repr

def DiskFault.message : DiskFault → String
  | .notFound => "No such file or directory (os error 2)"
  | .exists => "File exists (os error 17)"
  | .notDirectory => "Not a directory (os error 20)"
  | .isDirectory => "Is a directory (os error 21)"
  | .nameTooLong => "File name too long (os error 36)"
  | .zeroInName => "file name contained an unexpected NUL byte"

def DiskFault.ofNumber? : Nat → Option DiskFault
  | 2 => some .notFound
  | 17 => some .exists
  | 20 => some .notDirectory
  | 21 => some .isDirectory
  | 36 => some .nameTooLong
  | _ => none

def Disk.empty : Disk :=
  ⟨[], []⟩

/-- The longest name in bytes. -/
def nameLimit : Nat := 255

/-- How large a directory appears when it is opened like a file. -/
def directorySize : Nat := 4096

def Disk.node? (disk : Disk) (path : DiskPath) : Option DiskNode :=
  if path.isEmpty then some .directory else disk.nodes.lookup path

/-- Follows names from a directory on. What the path leads to may be missing,
but all on the way has to be there. -/
def Disk.follow (disk : Disk) (place : DiskPath) : List String → Except DiskFault (Option DiskNode)
  | [] => .ok (disk.node? place)
  | name :: names =>
    if nameLimit < (Utf8.encode name).length then .error .nameTooLong
    else if names.isEmpty then .ok (disk.node? (place ++ [name]))
    else
      match disk.node? (place ++ [name]) with
      | none => .error .notFound
      | some (.file _) => .error .notDirectory
      | some .directory => disk.follow (place ++ [name]) names

/-- No name on a disk has a zero in it. -/
def DiskPath.hasZero (path : DiskPath) : Bool :=
  path.any (·.toList.contains '\x00')

def Disk.find (disk : Disk) (path : DiskPath) : Except DiskFault (Option DiskNode) :=
  if DiskPath.hasZero path then .error .zeroInName else disk.follow [] path

def Disk.set (disk : Disk) (path : DiskPath) (node : DiskNode) : Disk :=
  { disk with nodes := disk.nodes.filter (·.1 != path) ++ [(path, node)] }

def Disk.noteOpened (disk : Disk) (path : DiskPath) : Disk :=
  { disk with opened := disk.opened ++ [path] }

/-- Makes directories one inside the other, the first in a directory that is there, as many of
them as can be made. Those that are there already stay. -/
def Disk.makeInside (disk : Disk) (place : DiskPath) : List String → Option DiskFault × Disk
  | [] => (none, disk)
  | name :: names =>
    if nameLimit < (Utf8.encode name).length then (some .nameTooLong, disk)
    else
      match disk.node? (place ++ [name]) with
      | none => (disk.set (place ++ [name]) .directory).makeInside (place ++ [name]) names
      | some .directory => disk.makeInside (place ++ [name]) names
      | some (.file _) => (some .exists, disk)

/-- Makes the directories that lead to a place and the one at its end. -/
def Disk.makeDirectories (disk : Disk) (path : DiskPath) : Except DiskFault Disk :=
  if DiskPath.hasZero path then .error .zeroInName
  else
    match disk.makeInside [] path with
    | (none, disk) => .ok disk
    | (some fault, _) => .error fault

/-- Makes the directories on the way to a place, as many of them as can be made. -/
def Disk.openWay (disk : Disk) (path : DiskPath) : Disk :=
  if DiskPath.hasZero path.dropLast then disk else (disk.makeInside [] path.dropLast).2

/-- Opens a file to write it anew; what it held is gone. -/
def Disk.truncate (disk : Disk) (path : DiskPath) : Except DiskFault Disk :=
  match disk.find path with
  | .error fault => .error fault
  | .ok (some .directory) => .error .isDirectory
  | .ok _ => .ok ((disk.set path (.file [])).noteOpened path)

def Disk.append (disk : Disk) (path : DiskPath) (bytes : Bytes) : Disk :=
  match disk.node? path with
  | some (.file content) => disk.set path (.file (content ++ bytes))
  | _ => disk

def Disk.write (disk : Disk) (path : DiskPath) (bytes : Bytes) : Except DiskFault Disk :=
  (disk.truncate path).map (·.append path bytes)

/-- The content of a file. A directory can be opened but not read. -/
def Disk.read (disk : Disk) (path : DiskPath) : Except DiskFault Bytes × Disk :=
  match disk.find path with
  | .error fault => (.error fault, disk)
  | .ok none => (.error .notFound, disk)
  | .ok (some .directory) => (.error .isDirectory, disk.noteOpened path)
  | .ok (some (.file content)) => (.ok content, disk.noteOpened path)

/-- Opens what is at a path and leaves the reading for later. -/
def Disk.open (disk : Disk) (path : DiskPath) : Except DiskFault DiskNode × Disk :=
  match disk.find path with
  | .error fault => (.error fault, disk)
  | .ok none => (.error .notFound, disk)
  | .ok (some node) => (.ok node, disk.noteOpened path)

def Disk.remove (disk : Disk) (path : DiskPath) : Except DiskFault Disk :=
  match disk.find path with
  | .error fault => .error fault
  | .ok none => .error .notFound
  | .ok (some .directory) => .error .isDirectory
  | .ok (some (.file _)) => .ok { disk with nodes := disk.nodes.filter (·.1 != path) }

def Disk.list (disk : Disk) (path : DiskPath) : List String :=
  disk.nodes.filterMap fun (place, _) =>
    if place.dropLast = path then place.getLast? else none

end MediaServer
