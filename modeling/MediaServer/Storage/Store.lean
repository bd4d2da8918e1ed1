import MediaServer.Storage.Record

namespace MediaServer

inductive StoreFault
  | disk (fault : DiskFault)
  | corrupt
  | invalidKey (key : String)
  deriving DecidableEq, Repr

def StoreFault.message : StoreFault → String
  | .disk fault => "storage IO error: " ++ fault.message
  | .corrupt => "corrupt media record"
  | .invalidKey key => "invalid storage key \x60" ++ key ++ "\x60"

/-- Keys become names on the disk, so none may lead out of its directory. -/
def isStoreKey (key : String) : Bool :=
  key != "" && key != "." && key != ".." && !key.toList.contains '/' && !key.toList.contains '\\'

def itemPlace (origin mediaId : String) : DiskPath :=
  [origin, mediaId]

def recordPlace (origin mediaId : String) : DiskPath :=
  [origin, mediaId ++ ".json"]

/-- The steps that change a disk, as small as a crash can tell them apart. -/
inductive DiskStep
  | makeDirectories (path : DiskPath)
  | truncate (path : DiskPath)
  | append (path : DiskPath) (bytes : Bytes)
  deriving DecidableEq, Repr

def DiskStep.run (disk : Disk) : DiskStep → Except DiskFault Disk
  | .makeDirectories path => disk.makeDirectories path
  | .truncate path => disk.truncate path
  | .append path bytes => .ok (disk.append path bytes)

/-- Takes steps until one fails, and keeps what was done before. -/
def DiskStep.runAll (disk : Disk) : List DiskStep → Option DiskFault × Disk
  | [] => (none, disk)
  | step :: steps =>
    match step.run disk with
    | .error fault => (some fault, disk)
    | .ok disk => runAll disk steps

/-- Storing an item: its directory, then its bytes, and its record at last. -/
def StoredMedia.steps (media : StoredMedia) (bytes : Bytes) : List DiskStep := [
  .makeDirectories [media.origin],
  .truncate (itemPlace media.origin media.mediaId),
  .append (itemPlace media.origin media.mediaId) bytes,
  .truncate (recordPlace media.origin media.mediaId),
  .append (recordPlace media.origin media.mediaId) media.record]

def Disk.put (disk : Disk) (origin contentType filename : String) (bytes : Bytes) (newId : String) :
    Except StoreFault StoredMedia × Disk :=
  if isStoreKey origin then
    let media : StoredMedia :=
      ⟨origin, newId, contentType, filename, bytes.length, itemPlace origin newId⟩
    match DiskStep.runAll disk (media.steps bytes) with
    | (none, disk) => (.ok media, disk)
    | (some fault, disk) => (.error (.disk fault), disk)
  else (.error (.invalidKey origin), disk)

/-- Looks an item up by its record; an item without a record is not there. -/
def Disk.get (disk : Disk) (origin mediaId : String) : Except StoreFault (Option StoredMedia) × Disk :=
  if !isStoreKey origin then (.error (.invalidKey origin), disk)
  else if !isStoreKey mediaId then (.error (.invalidKey mediaId), disk)
  else
    match disk.read (recordPlace origin mediaId) with
    | (.error .notFound, disk) => (.ok none, disk)
    | (.error fault, disk) => (.error (.disk fault), disk)
    | (.ok record, disk) =>
      match StoredMedia.read? (itemPlace origin mediaId) record with
      | none => (.error .corrupt, disk)
      | some media => (.ok (some media), disk)

end MediaServer
