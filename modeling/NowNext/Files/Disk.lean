import NowNext.Files.Path

set_option autoImplicit false

namespace NowNext

inductive ReadFault where
  | notFound
  | isDirectory
  | notDirectory
  | invalidText
  | invalidPath
  | other (reason : String)
deriving DecidableEq

namespace ReadFault

def message : ReadFault → String
  | notFound => "No such file or directory (os error 2)"
  | isDirectory => "Is a directory (os error 21)"
  | notDirectory => "Not a directory (os error 20)"
  | invalidText => "stream did not contain valid UTF-8"
  | invalidPath => "file name contained an unexpected NUL byte"
  | other reason => reason

end ReadFault

inductive DiskEntry where
  | directory
  | file (content : ByteArray)
  | broken (cause : ReadFault)

def DiskEntry.read (path : String) : DiskEntry → Except ReadFault String
  | directory => .error .isDirectory
  | broken cause => .error cause
  | file content =>
      if Path.asksDirectory path then .error .notDirectory
      else (String.fromUTF8? content).elim (.error .invalidText) .ok

abbrev Disk := List (String × DiskEntry)

namespace Disk

def find? (disk : Disk) (path : String) : Option DiskEntry :=
  (List.find? (fun entry => Path.names entry.1 == Path.names path &&
    Path.isAbsolute entry.1 == Path.isAbsolute path) disk).map (·.2)

def isFile (disk : Disk) (names : List (List Char)) : Bool :=
  disk.any fun entry =>
    match entry.2 with
    | .file _ => Path.names entry.1 == names
    | .directory | .broken _ => false

def passesFile (disk : Disk) (path : String) : Bool :=
  !Path.isAbsolute path &&
    (List.range (Path.names path).length).any fun n => disk.isFile ((Path.names path).take n)

def isParent (disk : Disk) (path : String) : Bool :=
  (Path.names path).isEmpty || disk.any fun entry =>
    !Path.isAbsolute path && (Path.names path).isPrefixOf (Path.names entry.1)

def missing (disk : Disk) (path : String) : ReadFault :=
  if disk.passesFile path then .notDirectory
  else if disk.isParent path then .isDirectory
  else .notFound

def read (disk : Disk) (path : String) : Except ReadFault String :=
  if path.toList.contains '\x00' then .error .invalidPath
  else if path.isEmpty then .error .notFound
  else
    match disk.find? path with
    | some entry => entry.read path
    | none => .error (disk.missing path)

end Disk

end NowNext
