import AsyncFiles.Text.Utf8

namespace AsyncFiles

abbrev FileName := List UInt8

structure Path where
  bytes : List UInt8
  deriving DecidableEq, Inhabited

namespace Path

def slash : UInt8 := 0x2f

def split : List UInt8 → List FileName
  | [] => [[]]
  | octet :: rest =>
    if octet = slash then [] :: split rest
    else match split rest with
      | [] => [[octet]]
      | name :: names => (octet :: name) :: names

def components (path : Path) : List FileName :=
  (split path.bytes).filter fun name => !name.isEmpty

def isAbsolute (path : Path) : Bool := path.bytes.head? = some slash

def endsInSlash (path : Path) : Bool := path.bytes.getLast? = some slash

def hasNul (path : Path) : Bool := path.bytes.contains 0

def display (path : Path) : String := Text.Utf8.display path.bytes

end Path

end AsyncFiles
