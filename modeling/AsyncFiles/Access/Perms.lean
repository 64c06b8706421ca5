import AsyncFiles.Access.Bits

namespace AsyncFiles.Access

abbrev FilePerms := Bits 0xfff

namespace FilePerms

def none : FilePerms := .empty
def ownerRead : FilePerms := .ofWord 0x100
def ownerWrite : FilePerms := .ofWord 0x80
def ownerExec : FilePerms := .ofWord 0x40
def ownerAll : FilePerms := .ofWord 0x1c0
def groupRead : FilePerms := .ofWord 0x20
def groupWrite : FilePerms := .ofWord 0x10
def groupExec : FilePerms := .ofWord 0x8
def groupAll : FilePerms := .ofWord 0x38
def othersRead : FilePerms := .ofWord 0x4
def othersWrite : FilePerms := .ofWord 0x2
def othersExec : FilePerms := .ofWord 0x1
def othersAll : FilePerms := .ofWord 0x7
def all : FilePerms := .ofWord 0x1ff
def setUid : FilePerms := .ofWord 0x800
def setGid : FilePerms := .ofWord 0x400
def stickyBit : FilePerms := .ofWord 0x200
def mask : FilePerms := .full
/-- What a new file is given before the host's own mask is taken off. -/
def createDefault : FilePerms := .ofWord 0x1b6
def writeBits : FilePerms := .ofWord 0x92
def execBits : FilePerms := .ofWord 0x49
def specialBits : FilePerms := .ofWord 0xe00

def constants : List (String × FilePerms) :=
  [("NONE", none), ("OWNER_READ", ownerRead), ("OWNER_WRITE", ownerWrite),
    ("OWNER_EXEC", ownerExec), ("OWNER_ALL", ownerAll), ("GROUP_READ", groupRead),
    ("GROUP_WRITE", groupWrite), ("GROUP_EXEC", groupExec), ("GROUP_ALL", groupAll),
    ("OTHERS_READ", othersRead), ("OTHERS_WRITE", othersWrite), ("OTHERS_EXEC", othersExec),
    ("OTHERS_ALL", othersAll), ("ALL", all), ("SET_UID", setUid), ("SET_GID", setGid),
    ("STICKY_BIT", stickyBit), ("MASK", mask), ("CREATE_DEFAULT", createDefault),
    ("WRITE_BITS", writeBits), ("EXEC_BITS", execBits), ("SPECIAL_BITS", specialBits)]

def describe (perms : FilePerms) : String :=
  "FilePerms(0o" ++ String.ofList (Nat.toDigits 8 perms.word.toNat) ++ ")"

end FilePerms

end AsyncFiles.Access
