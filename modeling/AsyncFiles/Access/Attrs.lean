import AsyncFiles.Access.Bits

namespace AsyncFiles.Access

abbrev FileAttrs := Bits 0x1ff

namespace FileAttrs

def none : FileAttrs := .empty
def hidden : FileAttrs := .ofWord 1
def system : FileAttrs := .ofWord 2
def archive : FileAttrs := .ofWord 4
def noDump : FileAttrs := .ofWord 8
def notIndexed : FileAttrs := .ofWord 16
def userImmutable : FileAttrs := .ofWord 32
def systemImmutable : FileAttrs := .ofWord 64
def userNoUnlink : FileAttrs := .ofWord 128
def systemNoUnlink : FileAttrs := .ofWord 256
def all : FileAttrs := .full

def hostSupported : FileAttrs := none

def hostRejected : FileAttrs := ((hidden.union system).union notIndexed).diff hostSupported

def flagNames : List (String × FileAttrs) :=
  [("HIDDEN", hidden), ("SYSTEM", system), ("ARCHIVE", archive), ("NO_DUMP", noDump),
    ("NOT_INDEXED", notIndexed), ("USER_IMMUTABLE", userImmutable),
    ("SYSTEM_IMMUTABLE", systemImmutable), ("USER_NO_UNLINK", userNoUnlink),
    ("SYSTEM_NO_UNLINK", systemNoUnlink)]

def constants : List (String × FileAttrs) :=
  flagNames ++ [("NONE", none), ("ALL", all), ("host_supported", hostSupported),
    ("host_rejected", hostRejected)]

def describe (attrs : FileAttrs) : String := Bits.describe "FileAttrs" flagNames attrs

end FileAttrs

end AsyncFiles.Access
