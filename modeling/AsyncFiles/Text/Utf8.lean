/-!
Bytes as text. `lossy` reads UTF-8 and shows U+FFFD for each longest piece that cannot be the start
of a character.
-/
namespace AsyncFiles.Text.Utf8

def tail : UInt8 × UInt8 := (0x80, 0xbf)

/-- The ranges of the octets that complete a character begun by `first`. -/
def following (first : UInt8) : Option (List (UInt8 × UInt8)) :=
  if first < 0x80 then some []
  else if first < 0xc2 then none
  else if first < 0xe0 then some [tail]
  else if first = 0xe0 then some [(0xa0, 0xbf), tail]
  else if first = 0xed then some [(0x80, 0x9f), tail]
  else if first < 0xf0 then some [tail, tail]
  else if first = 0xf0 then some [(0x90, 0xbf), tail, tail]
  else if first < 0xf4 then some [tail, tail, tail]
  else if first = 0xf4 then some [(0x80, 0x8f), tail, tail]
  else none

def matched : List (UInt8 × UInt8) → List UInt8 → Nat
  | (low, high) :: ranges, octet :: rest =>
    if low ≤ octet ∧ octet ≤ high then matched ranges rest + 1 else 0
  | _, _ => 0

def leading (first : UInt8) : Nat → Nat
  | 0 => first.toNat
  | 1 => first.toNat % 32
  | 2 => first.toNat % 16
  | _ => first.toNat % 8

def codePoint (first : UInt8) (others : List UInt8) : Nat :=
  others.foldl (fun value octet => value * 64 + octet.toNat % 64) (leading first others.length)

def replacement : Char := '\ufffd'

def lossy : List UInt8 → List Char
  | [] => []
  | first :: rest =>
    let ranges := following first
    let count := matched (ranges.getD []) rest
    let shown :=
      if (ranges.map List.length) = some count then
        Char.ofNat (codePoint first (rest.take count))
      else replacement
    shown :: lossy (rest.drop count)
  termination_by octets => octets.length

def display (octets : List UInt8) : String := String.ofList (lossy octets)

end AsyncFiles.Text.Utf8
