import AsyncFiles.Text.Extending
import AsyncFiles.Text.Invisible
import AsyncFiles.Text.Unassigned

namespace AsyncFiles.Text.Quoted

def prints (character : Char) : Bool :=
  [controls, formats, separators, privateUse, fillers, extending, unassigned].all fun ranges =>
    !ranges.contains character

def escape (character : Char) : List Char :=
  if character = '\x00' then ['\\', '0']
  else if character = '\t' then ['\\', 't']
  else if character = '\n' then ['\\', 'n']
  else if character = '\r' then ['\\', 'r']
  else if character = '"' then ['\\', '"']
  else if character = '\\' then ['\\', '\\']
  else if prints character then [character]
  else ['\\', 'u', '\x7b'] ++ Nat.toDigits 16 character.toNat ++ ['\x7d']

def quote (text : String) : String :=
  String.ofList ('"' :: text.toList.flatMap escape ++ ['"'])

end AsyncFiles.Text.Quoted
