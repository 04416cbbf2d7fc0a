import GlslAssist.Text.Unprinted

/-!
# Quoted text in messages

A message shows foreign text between double quotes, on one line and unambiguously: quotes and
backslashes are escaped, line breaks, tabs and the null character are written by letter, and
whatever has no printed form of its own is written by its number in braces.
-/

namespace GlslAssist.Text

def quoteChar (c : Char) : List Char :=
  match c with
  | '"' => ['\\', '"']
  | '\\' => ['\\', '\\']
  | '\n' => ['\\', 'n']
  | '\r' => ['\\', 'r']
  | '\t' => ['\\', 't']
  | c =>
    if c.toNat = 0 then ['\\', '0']
    else if isUnprinted c then ['\\', 'u', '\x7b'] ++ Nat.toDigits 16 c.toNat ++ ['\x7d']
    else [c]

def quoted (s : String) : String :=
  "\"" ++ String.ofList (s.toList.flatMap quoteChar) ++ "\""

end GlslAssist.Text
