import IssuerAudit.Text.Escaped
import IssuerAudit.Text.Hex
/-!
Texts in double quotes, the form in which names and paths stand inside messages.
Whatever the text holds, its quoted form is one line of visible characters.
-/

namespace IssuerAudit.Text.Quoted

def encodeChar (c : Char) : List Char :=
  if c = '"' then ['\\', '"']
  else if c = '\\' then ['\\', '\\']
  else if c = '\n' then ['\\', 'n']
  else if c = '\r' then ['\\', 'r']
  else if c = '\t' then ['\\', 't']
  else if c = '\x00' then ['\\', '0']
  else if isEscapedCode c.toNat then ['\\', 'u', '\x7b'] ++ hexNat c.toNat ++ ['\x7d']
  else [c]

def encode (s : String) : String :=
  String.ofList ('"' :: s.toList.flatMap encodeChar ++ ['"'])

end IssuerAudit.Text.Quoted
