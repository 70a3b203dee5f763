import BufferRental.Text.AttachedMark
import BufferRental.Text.Unprintable

/-! Characters and strings in quotes. A character is written as itself unless a reader could not
see it or could take it for part of the quotes. -/
namespace BufferRental.Text

def codePoint (c : Char) : List Char :=
  ['\\', 'u', '\x7b'] ++ Nat.toDigits 16 c.toNat ++ ['\x7d']

/-- The form of a character between two quotes of the kind `quote`; the other kind of quote
needs no backslash. -/
def escaped (quote c : Char) : List Char :=
  if c = '\x00' then ['\\', '0']
  else if c = '\t' then ['\\', 't']
  else if c = '\n' then ['\\', 'n']
  else if c = '\r' then ['\\', 'r']
  else if c = '\\' then ['\\', '\\']
  else if c = quote then ['\\', c]
  else if isAttachedMark c || isUnprintable c then codePoint c
  else [c]

def quotedString (s : String) : String :=
  String.ofList ('"' :: s.toList.flatMap (escaped '"') ++ ['"'])

def quotedChar (c : Char) : String :=
  String.ofList ('\'' :: escaped '\'' c ++ ['\''])

end BufferRental.Text
