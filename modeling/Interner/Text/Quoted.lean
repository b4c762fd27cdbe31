import Interner.Number.Digits
import Interner.Text.Visible

namespace Interner.Text

/-- The code of a character in hexadecimal digits between braces. -/
def codeEscape (c : Char) : List Char :=
  '\\' :: 'u' :: '\x7b' :: Nat.toDigits 16 c.toNat ++ ['\x7d']

/-- A character between marks of the given kind. -/
def escapeWithin (mark c : Char) : List Char :=
  if c = mark ∨ c = '\\' then ['\\', c]
  else if c = '\x00' then ['\\', '0']
  else if c = '\t' then ['\\', 't']
  else if c = '\n' then ['\\', 'n']
  else if c = '\r' then ['\\', 'r']
  else if isVisible c then [c]
  else codeEscape c

/-- A text in double quotes. -/
def quoted (text : List Char) : List Char := '"' :: text.flatMap (escapeWithin '"') ++ ['"']

def quotedChar (c : Char) : List Char := '\'' :: escapeWithin '\'' c ++ ['\'']

end Interner.Text
