import BearerAuth.Text.Invisible

/-! Texts in quotation marks for people to read. Marks, backslashes and everything that
cannot be seen are written as escapes, so the quoted text shows exactly what it holds. -/

namespace BearerAuth.Text

/-- How a character is written inside quotation marks. -/
def shown (c : Char) : List Char :=
  if c = '"' then ['\\', '"']
  else if c = '\\' then ['\\', '\\']
  else if c = '\n' then ['\\', 'n']
  else if c = '\r' then ['\\', 'r']
  else if c = '\t' then ['\\', 't']
  else if c = '\x00' then ['\\', '0']
  else if isInvisible c then ['\\', 'u', '\x7b'] ++ Nat.toDigits 16 c.toNat ++ ['\x7d']
  else [c]

def quoted (text : String) : String :=
  String.ofList ('"' :: text.toList.flatMap shown ++ ['"'])

/-- Quoted texts in brackets with commas between them. -/
def quotedList (texts : List String) : String :=
  "[" ++ String.intercalate ", " (texts.map quoted) ++ "]"

end BearerAuth.Text
