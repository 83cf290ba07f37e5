import Servo.Text.Hidden

/-!
# Quoted texts

`Text.quote` puts a text between double quotes such that every character can be seen: a
quote, a backslash and the usual controls have short escapes, and the other characters
without a shape of their own are shown by their code.
-/

namespace Servo.Text

/-- The code of a character in braces, as in the escape of a hidden character. -/
def codeEscape (c : Char) : List Char :=
  '\\' :: 'u' :: '{' :: (Nat.toDigits 16 c.toNat ++ ['}'])

/-- How one character is shown inside quotes. -/
def quoteChar (c : Char) : List Char :=
  if c = '\x00' then ['\\', '0']
  else if c = '\t' then ['\\', 't']
  else if c = '\n' then ['\\', 'n']
  else if c = '\r' then ['\\', 'r']
  else if c = '"' then ['\\', '"']
  else if c = '\\' then ['\\', '\\']
  else if hidden c then codeEscape c
  else [c]

/-- The text between double quotes, with escapes. -/
def quote (s : String) : String :=
  String.ofList ('"' :: (s.toList.flatMap quoteChar ++ ['"']))

end Servo.Text
