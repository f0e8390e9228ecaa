import TabletopDice.Text.Visible

/-!
# Text — quoting inside messages

A message that shows a text puts it in double quotes.  A double quote or a backslash in the text
has a backslash before it; NUL, tab, line feed and carriage return are written as `\0`, `\t`, `\n`
and `\r`; every other character that is not visible is written as its code point, in lower-case
hexadecimal between braces after `\u`.
-/

namespace TabletopDice.Text

/-- One character as it stands between quotes. -/
def quotedChar (c : Char) : List Char :=
  if c = '"' ∨ c = '\\' then ['\\', c]
  else if c = '\x00' then ['\\', '0']
  else if c = '\t' then ['\\', 't']
  else if c = '\n' then ['\\', 'n']
  else if c = '\r' then ['\\', 'r']
  else if isVisible c then [c]
  else ['\\', 'u', '\x7b'] ++ Nat.toDigits 16 c.toNat ++ ['\x7d']

/-- `text` between quotes. -/
def quoted (text : String) : String :=
  String.ofList ('"' :: text.toList.flatMap quotedChar ++ ['"'])

end TabletopDice.Text
