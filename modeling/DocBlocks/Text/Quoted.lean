import DocBlocks.Text.Printable

/-!
A text between quotes with every character made visible: short escapes for the
usual controls, `\\u` and a hexadecimal number in braces for what is not printable.
-/
namespace DocBlocks.Text

/-- Lower-case hexadecimal digits without leading zeros. -/
def hex (n : Nat) : List Char := Nat.toDigits 16 n

/-- A character as it stands between the quotes; an apostrophe stands for itself. -/
def visible (c : Char) : List Char :=
  if c = '\x00' then ['\\', '0']
  else if c = '\t' then ['\\', 't']
  else if c = '\r' then ['\\', 'r']
  else if c = '\n' then ['\\', 'n']
  else if c = '"' then ['\\', '"']
  else if c = '\\' then ['\\', '\\']
  else if isPrintable c then [c]
  else ['\\', 'u', '\x7b'] ++ hex c.toNat ++ ['\x7d']

/-- A text in double quotes. -/
def quoted (text : String) : String :=
  String.ofList ('"' :: text.toList.flatMap visible ++ ['"'])

end DocBlocks.Text
