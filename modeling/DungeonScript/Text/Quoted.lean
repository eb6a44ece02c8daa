import DungeonScript.Text.Glyphless

/-!
Quoted text, as the log shows the messages of a game: in double quotes, with a
backslash before a quote or a backslash, short forms for the common controls, and
the code point of every other character without a glyph of its own.
-/

namespace DungeonScript

/-- Whether a character stands for itself in a quoted text. -/
def hasGlyph (c : Char) : Bool :=
  if c.toNat < 0x80 then 0x20 ≤ c.toNat && c.toNat < 0x7F
  else !glyphless.any fun span => span.1 ≤ c.toNat && c.toNat ≤ span.2

/-- A code point in lower-case hexadecimal digits. -/
def hexDigits (n : Nat) : List Char := Nat.toDigits 16 n

def quoteChar (c : Char) : List Char :=
  if c = '"' ∨ c = '\\' then ['\\', c]
  else if c = '\x00' then ['\\', '0']
  else if c = '\t' then ['\\', 't']
  else if c = '\r' then ['\\', 'r']
  else if c = '\n' then ['\\', 'n']
  else if hasGlyph c then [c]
  else ['\\', 'u', '{'] ++ hexDigits c.toNat ++ ['}']

def quoted (text : String) : String :=
  String.ofList ('"' :: (text.toList.flatMap quoteChar ++ ['"']))

end DungeonScript
