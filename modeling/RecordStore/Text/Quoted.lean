import RecordStore.Text.Quoted.Table

/-! Text between double quotes, with escapes for what would not show. -/
namespace RecordStore.Text.Quoted

/-- Lower case hexadecimal digits, without leading zeros. -/
def hex (n : Nat) : List Char := Nat.toDigits 16 n

/-- The escape that names a character by its code point. -/
def codeEscape (c : Char) : List Char := ['\\', 'u', '{'] ++ hex c.toNat ++ ['}']

/-- Whether the character shows by itself; ASCII is settled without the tables. -/
def shows (c : Char) : Bool :=
  if c.toNat < 0x80 then 0x20 ≤ c.toNat && c.toNat != 0x7F
  else visible.contains c && !attaching.contains c

def escape (c : Char) : List Char :=
  if c = '\x00' then ['\\', '0']
  else if c = '\t' then ['\\', 't']
  else if c = '\r' then ['\\', 'r']
  else if c = '\n' then ['\\', 'n']
  else if c = '\\' then ['\\', '\\']
  else if c = '"' then ['\\', '"']
  else if shows c then [c]
  else codeEscape c

def display (s : String) : String := String.ofList (['"'] ++ s.toList.flatMap escape ++ ['"'])

/-- The characters of a literal: a zero character before an octal digit is written in full, so
that the digit is not taken for a part of it. -/
def literalChars : List Char → List Char
  | [] => []
  | '\x00' :: c :: rest =>
    (if '0' ≤ c ∧ c ≤ '7' then ['\\', 'x', '0', '0'] else ['\\', '0']) ++ literalChars (c :: rest)
  | c :: rest => escape c ++ literalChars rest

def literal (s : String) : String := String.ofList (['"'] ++ literalChars s.toList ++ ['"'])

example : display "a\"b\u0301\u200B" = "\"a\\\"b\\u\x7b301\x7d\\u\x7b200b\x7d\"" := by
  decide +kernel

end RecordStore.Text.Quoted
