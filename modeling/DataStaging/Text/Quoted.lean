import DataStaging.Text.Printable

/-!
# Quoted texts

A text between quotes, readable on one line: quotes and backslashes are escaped, the common controls
have letters, and every other character without a shape of its own is written as its code point.

Results:
* an example: a quote and a backslash inside a text.
-/

namespace DataStaging.Quoted

/-- The digits of `n` in base sixteen, in lower case. -/
def hex (n : Nat) : String := String.ofList (Nat.toDigits 16 n)

/-- One character inside quotes. -/
def quoteChar (c : Char) : String :=
  if c = '"' then "\\\""
  else if c = '\\' then "\\\\"
  else if c = '\n' then "\\n"
  else if c = '\r' then "\\r"
  else if c = '\t' then "\\t"
  else if c.toNat = 0 then "\\0"
  else if Printable.isShown c then String.singleton c
  else "\\u\x7b" ++ hex c.toNat ++ "\x7d"

/-- A text between quotes. -/
def quote (s : String) : String := "\"" ++ String.join (s.toList.map quoteChar) ++ "\""

example : quote "a\"b\\" = "\"a\\\"b\\\\\"" := by decide +kernel

end DataStaging.Quoted
