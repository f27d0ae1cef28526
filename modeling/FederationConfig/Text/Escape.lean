import FederationConfig.Text.Concealed

namespace FederationConfig.Text

/-- A code point in braces, in lower-case hexadecimal without leading zeros. -/
def codePoint (c : Char) : List Char :=
  ['\\', 'u', '\x7b'] ++ Nat.toDigits 16 c.toNat ++ ['\x7d']

def isPrintableAscii (c : Char) : Bool := ' ' ≤ c && c ≤ '~'

def escapeChar (c : Char) : List Char :=
  if c = '\t' then ['\\', 't']
  else if c = '\r' then ['\\', 'r']
  else if c = '\n' then ['\\', 'n']
  else if c = '\'' ∨ c = '"' ∨ c = '\\' then ['\\', c]
  else if isPrintableAscii c then [c]
  else codePoint c

def escape (s : String) : String := String.ofList (s.toList.flatMap escapeChar)

/-- Quotations leave apostrophes and visible characters of every script alone. -/
def quoteChar (c : Char) : List Char :=
  if c = '\x00' then ['\\', '0']
  else if c = '\t' then ['\\', 't']
  else if c = '\r' then ['\\', 'r']
  else if c = '\n' then ['\\', 'n']
  else if c = '"' ∨ c = '\\' then ['\\', c]
  else if isConcealed c then codePoint c
  else [c]

def quote (s : String) : String := "\"" ++ String.ofList (s.toList.flatMap quoteChar) ++ "\""

end FederationConfig.Text
