/-!
Bytes read as UTF-8. What is no character in them is replaced: a byte that starts none, and a
character that breaks off, together with the bytes that could still belong to it.
-/

namespace FederationConfig.Text

def replacement : Char := '\ufffd'

/-- A character of which some bytes are still missing. The next one lies between two bounds. -/
structure Begun where
  bits : Nat
  missing : Nat
  least : UInt8 := 0x80
  greatest : UInt8 := 0xbf
  deriving DecidableEq, Repr

abbrev Decoded := List Char × Option Begun

/-- A first byte says how many follow it. The bounds of the second one keep out surrogates,
characters beyond the last one and longer spellings than needed. -/
def decodeFirst (byte : UInt8) : Decoded :=
  let bits := byte.toNat
  if byte < 0x80 then ([Char.ofNat bits], none)
  else if byte < 0xc2 then ([replacement], none)
  else if byte < 0xe0 then ([], some { bits := bits - 0xc0, missing := 1 })
  else if byte = 0xe0 then ([], some { bits := 0, missing := 2, least := 0xa0 })
  else if byte = 0xed then ([], some { bits := 0xd, missing := 2, greatest := 0x9f })
  else if byte < 0xf0 then ([], some { bits := bits - 0xe0, missing := 2 })
  else if byte = 0xf0 then ([], some { bits := 0, missing := 3, least := 0x90 })
  else if byte < 0xf4 then ([], some { bits := bits - 0xf0, missing := 3 })
  else if byte = 0xf4 then ([], some { bits := 4, missing := 3, greatest := 0x8f })
  else ([replacement], none)

def decodeNext (begun : Begun) (byte : UInt8) : Decoded :=
  if begun.least ≤ byte ∧ byte ≤ begun.greatest then
    let bits := begun.bits * 64 + byte.toNat % 64
    if begun.missing = 1 then ([Char.ofNat bits], none)
    else ([], some { bits := bits, missing := begun.missing - 1 })
  else
    let (completed, next) := decodeFirst byte
    (replacement :: completed, next)

def decodeFrom : Option Begun → List UInt8 → List Char
  | none, [] => []
  | some _, [] => [replacement]
  | begun, byte :: rest =>
    let (completed, next) := match begun with
      | none => decodeFirst byte
      | some begun => decodeNext begun byte
    completed ++ decodeFrom next rest

def decode (bytes : List UInt8) : List Char := decodeFrom none bytes

end FederationConfig.Text
