/-! Characters written as percent signs and the bytes of their UTF-8. -/

namespace RaggedTables.Text

/-- Upper-case hexadecimal digits of a byte after a percent sign. -/
def percentByte (b : UInt8) : List Char :=
  let digit (n : Nat) := Char.ofNat (if n < 10 then '0'.toNat + n else 'A'.toNat + (n - 10))
  ['%', digit (b.toNat / 16), digit (b.toNat % 16)]

/-- A text in which only the characters of a class stand for themselves. -/
def percented (safe : Char → Bool) (cs : List Char) : List Char :=
  cs.flatMap fun c => if safe c then [c] else (String.utf8EncodeChar c).flatMap percentByte

end RaggedTables.Text
