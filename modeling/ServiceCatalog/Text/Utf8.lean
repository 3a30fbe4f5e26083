/-!
# UTF-8

Encoding is defined character by character. Decoding is a machine that takes one byte at a time and
emits a character when a sequence is complete, or a gap where a sequence is ill-formed: a gap covers
the longest run of bytes that begins a well-formed sequence, or a single byte if there is none.

Strict decoding asks for no gap; lossy decoding shows each gap as U+FFFD.
-/

namespace ServiceCatalog

/-- The content of a file. -/
abbrev Bytes := List UInt8

namespace Utf8

/-! ## Encoding -/

/-- The bytes of one character: one byte below U+0080, else a lead byte that tells the length and
continuation bytes with six bits each. -/
def encodeChar (c : Char) : Bytes :=
  let n := c.toNat
  if n < 0x80 then [n.toUInt8]
  else if n < 0x800 then [(0xC0 + n / 64).toUInt8, (0x80 + n % 64).toUInt8]
  else if n < 0x10000 then
    [(0xE0 + n / 4096).toUInt8, (0x80 + n / 64 % 64).toUInt8, (0x80 + n % 64).toUInt8]
  else
    [(0xF0 + n / 262144).toUInt8, (0x80 + n / 4096 % 64).toUInt8, (0x80 + n / 64 % 64).toUInt8,
      (0x80 + n % 64).toUInt8]

/-- The bytes of a text. -/
def encodeChars (cs : List Char) : Bytes := cs.flatMap encodeChar

/-- The bytes of a string. -/
def encode (s : String) : Bytes := encodeChars s.toList

/-! ## Decoding -/

/-- A sequence that has begun: the bits read so far, how many bytes are missing, and the range that
the next byte must lie in. -/
structure Partial where
  bits : Nat
  missing : Nat
  low : Nat
  high : Nat
deriving Repr, DecidableEq

/-- What the first byte of a sequence begins. The narrower ranges for the second byte exclude
overlong forms, surrogates and numbers above U+10FFFF. -/
def begin (b : UInt8) : List (Option Char) × Option Partial :=
  let n := b.toNat
  if n < 0x80 then ([some (Char.ofNat n)], none)
  else if n < 0xC2 then ([none], none)
  else if n < 0xE0 then ([], some ⟨n - 0xC0, 1, 0x80, 0xBF⟩)
  else if n < 0xF0 then
    ([], some ⟨n - 0xE0, 2, if n = 0xE0 then 0xA0 else 0x80, if n = 0xED then 0x9F else 0xBF⟩)
  else if n < 0xF5 then
    ([], some ⟨n - 0xF0, 3, if n = 0xF0 then 0x90 else 0x80, if n = 0xF4 then 0x8F else 0xBF⟩)
  else ([none], none)

/-- The effect of one byte. A byte that does not continue the sequence leaves a gap and begins
anew. -/
def step : Option Partial → UInt8 → List (Option Char) × Option Partial
  | none, b => begin b
  | some p, b =>
    if p.low ≤ b.toNat ∧ b.toNat ≤ p.high then
      let bits := p.bits * 64 + (b.toNat - 0x80)
      if p.missing ≤ 1 then ([some (Char.ofNat bits)], none)
      else ([], some ⟨bits, p.missing - 1, 0x80, 0xBF⟩)
    else
      let (units, next) := begin b
      (none :: units, next)

/-- The characters and gaps of the bytes that follow a sequence that may have begun. -/
def unitsFrom : Option Partial → Bytes → List (Option Char)
  | none, [] => []
  | some _, [] => [none]
  | p, b :: bs => (step p b).1 ++ unitsFrom (step p b).2 bs

/-- The characters of a byte string, with `none` for each gap. -/
def units (bs : Bytes) : List (Option Char) := unitsFrom none bs

/-- The characters of a byte string that is well-formed as a whole. -/
def decodeChars? (bs : Bytes) : Option (List Char) :=
  if (units bs).all Option.isSome then some ((units bs).filterMap id) else none

/-- The string that a well-formed byte string encodes. -/
def decode? (bs : Bytes) : Option String := (decodeChars? bs).map String.ofList

/-- The string with U+FFFD in place of each gap. -/
def decodeLossy (bs : Bytes) : String :=
  String.ofList ((units bs).map (·.getD (Char.ofNat 0xFFFD)))

end Utf8

end ServiceCatalog
