/-
# Bytes of a text

Secrets hold bytes. Decoding walks over them once and yields a character for every
complete sequence and a gap for every broken one: a sequence is broken off at the first
byte that cannot continue it, and that byte starts the next sequence.
-/

namespace PlatformApps.Text.Utf8

/-- A sequence under way: how many bytes are missing, the bits so far, and the closed
range that the next byte must lie in. -/
structure Pending where
  missing : Nat
  bits : Nat
  low : Nat
  high : Nat

/-- What a first byte starts: a character, a longer sequence, or nothing. -/
def start (byte : UInt8) : Char ⊕ Option Pending :=
  let b := byte.toNat
  if b < 0x80 then .inl (Char.ofNat b)
  else if b < 0xC2 then .inr none
  else if b < 0xE0 then .inr (some ⟨1, b - 0xC0, 0x80, 0xBF⟩)
  else if b = 0xE0 then .inr (some ⟨2, 0, 0xA0, 0xBF⟩)
  else if b = 0xED then .inr (some ⟨2, 0xD, 0x80, 0x9F⟩)
  else if b < 0xF0 then .inr (some ⟨2, b - 0xE0, 0x80, 0xBF⟩)
  else if b = 0xF0 then .inr (some ⟨3, 0, 0x90, 0xBF⟩)
  else if b < 0xF4 then .inr (some ⟨3, b - 0xF0, 0x80, 0xBF⟩)
  else if b = 0xF4 then .inr (some ⟨3, 4, 0x80, 0x8F⟩)
  else .inr none

/-- The characters of the bytes, with a gap for every broken sequence. -/
def chars (pending : Option Pending) : List UInt8 → List (Option Char)
  | [] => if pending.isSome then [none] else []
  | byte :: rest =>
    let fresh := fun (before : List (Option Char)) => match start byte with
      | .inl char => before ++ some char :: chars none rest
      | .inr (some next) => before ++ chars (some next) rest
      | .inr none => before ++ none :: chars none rest
    match pending with
    | none => fresh []
    | some sequence =>
      if sequence.low ≤ byte.toNat ∧ byte.toNat ≤ sequence.high then
        let bits := sequence.bits * 64 + (byte.toNat - 0x80)
        if sequence.missing ≤ 1 then some (Char.ofNat bits) :: chars none rest
        else chars (some ⟨sequence.missing - 1, bits, 0x80, 0xBF⟩) rest
      else fresh [none]

/-- The text of the bytes; nothing when a sequence is broken. -/
def decode? (bytes : List UInt8) : Option String :=
  ((chars none bytes).mapM id).map String.ofList

/-- The text of the bytes with the replacement character for every broken sequence. -/
def decodeLossy (bytes : List UInt8) : String :=
  String.ofList ((chars none bytes).map fun char => char.getD (Char.ofNat 0xFFFD))

/-- The bytes of a text. -/
def encode (text : String) : List UInt8 := text.toUTF8.toList

end PlatformApps.Text.Utf8
