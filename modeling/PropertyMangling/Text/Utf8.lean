/-!
# Strict decoding

A file's bytes are a text only when they are its encoding exactly: no stray or
missing continuation byte, no longer form than needed, no surrogate and nothing
past the last code point.
-/
namespace PropertyMangling.Text

/-- The payload of a continuation byte. -/
def continuation? (byte : UInt8) : Option Nat :=
  if 0x80 ≤ byte.toNat && byte.toNat < 0xC0 then some (byte.toNat - 0x80) else none

/-- The character with a code point, provided no shorter encoding has it and it is a character. -/
def character? (least code : Nat) : Option Char :=
  if code < least then none
  else if valid : code.isValidChar then some (Char.ofNatAux code valid)
  else none

/-- The characters that the bytes encode. -/
def decodeUtf8? : List UInt8 → Option (List Char)
  | [] => some []
  | a :: rest =>
    if a.toNat < 0x80 then do
      let c ← character? 0 a.toNat
      return c :: (← decodeUtf8? rest)
    else if a.toNat < 0xC0 then none
    else if a.toNat < 0xE0 then
      match rest with
      | b :: rest => do
        let c ← character? 0x80 ((a.toNat - 0xC0) * 64 + (← continuation? b))
        return c :: (← decodeUtf8? rest)
      | _ => none
    else if a.toNat < 0xF0 then
      match rest with
      | b :: c :: rest => do
        let code := ((a.toNat - 0xE0) * 64 + (← continuation? b)) * 64 + (← continuation? c)
        return (← character? 0x800 code) :: (← decodeUtf8? rest)
      | _ => none
    else if a.toNat < 0xF8 then
      match rest with
      | b :: c :: d :: rest => do
        let code := (((a.toNat - 0xF0) * 64 + (← continuation? b)) * 64 + (← continuation? c)) * 64
          + (← continuation? d)
        return (← character? 0x10000 code) :: (← decodeUtf8? rest)
      | _ => none
    else none

end PropertyMangling.Text
