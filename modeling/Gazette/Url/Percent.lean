import Gazette.Text.Utf8

/-!
# Percent signs

A byte can be written as a percent sign and two hexadecimal digits.  A percent sign that no
two digits follow stands for itself.
-/

set_option autoImplicit false

namespace Gazette.Percent

/-- The byte of a percent sign. -/
def sign : UInt8 := 0x25

/-- The value of two hexadecimal digits. -/
def pair? (high low : UInt8) : Option UInt8 := do
  let h ← Utf8.hexValue? (Char.ofNat high.toNat)
  let l ← Utf8.hexValue? (Char.ofNat low.toNat)
  return h * 16 + l

/-- The bytes that are meant. -/
def decode : Payload → Payload
  | b :: high :: low :: rest =>
    match pair? high low with
    | some byte =>
      if b = sign then byte :: decode rest else b :: decode (high :: low :: rest)
    | none => b :: decode (high :: low :: rest)
  | rest => rest

end Gazette.Percent
