import PersonalOs.Basis.Json

/-!
# Digits and base64url

Numbers of a fixed width, bytes in hexadecimal, and base64url without padding with its reader.
-/

namespace PersonalOs.TextCodecs

/-! ## Digits -/

/-- The last digits of a number, so many of them. -/
def fixedDigits (base : Nat) : Nat → Nat → Text
  | 0, _ => []
  | width + 1, n => fixedDigits base width (n / base) ++ [(n % base).digitChar]

def hexText (bytes : List UInt8) : Text := bytes.flatMap fun byte => fixedDigits 16 2 byte.toNat

/-! ## Base64url -/

def base64UrlChar (n : Nat) : Char :=
  if n < 26 then Char.ofNat (65 + n)
  else if n < 52 then Char.ofNat (97 + (n - 26))
  else if n < 62 then Char.ofNat (48 + (n - 52))
  else if n = 62 then '-'
  else '_'

/-- Six bits for each character; the last bits are filled up with zeros and nothing is padded. -/
def base64Url : List UInt8 → Text
  | [] => []
  | [a] => [base64UrlChar (a.toNat / 4), base64UrlChar (a.toNat % 4 * 16)]
  | [a, b] => [base64UrlChar (a.toNat / 4), base64UrlChar (a.toNat % 4 * 16 + b.toNat / 16),
      base64UrlChar (b.toNat % 16 * 4)]
  | a :: b :: c :: bytes => base64UrlChar (a.toNat / 4) ::
      base64UrlChar (a.toNat % 4 * 16 + b.toNat / 16) ::
        base64UrlChar (b.toNat % 16 * 4 + c.toNat / 64) :: base64UrlChar (c.toNat % 64) ::
          base64Url bytes

def base64UrlDigit (c : Char) : Nat :=
  if 'A' ≤ c ∧ c ≤ 'Z' then c.toNat - 65
  else if 'a' ≤ c ∧ c ≤ 'z' then c.toNat - 97 + 26
  else if '0' ≤ c ∧ c ≤ '9' then c.toNat - 48 + 52
  else if c = '-' then 62
  else 63

/-- Groups of six bits as bytes; bits that fill no byte are dropped. -/
def bytesOfSextets : List Nat → List UInt8
  | a :: b :: c :: d :: sextets => UInt8.ofNat (a * 4 + b / 16) ::
      UInt8.ofNat (b % 16 * 16 + c / 4) :: UInt8.ofNat (c % 4 * 64 + d) :: bytesOfSextets sextets
  | [a, b, c] => [UInt8.ofNat (a * 4 + b / 16), UInt8.ofNat (b % 16 * 16 + c / 4)]
  | [a, b] => [UInt8.ofNat (a * 4 + b / 16)]
  | _ => []

def fromBase64Url (t : Text) : List UInt8 := bytesOfSextets (t.map base64UrlDigit)

end PersonalOs.TextCodecs
