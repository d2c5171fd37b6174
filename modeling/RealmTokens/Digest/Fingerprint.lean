/-
Short fingerprints of sensitive texts, for places where the text itself must not appear.
-/
import RealmTokens.Digest.Sha256

namespace RealmTokens
namespace Digest

/-- The digit of a six-bit value in the alphabet that is safe in URLs and file names. -/
def base64UrlDigit (n : Nat) : Char :=
  if n < 26 then Char.ofNat ('A'.toNat + n)
  else if n < 52 then Char.ofNat ('a'.toNat + (n - 26))
  else if n < 62 then Char.ofNat ('0'.toNat + (n - 52))
  else if n = 62 then '-'
  else '_'

/-- Three bytes make four digits. A shorter rest makes one digit more than it has bytes. -/
def base64Url : List UInt8 → List Char
  | a :: b :: c :: rest =>
      let n := a.toNat * 65536 + b.toNat * 256 + c.toNat
      base64UrlDigit (n / 262144) :: base64UrlDigit (n / 4096 % 64) ::
        base64UrlDigit (n / 64 % 64) :: base64UrlDigit (n % 64) :: base64Url rest
  | [a, b] =>
      let n := a.toNat * 256 + b.toNat
      [base64UrlDigit (n / 1024), base64UrlDigit (n / 16 % 64), base64UrlDigit (n % 16 * 4)]
  | [a] => [base64UrlDigit (a.toNat / 4), base64UrlDigit (a.toNat % 4 * 16)]
  | [] => []

def fingerprintBytes : Nat := 9

/-- The first bytes of the SHA-256 digest, written in twelve characters. -/
def fingerprint (value : String) : String :=
  String.ofList (base64Url ((sha256 value.toUTF8.toList).take fingerprintBytes))

theorem base64Url_length_of_nine {bytes : List UInt8} (h : bytes.length = 9) :
    (base64Url bytes).length = 12 := by
  match bytes, h with
  | [_, _, _, _, _, _, _, _, _], _ => rfl

theorem fingerprint_length (value : String) : (fingerprint value).length = 12 := by
  have h : ((sha256 value.toUTF8.toList).take fingerprintBytes).length = 9 := by
    rw [List.length_take, sha256_length, fingerprintBytes]
    decide
  rw [fingerprint, String.length_ofList]
  exact base64Url_length_of_nine h

end Digest
end RealmTokens
