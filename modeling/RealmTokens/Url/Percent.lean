/-
Percent encoding. Each part of a URL has its own set of characters that cannot stand in it.
-/
import RealmTokens.Text.Digits
import RealmTokens.Text.Lowercase

namespace RealmTokens
namespace Url
namespace Percent

def encodeByte (b : UInt8) : List Char :=
  ['%', Text.upperHexDigit (b.toNat / 16), Text.upperHexDigit (b.toNat % 16)]

/-- The characters of `escaped` as their UTF-8 bytes in hexadecimal, all others as they are. -/
def encode (escaped : Char → Bool) (cs : List Char) : List Char :=
  cs.flatMap (fun c => if escaped c then (String.utf8EncodeChar c).flatMap encodeByte else [c])

/-- Control characters and everything outside ASCII. No part of a URL holds them. -/
def controlSet (c : Char) : Bool :=
  c.toNat < 0x20 || 0x7f ≤ c.toNat

def fragmentSet (c : Char) : Bool :=
  controlSet c || " \"<>\x60".toList.contains c

def querySet (special : Bool) (c : Char) : Bool :=
  controlSet c || " \"#<>".toList.contains c || (special && c == '\'')

def pathSet (c : Char) : Bool :=
  controlSet c || " \"#<>?\x60\x7b\x7d".toList.contains c

def userinfoSet (c : Char) : Bool :=
  pathSet c || "/:;=@[\\]^|".toList.contains c

/-- The bytes that a text stands for. A percent sign without two digits stands for itself. -/
def decode : List Char → List UInt8
  | [] => []
  | c :: rest =>
      match c, rest with
      | '%', a :: b :: later =>
          match Text.hexValue? a, Text.hexValue? b with
          | some x, some y => (16 * x + y).toUInt8 :: decode later
          | _, _ => String.utf8EncodeChar '%' ++ decode (a :: b :: later)
      | c, rest => String.utf8EncodeChar c ++ decode rest

/-- A text without characters of the set is encoded as itself. -/
theorem encode_eq_self {escaped : Char → Bool} {cs : List Char}
    (h : ∀ c ∈ cs, escaped c = false) : encode escaped cs = cs := by
  induction cs with
  | nil => rfl
  | cons c cs ih =>
      have hc := h c List.mem_cons_self
      have hcs := ih (fun d hd => h d (List.mem_cons_of_mem c hd))
      simp only [encode] at hcs
      simp [encode, hc, hcs]

end Percent
end Url
end RealmTokens
