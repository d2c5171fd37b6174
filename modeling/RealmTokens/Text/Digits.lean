/-
Digits and the numbers they denote, in base ten and sixteen. Main statements: a hexadecimal digit
denotes the number that it was made for, in either case.
-/
namespace RealmTokens
namespace Text

def ofDecimal (digits : List Char) : Nat :=
  digits.foldl (fun n c => 10 * n + (c.toNat - 0x30)) 0

/-- The digit of a number below sixteen, in lowercase. -/
def hexDigit (n : Nat) : Char :=
  if n < 10 then Char.ofNat (0x30 + n) else Char.ofNat (0x57 + n)

/-- The digit of a number below sixteen, in uppercase. -/
def upperHexDigit (n : Nat) : Char :=
  if n < 10 then Char.ofNat (0x30 + n) else Char.ofNat (0x37 + n)

/-- The number that a hexadecimal digit of either case denotes. -/
def hexValue? (c : Char) : Option Nat :=
  if c.isDigit then some (c.toNat - 0x30)
  else if 'a' ≤ c ∧ c ≤ 'f' then some (c.toNat - 0x57)
  else if 'A' ≤ c ∧ c ≤ 'F' then some (c.toNat - 0x37)
  else none

/-- The number that has these hexadecimal digits, the most significant first. -/
def ofHexValues (values : List Nat) : Nat :=
  values.foldl (fun n v => 16 * n + v) 0

theorem ofHexValues_concat (values : List Nat) (n : Nat) :
    ofHexValues (values ++ [n]) = 16 * ofHexValues values + n := by
  rw [ofHexValues, List.foldl_append]
  rfl

theorem hexValue?_hexDigit : ∀ n : Nat, n < 16 → hexValue? (hexDigit n) = some n := by
  decide

theorem hexValue?_upperHexDigit : ∀ n : Nat, n < 16 → hexValue? (upperHexDigit n) = some n := by
  decide

end Text
end RealmTokens
