/-
White space at the ends of a text, in the sense of the Unicode property `White_Space`. Zero-width
characters are no white space.
-/
namespace RealmTokens
namespace Text

def isBlank (c : Char) : Bool :=
  let n := c.toNat
  (9 ≤ n && n ≤ 13) || n == 0x20 || n == 0x85 || n == 0xa0 || n == 0x1680 ||
    (0x2000 ≤ n && n ≤ 0x200a) || n == 0x2028 || n == 0x2029 || n == 0x202f ||
    n == 0x205f || n == 0x3000

/-- A list without the longest run at its end on which `p` holds. -/
def dropEndWhile {α : Type} (p : α → Bool) (xs : List α) : List α :=
  (xs.reverse.dropWhile p).reverse

def trim (cs : List Char) : List Char :=
  dropEndWhile isBlank (cs.dropWhile isBlank)

/-- A text of white space only, the empty one included. -/
def blank (s : String) : Bool :=
  s.toList.all isBlank

end Text
end RealmTokens
