/-!
# Texts

The letter case, the padding and the white space of texts. Names of operating systems and linkages
are compared without regard to the case of the letters `A` to `Z`; every other character, a
non-ASCII letter included, stands for itself. Tables widen texts with blanks, and a text longer than
its column stays as it is. White space is the Unicode property `White_Space`.
-/

set_option autoImplicit false

namespace TargetAbi.Text

/-- The text with the letters `A` to `Z` replaced by `a` to `z` and nothing else changed. -/
def asciiLower (s : String) : String :=
  String.ofList (s.toList.map Char.toLower)

@[simp] theorem toList_asciiLower (s : String) :
    (asciiLower s).toList = s.toList.map Char.toLower := by
  simp [asciiLower]

/-- The blanks that a text lacks to a width. -/
def blanks (width : Nat) (s : String) : String :=
  String.ofList (List.replicate (width - s.length) ' ')

/-- A text with blanks after it. -/
def padEnd (width : Nat) (s : String) : String := s ++ blanks width s

/-- A text with blanks before it. -/
def padStart (width : Nat) (s : String) : String := blanks width s ++ s

/-- Whether a character has the property `White_Space`. -/
def isBlank (c : Char) : Bool :=
  let n := c.toNat
  (9 ≤ n && n ≤ 13) || n == 0x20 || n == 0x85 || n == 0xA0 || n == 0x1680 ||
    (0x2000 ≤ n && n ≤ 0x200A) || n == 0x2028 || n == 0x2029 || n == 0x202F || n == 0x205F ||
    n == 0x3000

/-- The characters without white space at either end. -/
def trimBlank (cs : List Char) : List Char :=
  ((cs.dropWhile isBlank).reverse.dropWhile isBlank).reverse

end TargetAbi.Text
