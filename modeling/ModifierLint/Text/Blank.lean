/-
# Blank characters

Two classes of white space are in use.  `isWhiteSpace` is the Unicode property `White_Space`;
`isBlank` adds the four information separators U+001C to U+001F, which are blank by their
bidirectional class.  Messages are stripped of the larger class, numbers in text of the smaller.
-/

namespace ModifierLint.Text

/-- The Unicode property `White_Space`. -/
def isWhiteSpace (c : Char) : Bool :=
  let n := c.toNat
  (0x09 ≤ n && n ≤ 0x0D) || n == 0x20 || n == 0x85 || n == 0xA0 || n == 0x1680 ||
    (0x2000 ≤ n && n ≤ 0x200A) || n == 0x2028 || n == 0x2029 || n == 0x202F || n == 0x205F ||
    n == 0x3000

/-- White space and the information separators. -/
def isBlank (c : Char) : Bool :=
  isWhiteSpace c || (0x1C ≤ c.toNat && c.toNat ≤ 0x1F)

/-- The characters between the first and the last that are not in the class. -/
def stripWhere (drop : Char → Bool) (cs : List Char) : List Char :=
  (((cs.dropWhile drop).reverse).dropWhile drop).reverse

/-- The text without blanks at its ends. -/
def strip (s : String) : String :=
  String.ofList (stripWhere isBlank s.toList)

end ModifierLint.Text
