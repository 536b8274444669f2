/-! White space of all scripts, and the two ways lines are cut at it. -/

namespace Questline.Text

/-- The characters that count as white space around a word. -/
def isBlank (c : Char) : Bool :=
  let n := c.toNat
  (9 ≤ n && n ≤ 13) || (28 ≤ n && n ≤ 32) || n == 0x85 || n == 0xa0 || n == 0x1680 ||
  (0x2000 ≤ n && n ≤ 0x200a) || n == 0x2028 || n == 0x2029 || n == 0x202f || n == 0x205f ||
  n == 0x3000

/-- The white space that may stand around a number: all but the four information separators,
which only count around words. -/
def isNumberBlank (c : Char) : Bool := isBlank c && !(28 ≤ c.toNat && c.toNat ≤ 31)

/-- Drops the given characters at both ends. -/
def trimBy (drop : Char → Bool) (cs : List Char) : List Char :=
  ((cs.dropWhile drop).reverse.dropWhile drop).reverse

/-- Drops white space at both ends. -/
def trim (s : String) : String := String.ofList (trimBy isBlank s.toList)

/-- The text before the first given character and the text after it; all of it and nothing when
there is none. -/
def cutAt (mark : Char) (s : String) : String × String :=
  let cs := s.toList
  (String.ofList (cs.takeWhile (· != mark)), String.ofList ((cs.dropWhile (· != mark)).drop 1))

end Questline.Text
