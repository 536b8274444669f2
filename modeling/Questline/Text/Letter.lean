import Questline.Text.LetterTable

/-! Letters and numerals, of which names are made in any script. -/

namespace Questline.Text

def isLetter (c : Char) : Bool :=
  letterRanges.any fun (a, b) => a ≤ c.toNat && c.toNat ≤ b

end Questline.Text
