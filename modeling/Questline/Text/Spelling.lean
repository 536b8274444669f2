import Questline.Text.Case

/-! Names in camel case and snake case.  Words are set apart by an underscore in two passes: one
before each capital that starts a word of small letters, one between a small letter or digit and
a capital. -/

namespace Questline.Text.Spelling

def isCapital (c : Char) : Bool := 'A' ≤ c && c ≤ 'Z'

def isSmall (c : Char) : Bool := 'a' ≤ c && c ≤ 'z'

def isAsciiDigit (c : Char) : Bool := '0' ≤ c && c ≤ '9'

/-- Sets an underscore before a capital followed by small letters, when some character of the
same line stands before it.  The scan goes on after the word. -/
def splitWords : List Char → List Char
  | before :: capital :: small :: rest =>
    if before != '\n' && isCapital capital && isSmall small then
      before :: '_' :: capital :: small ::
        (rest.takeWhile isSmall ++ splitWords (rest.dropWhile isSmall))
    else before :: splitWords (capital :: small :: rest)
  | cs => cs
termination_by cs => cs.length
decreasing_by
  · have := (rest.dropWhile_sublist isSmall).length_le
    grind
  · grind

/-- Sets an underscore between a small letter or digit and a capital. -/
def splitHumps : List Char → List Char
  | a :: b :: rest =>
    if (isSmall a || isAsciiDigit a) && isCapital b then a :: '_' :: b :: splitHumps rest
    else a :: splitHumps (b :: rest)
  | cs => cs

/-- The snake case of a name, in small letters. -/
def snake (name : String) : String :=
  lower (String.ofList (splitHumps (splitWords name.toList)))

/-- The snake case of a name, in capitals: the form in which kinds are named. -/
def constant (name : String) : String := upper (snake name)

end Questline.Text.Spelling
