import Questline.Text.CaseTable

/-! Lower and upper case of whole texts.  Beyond ASCII the mappings are the tables' runs; a
letter may become several characters, and a capital sigma becomes the final form at the end of
a word. -/

namespace Questline.Text

/-- Whether a code point lies in one of the ranges. -/
def inRanges (ranges : List (Nat × Nat)) (n : Nat) : Bool :=
  ranges.any fun (a, b) => a ≤ n && n ≤ b

/-- The image of a code point under the first run that covers it. -/
def runImage? (runs : List (Nat × Nat × Nat × Int)) (n : Nat) : Option Nat :=
  runs.findSome? fun (a, b, stride, delta) =>
    if a ≤ n ∧ n ≤ b ∧ (n - a) % stride = 0 then some (Int.toNat (n + delta)) else none

def lowerChar (c : Char) : List Char :=
  if c.toNat < 128 then [c.toLower]
  else match lowerLong.lookup c.toNat with
    | some long => long.map Char.ofNat
    | none => [((runImage? lowerRuns c.toNat).map Char.ofNat).getD c]

def upperChar (c : Char) : List Char :=
  if c.toNat < 128 then [c.toUpper]
  else match upperLong.lookup c.toNat with
    | some long => long.map Char.ofNat
    | none => [((runImage? upperRuns c.toNat).map Char.ofNat).getD c]

/-- Whether the nearest character that counts is a cased letter. -/
def meetsCased (cs : List Char) : Bool :=
  match cs.dropWhile fun c => inRanges caseIgnorable c.toNat with
  | [] => false
  | c :: _ => inRanges cased c.toNat

/-- Lower case of the second text, the first being what stands before it, last character first. -/
def lowerAfter (before : List Char) : List Char → List Char
  | [] => []
  | c :: rest =>
    let image :=
      if c = 'Σ' then if meetsCased before && !meetsCased rest then ['ς'] else ['σ']
      else lowerChar c
    image ++ lowerAfter (c :: before) rest

def lower (s : String) : String := String.ofList (lowerAfter [] s.toList)

def upper (s : String) : String := String.ofList (s.toList.flatMap upperChar)

end Questline.Text
