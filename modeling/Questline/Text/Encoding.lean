import Questline.Text.Quoted

/-! Text from the bytes of a file: the encoding of characters in up to four bytes, and line ends. -/

namespace Questline.Text

/-- Why some bytes are no text. -/
inductive EncodingFault
  | badStart : EncodingFault
  | badContinuation : EncodingFault
  | endOfData : EncodingFault
  deriving DecidableEq

/-- Bytes that are no character: where they begin, how many they are, and the first of them. -/
structure Undecodable where
  why : EncodingFault
  place : Nat
  size : Nat
  first : UInt8
  deriving DecidableEq

def EncodingFault.wording : EncodingFault → String
  | .badStart => "invalid start byte"
  | .badContinuation => "invalid continuation byte"
  | .endOfData => "unexpected end of data"

def Undecodable.message (u : Undecodable) : String :=
  let what := if u.size = 1 then s!"byte 0x{hex 2 u.first.toNat} in position {u.place}"
    else s!"bytes in position {u.place}-{u.place + u.size - 1}"
  s!"'utf-8' codec can't decode {what}: {u.why.wording}"

/-- A character that has begun: where and with what, its number so far, how many bytes are missing,
and what the next one has to be. -/
structure Begun where
  place : Nat
  first : UInt8
  number : Nat
  missing : Nat
  least : Nat := 0x80
  most : Nat := 0xbf

/-- The character that a byte begins.  Where a number would need fewer bytes, stand for half a
character or be too large, the second byte tells. -/
def begin? (place : Nat) (first : UInt8) : Option Begun :=
  let b := first.toNat
  if 0xc2 ≤ b ∧ b < 0xe0 then some { place, first, number := b - 0xc0, missing := 1 }
  else if b = 0xe0 then some { place, first, number := 0, missing := 2, least := 0xa0 }
  else if b = 0xed then some { place, first, number := 0xd, missing := 2, most := 0x9f }
  else if 0xe0 < b ∧ b < 0xf0 then some { place, first, number := b - 0xe0, missing := 2 }
  else if b = 0xf0 then some { place, first, number := 0, missing := 3, least := 0x90 }
  else if b = 0xf4 then some { place, first, number := 4, missing := 3, most := 0x8f }
  else if 0xf0 < b ∧ b < 0xf4 then some { place, first, number := b - 0xf0, missing := 3 }
  else none

/-- Reads bytes from a place on, given the characters before it, last first. -/
def decodeFrom (place : Nat) (begun : Option Begun) (seen : List Char) :
    List UInt8 → Except Undecodable String
  | [] =>
    match begun with
    | none => .ok (String.ofList seen.reverse)
    | some c => .error ⟨.endOfData, c.place, place - c.place, c.first⟩
  | b :: rest =>
    match begun with
    | none =>
      if b < 0x80 then decodeFrom (place + 1) none (Char.ofNat b.toNat :: seen) rest
      else match begin? place b with
        | some c => decodeFrom (place + 1) (some c) seen rest
        | none => .error ⟨.badStart, place, 1, b⟩
    | some c =>
      if b.toNat < c.least ∨ c.most < b.toNat then
        .error ⟨.badContinuation, c.place, place - c.place, c.first⟩
      else
        let number := 64 * c.number + (b.toNat - 0x80)
        if c.missing ≤ 1 then decodeFrom (place + 1) none (Char.ofNat number :: seen) rest
        else
          let c := { c with number, missing := c.missing - 1, least := 0x80, most := 0xbf }
          decodeFrom (place + 1) (some c) seen rest

def decode (bytes : List UInt8) : Except Undecodable String := decodeFrom 0 none [] bytes

/-- All line ends as the usual one: a carriage return, alone or before it, counts as one too. -/
def unifyLines : List Char → List Char
  | '\r' :: '\n' :: rest => '\n' :: unifyLines rest
  | '\r' :: rest => '\n' :: unifyLines rest
  | c :: rest => c :: unifyLines rest
  | [] => []

end Questline.Text
