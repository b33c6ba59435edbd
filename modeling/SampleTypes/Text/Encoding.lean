import SampleTypes.Text.Hex

/-!
# Texts that cannot be encoded

A text may hold half of a surrogate pair on its own, which is no character and which the encoding of texts has
no bytes for.  Each of the halves is held by a stand-in, and the stand-ins are the last characters there are, all of
them for private use.
-/

namespace SampleTypes.Text

def firstSurrogate : Nat := 0xD800

/-- The stand-in of the first half of a pair; those of the others follow in the same order. -/
def firstStandIn : Nat := 0x10F800

/-- The stand-in for half of a surrogate pair. -/
def standIn (unit : Nat) : Char :=
  Char.ofNat (firstStandIn + (unit - firstSurrogate))

def isStandIn (character : Char) : Bool :=
  firstStandIn ≤ character.toNat

/-- The first stretch of halves in a text that cannot be encoded: where it starts, how long it is, and the half
it starts with. -/
structure Unencodable where
  start : Nat
  length : Nat
  unit : Nat
  deriving DecidableEq

/-- Why a text cannot be encoded, if it cannot. -/
def unencodable? (text : String) : Option Unencodable :=
  let before := text.toList.takeWhile fun character => !isStandIn character
  match text.toList.drop before.length with
  | [] => none
  | first :: rest => some {
      start := before.length
      length := (rest.takeWhile isStandIn).length + 1
      unit := first.toNat - firstStandIn + firstSurrogate }

def Unencodable.message (fault : Unencodable) : String :=
  let place :=
    if fault.length = 1 then
      "character '\\u" ++ String.ofList (hexDigits 4 fault.unit) ++ "' in position " ++
        toString fault.start
    else
      "characters in position " ++ toString fault.start ++ "-" ++
        toString (fault.start + fault.length - 1)
  "'utf-8' codec can't encode " ++ place ++ ": surrogates not allowed"

/-- What is written of a text: all of it, or nothing if it cannot be encoded. -/
def encodedPart (text : String) : String :=
  if (unencodable? text).isNone then text else ""

example : unencodable? (String.ofList ['a', standIn 0xD800, standIn 0xDFFF, 'b']) = some ⟨1, 2, 0xD800⟩ := by
  decide +kernel

end SampleTypes.Text
