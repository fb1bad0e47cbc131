import BidFleet.Text.Ranges

/-!
Blank texts: those that hold nothing but white space, where white space is what
the property of that name says of a character.
-/

namespace BidFleet.Text

/-- The characters with the property White_Space, as ranges of code points. -/
def blankRanges : List (Nat × Nat) :=
  [(0x9, 0xd), (0x20, 0x20), (0x85, 0x85), (0xa0, 0xa0), (0x1680, 0x1680), (0x2000, 0x200a),
    (0x2028, 0x2029), (0x202f, 0x202f), (0x205f, 0x205f), (0x3000, 0x3000)]

def isBlank (c : Char) : Bool := inRanges c.toNat blankRanges

def blank (text : String) : Bool := text.toList.all isBlank

end BidFleet.Text
