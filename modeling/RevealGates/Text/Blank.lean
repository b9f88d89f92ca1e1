import RevealGates.Text.Ranges

/-! White space of all scripts, by version 17 of the Unicode character database. -/

set_option autoImplicit false

namespace RevealGates.Text

def blankRanges : Ranges :=
  [(0x9, 0xd), (0x20, 0x20), (0x85, 0x85), (0xa0, 0xa0), (0x1680, 0x1680), (0x2000, 0x200a),
   (0x2028, 0x2029), (0x202f, 0x202f), (0x205f, 0x205f), (0x3000, 0x3000)]

def isBlank (c : Char) : Bool := blankRanges.contain c

end RevealGates.Text
