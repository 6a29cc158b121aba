import InkToScreen.Text.CodeRanges

namespace InkToScreen.Text

/-- White space of Unicode 14, without the four separator controls. -/
def blanks : CodeRanges := [
  (0x9, 0xd), (0x20, 0x20), (0x85, 0x85), (0xa0, 0xa0), (0x1680, 0x1680), (0x2000, 0x200a),
  (0x2028, 0x2029), (0x202f, 0x202f), (0x205f, 0x205f), (0x3000, 0x3000)
]

def isBlank (c : Char) : Bool :=
  blanks.covers c

def trimBlanks (text : List Char) : List Char :=
  ((text.dropWhile isBlank).reverse.dropWhile isBlank).reverse

end InkToScreen.Text
