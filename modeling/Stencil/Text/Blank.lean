/-!
# Blanks

The characters with the Unicode property `White_Space`, trimming, and the words
between blanks.
-/

namespace Stencil

namespace Text

/-- The characters with the Unicode property `White_Space`. -/
def isBlank (char : Char) : Bool :=
  let code := char.toNat
  (9 ≤ code && code ≤ 13) || code == 0x20 || code == 0x85 || code == 0xA0 ||
    code == 0x1680 || (0x2000 ≤ code && code ≤ 0x200A) || code == 0x2028 ||
    code == 0x2029 || code == 0x202F || code == 0x205F || code == 0x3000

/-- A text without the blanks it begins with. -/
def trimStart (text : List Char) : List Char :=
  text.dropWhile isBlank

/-- A text without the blanks it ends with. -/
def trimEnd (text : List Char) : List Char :=
  (text.reverse.dropWhile isBlank).reverse

def trim (text : List Char) : List Char :=
  trimEnd (trimStart text)

/-- The characters up to the first blank. -/
def untilBlank (text : List Char) : List Char :=
  text.takeWhile fun char => !isBlank char

def fromBlank (text : List Char) : List Char :=
  text.dropWhile fun char => !isBlank char

/-- The first word of a text: empty when the text is all blanks. -/
def firstWord (text : List Char) : List Char :=
  untilBlank (trimStart text)

theorem trimStart_length_le (text : List Char) :
    (trimStart text).length ≤ text.length :=
  (List.dropWhile_sublist _).length_le

theorem fromBlank_length_le (text : List Char) :
    (fromBlank text).length ≤ text.length :=
  (List.dropWhile_sublist _).length_le

/-- The words of a text, in order: the longest runs without blanks. -/
def words (text : List Char) : List (List Char) :=
  match _rest : trimStart text with
  | [] => []
  | char :: chars => (char :: untilBlank chars) :: words (fromBlank chars)
termination_by text.length
decreasing_by
  have shorter := trimStart_length_le text
  have tail := fromBlank_length_le chars
  rw [_rest] at shorter
  simp only [List.length_cons] at shorter
  omega

end Text

end Stencil
