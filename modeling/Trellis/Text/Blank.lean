/-!
# Blank space

The code points with the Unicode property White_Space, and trimming by them. Trimming is written on
character lists: what is left is always a sublist of the text, which is what the readers of this
library rely on.
-/

namespace Trellis.Text

/-- A code point with the Unicode property White_Space. -/
def isBlank (c : Char) : Bool :=
  let n := c.toNat
  (9 ≤ n && n ≤ 13) || n == 0x20 || n == 0x85 || n == 0xA0 || n == 0x1680 ||
    (0x2000 ≤ n && n ≤ 0x200A) || n == 0x2028 || n == 0x2029 || n == 0x202F || n == 0x205F ||
    n == 0x3000

/-- The text without its longest tail of characters in the class. -/
def dropTail (inClass : Char → Bool) (text : List Char) : List Char :=
  (text.reverse.dropWhile inClass).reverse

def trimStart (text : List Char) : List Char :=
  text.dropWhile isBlank

def trimEnd (text : List Char) : List Char :=
  dropTail isBlank text

/-- The text without blanks at either end. -/
def trim (text : List Char) : List Char :=
  trimEnd (trimStart text)

/-- A text of blanks only, the empty text included. -/
def isBlankText (text : List Char) : Bool :=
  text.all isBlank

theorem length_dropTail_le (inClass : Char → Bool) (text : List Char) :
    (dropTail inClass text).length ≤ text.length := by
  have shorter := (List.dropWhile_sublist (l := text.reverse) inClass).length_le
  simpa [dropTail] using shorter

theorem length_trimStart_le (text : List Char) : (trimStart text).length ≤ text.length :=
  (List.dropWhile_sublist isBlank).length_le

theorem length_trim_le (text : List Char) : (trim text).length ≤ text.length :=
  Nat.le_trans (length_dropTail_le _ _) (length_trimStart_le text)

end Trellis.Text
