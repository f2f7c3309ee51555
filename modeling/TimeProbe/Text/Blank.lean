/-!
# Blanks

Three sets of white space occur: the six blanks of ASCII, the white space of
Unicode, and the characters that end a line.
-/

namespace TimeProbe.Text

/-- The tab, the line breaks up to the carriage return, and the space. -/
def isAsciiBlank (c : Char) : Bool :=
  (decide (9 ≤ c.toNat) && decide (c.toNat ≤ 13)) || c.toNat == 32

/-- The white space of Unicode, the four information separators included. -/
def isBlank (c : Char) : Bool :=
  let n := c.toNat
  isAsciiBlank c || (decide (28 ≤ n) && decide (n ≤ 31)) || n == 133 || n == 160 || n == 5760 ||
    (decide (8192 ≤ n) && decide (n ≤ 8202)) || n == 8232 || n == 8233 || n == 8239 || n == 8287 ||
    n == 12288

/-- The characters that end a line of running text. -/
def isLineEnd (c : Char) : Bool :=
  let n := c.toNat
  (decide (10 ≤ n) && decide (n ≤ 13)) || (decide (28 ≤ n) && decide (n ≤ 30)) || n == 133 ||
    n == 8232 || n == 8233

/-- What is left of a text without the leading characters of a set. -/
def trimLeft (p : Char → Bool) (cs : List Char) : List Char := cs.dropWhile p

/-- What is left of a text without the trailing characters of a set. -/
def trimRight (p : Char → Bool) (cs : List Char) : List Char :=
  (cs.reverse.dropWhile p).reverse

/-- What is left of a text without the characters of a set at either end. -/
def trim (p : Char → Bool) (cs : List Char) : List Char := trimRight p (trimLeft p cs)

end TimeProbe.Text
