namespace PgConsole.Text

/-!
# Blank characters

The characters with the Unicode `White_Space` property, and trimming by them. Trimming works
on lists of characters, so that its laws are list laws.
-/

/-- Whether a character counts as white space. -/
def isBlank (c : Char) : Bool :=
  let code := c.toNat
  (9 ≤ code && code ≤ 13) || code = 0x20 || code = 0x85 || code = 0xa0 || code = 0x1680 ||
    (0x2000 ≤ code && code ≤ 0x200a) || code = 0x2028 || code = 0x2029 || code = 0x202f ||
    code = 0x205f || code = 0x3000

/-- The text without the blanks in front of it. -/
def trimStart (text : List Char) : List Char :=
  text.dropWhile isBlank

/-- The text without the blanks in front of it and behind it. -/
def trim (text : List Char) : List Char :=
  (trimStart (trimStart text).reverse).reverse

/-- ASCII letters in lower case, everything else unchanged. -/
def toLowerAscii (text : List Char) : List Char :=
  text.map Char.toLower

end PgConsole.Text
