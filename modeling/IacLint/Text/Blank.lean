import IacLint.Text.CodeRanges

/-!
# Blank characters and lines

Two character classes of Unicode 14 that text handling rests on:

* blanks: the white-space characters (bidirectional class WS, B or S, or general
  category Zs) — the tab, line feed, vertical tab, form feed, carriage return, the
  information separators `U+1C..U+1F`, the space, `U+85`, the no-break space, and the
  Unicode spaces and separators;
* line breaks: the characters that end a line when text is cut into lines — line feed,
  vertical tab, form feed, carriage return, `U+1C..U+1E`, `U+85`, and the line and
  paragraph separators. A carriage return directly followed by a line feed ends one
  line, not two.

## Main definitions

* `isBlank`, `strip`, `isBlankText` — blanks and trimming
* `isLineBreak`, `splitLines` — cutting text into lines at line breaks
* `splitOnChar` — cutting text at every occurrence of one character
-/

namespace IacLint.Text

/-- The white-space characters. -/
def blankRanges : CodeRanges :=
  CodeRanges.ofHex "9-d,1c-20,85,a0,1680,2000-200a,2028-2029,202f,205f,3000"

/-- Whether `c` is a blank (white-space) character. -/
def isBlank (c : Char) : Bool := blankRanges.contains c

/-- Drops blanks at both ends of a character list. -/
def stripChars (cs : List Char) : List Char :=
  ((cs.dropWhile isBlank).reverse.dropWhile isBlank).reverse

/-- Drops blanks at both ends of a text. -/
def strip (s : String) : String := String.ofList (stripChars s.toList)

/-- Whether a text holds nothing but blanks (the empty text included). -/
def isBlankText (s : String) : Bool := s.toList.all isBlank

/-- Whether `c` ends a line. -/
def isLineBreak (c : Char) : Bool :=
  c = '\n' || c = '\r' || c = '\x0b' || c = '\x0c' || c = '\x1c' || c = '\x1d' ||
    c = '\x1e' || c = '\x85' || c = '\u2028' || c = '\u2029'

/-- Cuts a character list into lines; `cur` is the reversed part of the line begun so
far. A line break ends the line and is dropped, a carriage return together with a line
feed after it; nothing after a last break makes no further line. -/
def splitLinesAux : List Char → List Char → List String
  | [], [] => []
  | [], cur => [String.ofList cur.reverse]
  | '\r' :: '\n' :: rest, cur => String.ofList cur.reverse :: splitLinesAux rest []
  | c :: rest, cur =>
    if isLineBreak c then String.ofList cur.reverse :: splitLinesAux rest []
    else splitLinesAux rest (c :: cur)

/-- The lines of a text, without their line breaks. -/
def splitLines (s : String) : List String := splitLinesAux s.toList []

/-- Cuts a character list at every occurrence of `sep`; `cur` is the reversed part of
the piece begun so far. There is always one piece more than there are separators. -/
def splitOnCharAux (sep : Char) : List Char → List Char → List String
  | [], cur => [String.ofList cur.reverse]
  | c :: rest, cur =>
    if c = sep then String.ofList cur.reverse :: splitOnCharAux sep rest []
    else splitOnCharAux sep rest (c :: cur)

/-- The pieces of a text between occurrences of `sep`. -/
def splitOnChar (s : String) (sep : Char) : List String := splitOnCharAux sep s.toList []

end IacLint.Text
