import Tracing.Text

/-!
# Tracing.Text.Blank

White space and the fields of a separated list.

* `isBlank` — the characters that are white space in Unicode, and the four ASCII separators.
* `strip`   — a text without the white space at its two ends.
* `fields`  — the pieces of a text between separators.
-/

namespace Tracing

namespace Text

/-- White space: the ASCII controls from tab to carriage return and from file to unit separator,
next line, and the space separators with the line and paragraph separators. -/
def isBlank (c : CodePoint) : Bool :=
  let n := c.value
  (9 ≤ n && n ≤ 13) || (28 ≤ n && n ≤ 32) || n == 0x85 || n == 0xa0 || n == 0x1680 ||
    (0x2000 ≤ n && n ≤ 0x200a) || n == 0x2028 || n == 0x2029 || n == 0x202f || n == 0x205f ||
    n == 0x3000

def stripLeft (cs : List CodePoint) : List CodePoint := cs.dropWhile isBlank

def stripRight (cs : List CodePoint) : List CodePoint := (cs.reverse.dropWhile isBlank).reverse

def strip (cs : List CodePoint) : List CodePoint := stripRight (stripLeft cs)

/-- The pieces of a text between the separators, one more than there are separators. -/
def fields (separator : CodePoint) : List CodePoint → List (List CodePoint)
  | [] => [[]]
  | c :: rest =>
    if c = separator then [] :: fields separator rest
    else
      match fields separator rest with
      | [] => [[c]]
      | field :: more => (c :: field) :: more

/-- The pieces joined again, with the separator between them. -/
def joinFields (separator : CodePoint) : List (List CodePoint) → List CodePoint
  | [] => []
  | [field] => field
  | field :: more => field ++ separator :: joinFields separator more

/-- Whether a text is a given lower-case ASCII word, white space around it and case aside. -/
def isWord (word : String) (t : Text) : Bool :=
  (Text.mk (strip t.points)).toChars?.any fun cs => cs.map Char.toLower == word.toList

end Text

end Tracing
