import Tracing.Text.Printable

/-!
# Tracing.Text.Quoted

Texts between quotes, as messages and listings show them. The quote is a single one, unless the
text holds a single quote and no double one. Inside, the quote in use and the backslash are
escaped, line feed, carriage return and tab have escapes of one letter, and every other code point
that is not printable is written in two, four or eight hexadecimal digits.
-/

namespace Tracing

namespace Text

/-- Lower-case hexadecimal digits of `n`, with zeros in front up to `width`. -/
def hex (width n : Nat) : List Char :=
  let digits := Nat.toDigits 16 n
  List.replicate (width - digits.length) '0' ++ digits

/-- A code point by its number. -/
def escapedCode (c : CodePoint) : List Char :=
  let n := c.value
  if n < 0x100 then '\\' :: 'x' :: hex 2 n
  else if n < 0x10000 then '\\' :: 'u' :: hex 4 n
  else '\\' :: 'U' :: hex 8 n

def escape (quote c : CodePoint) : Text :=
  if c = quote ∨ c = '\\' then ⟨['\\', c]⟩
  else if c = '\n' then "\\n"
  else if c = '\r' then "\\r"
  else if c = '\t' then "\\t"
  else if isPrintable c then ⟨[c]⟩
  else ofChars (escapedCode c)

def quoteFor (cs : List CodePoint) : CodePoint :=
  if cs.contains '\'' && !cs.contains '"' then '"' else '\''

def quoted (t : Text) : Text :=
  let quote := quoteFor t.points
  ⟨quote :: (t.points.flatMap (fun c => (escape quote c).points) ++ [quote])⟩

end Text

end Tracing
