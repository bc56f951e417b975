import PatternForge.Text.Printable

/-!
# Quoted text

A quoted text stands between single quotes, or between double quotes when it holds a single quote
and no double one. The quote in use and the backslash are escaped, and so is every unprintable code
point, by the shortest of the three numeric escapes that has room for it.
-/

namespace PatternForge.Text

/-- The lowest hexadecimal digits of a number, so many of them, in lower case. -/
def hexDigits : Nat → Nat → List Char
  | 0, _ => []
  | width + 1, number => hexDigits width (number / 16) ++ [Nat.digitChar (number % 16)]

def quoteMark (text : Text) : CodePoint :=
  if text.contains (.ofChar '\x27') && !text.contains (.ofChar '\x22') then .ofChar '\x22'
  else .ofChar '\x27'

def numericEscape (point : CodePoint) : Text :=
  if point.val < 0x100 then ofChars ('\\' :: 'x' :: hexDigits 2 point.val)
  else if point.val < 0x10000 then ofChars ('\\' :: 'u' :: hexDigits 4 point.val)
  else ofChars ('\\' :: 'U' :: hexDigits 8 point.val)

/-- One code point inside the given quotes. -/
def quotedPoint (mark point : CodePoint) : Text :=
  if point = mark ∨ point = .ofChar '\\' then [.ofChar '\\', point]
  else if point = .ofChar '\t' then "\\t"
  else if point = .ofChar '\n' then "\\n"
  else if point = .ofChar '\r' then "\\r"
  else if point.isPrintable then [point]
  else numericEscape point

def quoted (text : Text) : Text :=
  let mark := text.quoteMark
  mark :: text.flatMap (quotedPoint mark) ++ [mark]

end PatternForge.Text
