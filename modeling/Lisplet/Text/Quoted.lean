import Lisplet.Text.Printable

/-!
Quoted texts of messages and debugging forms. The single quote is preferred; the double quote is
taken where the text holds single quotes and no double ones. The backslash, the quote and whatever
is not printable are escaped.
-/

namespace Lisplet

namespace Text

def hexDigits (count number : Nat) : Text :=
  match count with
  | 0 => []
  | count + 1 =>
    hexDigits count (number / 16) ++ [CodePoint.ofChar (Nat.digitChar (number % 16))]

def numericEscape (point : CodePoint) : Text :=
  if point.val < 0x100 then ofString "\\x" ++ hexDigits 2 point.val
  else if point.val < 0x10000 then ofString "\\u" ++ hexDigits 4 point.val
  else ofString "\\U" ++ hexDigits 8 point.val

def singleQuote : CodePoint := CodePoint.ofChar '\''

def doubleQuote : CodePoint := CodePoint.ofChar '"'

def backslash : CodePoint := CodePoint.ofChar '\\'

def quotedPoint (quote point : CodePoint) : Text :=
  if point = backslash ∨ point = quote then [backslash, point]
  else if point = CodePoint.ofChar '\n' then ofString "\\n"
  else if point = CodePoint.ofChar '\r' then ofString "\\r"
  else if point = CodePoint.ofChar '\t' then ofString "\\t"
  else if point.isPrintable then [point]
  else numericEscape point

def preferredQuote (text : Text) : CodePoint :=
  if text.contains singleQuote && !text.contains doubleQuote then doubleQuote else singleQuote

def quoted (text : Text) : Text :=
  let quote := preferredQuote text
  quote :: text.flatMap (quotedPoint quote) ++ [quote]

def escapeNonAscii (text : Text) : Text :=
  text.flatMap fun point => if point.val < 0x80 then [point] else numericEscape point

end Text

end Lisplet
