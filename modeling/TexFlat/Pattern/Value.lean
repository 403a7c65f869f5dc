import TexFlat.Pattern.Expression

/-!
# Patterns for values

A pattern for a value is a number or an expression. The two differ only where a number has a plus
sign in front, which as an expression would repeat nothing.
-/

namespace TexFlat.Pattern

/-- The text without a sign in front. -/
def unsigned : Text → Text
  | '+' :: text => text
  | '-' :: text => text
  | text => text

/-- Nothing, or the letter e and a whole number. -/
def isExponent : Text → Bool
  | [] => true
  | c :: text => c.toLower = 'e' && unsigned text ≠ [] && (unsigned text).all Char.isDigit

/-- A number in decimal digits, of which some stand before the point or behind it. -/
def isDecimal (text : Text) : Bool :=
  let whole := text.takeWhile Char.isDigit
  match text.dropWhile Char.isDigit with
  | '.' :: rest =>
    let places := rest.takeWhile Char.isDigit
    !(whole = [] && places = []) && isExponent (rest.dropWhile Char.isDigit)
  | rest => whole ≠ [] && isExponent rest

def isNumber (text : Text) : Bool :=
  isDecimal (unsigned text) ||
    ["inf", "infinity", "nan"].contains (String.ofList ((unsigned text).map Char.toLower))

def isValue (text : Text) : Bool := isNumber text || isExpression text

end TexFlat.Pattern
