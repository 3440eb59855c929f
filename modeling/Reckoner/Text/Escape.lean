import Reckoner.Text.GraphemeExtend
import Reckoner.Text.Unprintable

/-! Visible spellings of single characters. -/
namespace Reckoner.Text

/-- The halfwidth sound marks extend a grapheme, but stand visibly in a cell of their own. -/
def isHalfwidthMark (c : Char) : Bool := c == '\uff9e' || c == '\uff9f'

/-- A character as it is shown between quotes: quotes, backslashes and what could not be seen
there stand escaped, all others for themselves. -/
def escapeChar (c : Char) : List Char :=
  match c with
  | '\x00' => ['\\', '0']
  | '\t' => ['\\', 't']
  | '\r' => ['\\', 'r']
  | '\n' => ['\\', 'n']
  | '\\' => ['\\', '\\']
  | '\'' => ['\\', '\'']
  | '"' => ['\\', '"']
  | c =>
    if (isGraphemeExtend c && !isHalfwidthMark c) || isUnprintable c then
      '\\' :: 'u' :: '\x7b' :: (Nat.toDigits 16 c.toNat ++ ['\x7d'])
    else [c]

end Reckoner.Text
