import MessageExpr.Unicode.Category

/-!
# Texts as they are shown to a person

A shown text stands between double quotes. Quotes, backslashes, tabs, line feeds and carriage
returns are written with a backslash, the null character as `\0`, and every character that
cannot be seen or that would combine with its neighbour by its code point in braces.
-/

namespace MessageExpr.Text

open MessageExpr.Unicode

/-- How one character is shown. -/
def showChar (c : Char) : List Char :=
  match c with
  | '\x00' => ['\\', '0']
  | '\t' => ['\\', 't']
  | '\r' => ['\\', 'r']
  | '\n' => ['\\', 'n']
  | '"' => ['\\', '"']
  | '\\' => ['\\', '\\']
  | c =>
    if isPrintable c && !isGraphemeExtend c then [c]
    else ['\\', 'u', '\x7b'] ++ Nat.toDigits 16 c.toNat ++ ['\x7d']

end MessageExpr.Text

namespace MessageExpr

/-- The text as it is shown to a person. -/
def shown (s : String) : String :=
  String.ofList ('"' :: s.toList.flatMap Text.showChar ++ ['"'])

end MessageExpr
