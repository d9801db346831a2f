/-
Text in double quotes, as warnings show what a user wrote: every character
stays recognisable, and the quoted text is one line.
-/
import WriteBarrier.Text.Printable

namespace WriteBarrier.Text

/-- A character inside quotes: the quote, the backslash and four control characters by a short
escape, other unprintable characters by their code point in hexadecimal, the rest as themselves. -/
def escaped (c : Char) : List Char :=
  match c with
  | '"' => ['\\', '"']
  | '\\' => ['\\', '\\']
  | '\n' => ['\\', 'n']
  | '\r' => ['\\', 'r']
  | '\t' => ['\\', 't']
  | '\x00' => ['\\', '0']
  | _ => if isPrintable c then [c] else ['\\', 'u', '\x7b'] ++ Nat.toDigits 16 c.toNat ++ ['\x7d']

/-- The text in quotes. -/
def quoted (s : String) : String := String.ofList ('"' :: s.toList.flatMap escaped ++ ['"'])

end WriteBarrier.Text
