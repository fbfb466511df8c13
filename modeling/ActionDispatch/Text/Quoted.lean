import ActionDispatch.Text.GraphemeExtend
import ActionDispatch.Text.Unprintable

/-!
# Quoted text

Text between double quotes in which every character can be seen: quotes and backslashes are escaped,
the usual controls have short escapes, and what shows nothing, or would attach to the character before
it, is given by its code point.
-/

namespace ActionDispatch.Text

/-- The letters that hold the place of a missing letter and show nothing. -/
def isFiller (c : Char) : Bool :=
  c == '\u115f' || c == '\u1160' || c == '\u3164' || c == '\uffa0'

/-- The extenders that are letters and stand in a cell of their own: the halfwidth voicing marks. -/
def isVoicingMark (c : Char) : Bool :=
  c == '\uff9e' || c == '\uff9f'

/-- Whether a character can be seen and told from the one before it. -/
def isVisible (c : Char) : Bool :=
  !isUnprintable c && !isFiller c && (!isGraphemeExtend c || isVoicingMark c)

def escape (c : Char) : List Char :=
  match c with
  | '\x00' => ['\\', '0']
  | '\t' => ['\\', 't']
  | '\r' => ['\\', 'r']
  | '\n' => ['\\', 'n']
  | '\\' => ['\\', '\\']
  | '"' => ['\\', '"']
  | _ =>
    if (0x20 ≤ c.toNat && c.toNat < 0x7f) || isVisible c then [c]
    else ['\\', 'u', '{'] ++ Nat.toDigits 16 c.toNat ++ ['}']

def quote (s : String) : String :=
  String.ofList ('"' :: s.toList.flatMap escape ++ ['"'])

end ActionDispatch.Text
