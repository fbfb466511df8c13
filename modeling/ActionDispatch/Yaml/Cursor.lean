/-!
# Places in a document

Marks count from zero. Lines and columns count line breaks and characters, the index counts octets of
UTF-8. A cursor is what is left of a document, with the mark of its first character.
-/

namespace ActionDispatch.Yaml

structure Mark where
  index : Nat := 0
  line : Nat := 0
  column : Nat := 0
  deriving DecidableEq

structure Cursor where
  rest : List Char
  mark : Mark := {}

def isBreak (c : Char) : Bool :=
  c == '\n' || c == '\r' || c == '\x85' || c == '\u2028' || c == '\u2029'

def isBlank (c : Char) : Bool := c == ' ' || c == '\t'

/-- A letter, a digit, a hyphen or an underscore, as names of anchors and tags have them. -/
def isNameChar (c : Char) : Bool := c.isAlphanum || c == '-' || c == '_'

/-- A character that has a meaning of its own inside brackets and braces. -/
def isFlowIndicator (c : Char) : Bool :=
  c == ',' || c == '[' || c == ']' || c == '{' || c == '}'

def isPermitted (c : Char) : Bool :=
  let n := c.toNat
  n == 9 || n == 0xa || n == 0xd || (0x20 ≤ n && n ≤ 0x7e) || n == 0x85 ||
    (0xa0 ≤ n && n ≤ 0xfffd) || 0x10000 ≤ n

def octetCount (cs : List Char) : Nat := cs.foldl (· + ·.utf8Size) 0

/-- As many characters as fit into a number of octets, and the others. -/
def splitOctets (room : Nat) : List Char → List Char × List Char
  | [] => ([], [])
  | c :: cs =>
    if c.utf8Size ≤ room then
      let (first, others) := splitOctets (room - c.utf8Size) cs
      (c :: first, others)
    else ([], c :: cs)

/-- The portions of a document before the first one with a character that it must not contain, and
whether these are all. A portion has 16384 octets and is looked at as a whole before it is read. -/
def checkedPortions : Nat → List Char → List Char × Bool
  | 0, _ => ([], true)
  | _, [] => ([], true)
  | fuel + 1, cs =>
    let (portion, others) := splitOctets 16384 cs
    if portion.all isPermitted then
      let (others, complete) := checkedPortions fuel others
      (portion ++ others, complete)
    else ([], false)

/-- What can be read of a document, and whether this is all. -/
def checked (text : String) : List Char × Bool :=
  checkedPortions (text.length + 1) text.toList

/-- Nothing, a blank or a line break comes first. -/
def wordEnds : List Char → Bool
  | [] => true
  | c :: _ => isBlank c || isBreak c

def lineEnds : List Char → Bool
  | [] => true
  | c :: _ => isBreak c

namespace Cursor

def peek? (c : Cursor) : Option Char := c.rest.head?

/-- Whether a character that `p` accepts comes first. -/
def sees (c : Cursor) (p : Char → Bool) : Bool := (c.peek?.map p).getD false

/-- Past `n` characters of the line. -/
def skip (c : Cursor) (n : Nat) : Cursor where
  rest := c.rest.drop n
  mark := { c.mark with
    index := c.mark.index + octetCount (c.rest.take n), column := c.mark.column + n }

/-- The characters of the line that `p` accepts, and what follows them. -/
def takeWhile (c : Cursor) (p : Char → Bool) : List Char × Cursor :=
  let word := c.rest.takeWhile p
  (word, c.skip word.length)

def skipWhile (c : Cursor) (p : Char → Bool) : Cursor := (c.takeWhile p).2

def skipLine (c : Cursor) : Cursor := c.skipWhile (!isBreak ·)

/-- A line break as it counts in a scalar, and what follows it; nothing if there is none. A carriage
return with a line feed is one break, and all breaks but the two separators count as a line feed. -/
def takeBreak (c : Cursor) : List Char × Cursor :=
  let next (octets : Nat) (rest : List Char) : Cursor :=
    ⟨rest, ⟨c.mark.index + octets, c.mark.line + 1, 0⟩⟩
  match c.rest with
  | [] => ([], c)
  | '\r' :: '\n' :: rest => (['\n'], next 2 rest)
  | b :: rest =>
    if isBreak b then ([if b == '\u2028' || b == '\u2029' then b else '\n'], next b.utf8Size rest)
    else ([], c)

/-- Three times `mark` at the start of a line, with nothing joined on. -/
def atIndicator (c : Cursor) (mark : Char) : Bool :=
  c.mark.column == 0 && c.rest.take 3 == [mark, mark, mark] && wordEnds (c.rest.drop 3)

def atDocumentIndicator (c : Cursor) : Bool := c.atIndicator '-' || c.atIndicator '.'

end Cursor

end ActionDispatch.Yaml
