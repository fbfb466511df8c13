import ActionDispatch.Text.Hex
import ActionDispatch.Yaml.Token

/-!
# Scalars

The five ways in which a scalar is written, each as a function from the place where it starts to its
text and the place after it. `none` means that the scalar is malformed. Loops run on fuel that the
length of the remaining document bounds, since every turn takes at least one character.
-/

namespace ActionDispatch.Yaml

inductive Gap
  | nothing
  | blanks (cs : List Char)
  | lines (first more : List Char)

/-- What a gap counts for: a single line feed is a space, further breaks stand for themselves. -/
def Gap.text : Gap → List Char
  | .nothing => []
  | .blanks cs => cs
  | .lines first more =>
    if first = ['\n'] then (if more.isEmpty then [' '] else more) else first ++ more

def Gap.isLines : Gap → Bool
  | .lines .. => true
  | _ => false

/-- Collects white space. After a line break a tab must not stand left of `minColumn`. -/
def takeGap (minColumn : Nat) : Nat → Gap → Cursor → Option (Gap × Cursor)
  | 0, _, _ => none
  | fuel + 1, gap, c =>
    match c.peek? with
    | none => some (gap, c)
    | some b =>
      if isBlank b then
        match gap with
        | .lines _ _ =>
          if b == '\t' && c.mark.column < minColumn then none
          else takeGap minColumn fuel gap (c.skip 1)
        | .blanks cs => takeGap minColumn fuel (.blanks (cs ++ [b])) (c.skip 1)
        | .nothing => takeGap minColumn fuel (.blanks [b]) (c.skip 1)
      else if isBreak b then
        let (br, c) := c.takeBreak
        match gap with
        | .lines first more => takeGap minColumn fuel (.lines first (more ++ br)) c
        | _ => takeGap minColumn fuel (.lines br []) c
      else some (gap, c)

/-- A word of a plain scalar. A colon before white space ends it, in brackets and braces also an
indicator, and there a colon before an indicator is refused. -/
def plainWord (inFlow : Bool) : List Char → Option (List Char)
  | [] => some []
  | c :: rest =>
    if isBlank c || isBreak c then some []
    else if inFlow && c == ':' &&
        (rest.head?.map fun d => isFlowIndicator d || d == '?').getD false then none
    else if c == ':' && wordEnds rest then some []
    else if inFlow && isFlowIndicator c then some []
    else (plainWord inFlow rest).map (c :: ·)

/-- The words of a plain scalar. The flag tells whether line breaks follow the last word. -/
def plainWords (inFlow : Bool) (indent : Nat) :
    Nat → List Char → Gap → Cursor → Option (List Char × Bool × Cursor)
  | 0, _, _, _ => none
  | fuel + 1, text, gap, c =>
    if c.atDocumentIndicator || c.sees (· == '#') then some (text, gap.isLines, c)
    else do
      let word ← plainWord inFlow c.rest
      let (text, gap) := if word.isEmpty then (text, gap) else (text ++ gap.text ++ word, .nothing)
      let c := c.skip word.length
      if c.sees fun b => isBlank b || isBreak b then
        let (gap, c) ← takeGap indent (c.rest.length + 1) gap c
        if !inFlow && c.mark.column < indent then some (text, gap.isLines, c)
        else plainWords inFlow indent fuel text gap c
      else some (text, gap.isLines, c)

/-- A plain scalar inside a block whose content starts at column `indent`. -/
def plainScalar (inFlow : Bool) (indent : Nat) (c : Cursor) : Option (List Char × Bool × Cursor) :=
  plainWords inFlow indent (c.rest.length + 1) [] .nothing c

def shortEscape? : Char → Option Char
  | '0' => some '\x00'
  | 'a' => some '\x07'
  | 'b' => some '\x08'
  | 't' => some '\t'
  | '\t' => some '\t'
  | 'n' => some '\n'
  | 'v' => some '\x0b'
  | 'f' => some '\x0c'
  | 'r' => some '\r'
  | 'e' => some '\x1b'
  | ' ' => some ' '
  | '"' => some '"'
  | '/' => some '/'
  | '\\' => some '\\'
  | 'N' => some '\x85'
  | '_' => some '\xa0'
  | 'L' => some '\u2028'
  | 'P' => some '\u2029'
  | _ => none

def escapeWidth? : Char → Option Nat
  | 'x' => some 2
  | 'u' => some 4
  | 'U' => some 8
  | _ => none

/-- The character with this code point, if there is one. -/
def charOf? (n : Nat) : Option Char :=
  if n < 0xd800 || (0xdfff < n && n ≤ 0x10ffff) then some (Char.ofNat n) else none

/-- A run of a single-quoted scalar up to white space or the closing quote. -/
def singleQuotedRun : Nat → List Char → Cursor → List Char × Cursor
  | 0, text, c => (text, c)
  | fuel + 1, text, c =>
    match c.rest with
    | '\'' :: '\'' :: _ => singleQuotedRun fuel (text ++ ['\'']) (c.skip 2)
    | '\'' :: _ => (text, c)
    | b :: _ =>
      if isBlank b || isBreak b then (text, c) else singleQuotedRun fuel (text ++ [b]) (c.skip 1)
    | [] => (text, c)

/-- A run of a double-quoted scalar up to white space, the closing quote or an escaped line break;
the flag tells of the last. -/
def doubleQuotedRun : Nat → List Char → Cursor → Option (List Char × Bool × Cursor)
  | 0, text, c => some (text, false, c)
  | fuel + 1, text, c =>
    match c.rest with
    | '"' :: _ => some (text, false, c)
    | '\\' :: e :: rest =>
      if isBreak e then some (text, true, (c.skip 1).takeBreak.2)
      else
        match shortEscape? e with
        | some d => doubleQuotedRun fuel (text ++ [d]) (c.skip 2)
        | none => do
          let width ← escapeWidth? e
          if rest.length < width then none
          else
            let d ← (Text.hexNumber? (rest.take width)).bind charOf?
            doubleQuotedRun fuel (text ++ [d]) (c.skip (2 + width))
    | '\\' :: [] => none
    | b :: _ =>
      if isBlank b || isBreak b then some (text, false, c)
      else doubleQuotedRun fuel (text ++ [b]) (c.skip 1)
    | [] => some (text, false, c)

def quotedRuns (double : Bool) : Nat → List Char → Cursor → Option (List Char × Cursor)
  | 0, _, _ => none
  | fuel + 1, text, c =>
    if c.atDocumentIndicator || c.rest.isEmpty then none
    else do
      let (text, broken, c) ←
        if double then doubleQuotedRun (c.rest.length + 1) text c
        else
          let (text, c) := singleQuotedRun (c.rest.length + 1) text c
          some (text, false, c)
      if c.sees (· == if double then '"' else '\'') then some (text, c.skip 1)
      else
        let (gap, c) ← takeGap 0 (c.rest.length + 1) (if broken then .lines [] [] else .nothing) c
        quotedRuns double fuel (text ++ gap.text) c

def quotedScalar (double : Bool) (c : Cursor) : Option (List Char × Cursor) :=
  quotedRuns double (c.rest.length + 1) [] (c.skip 1)

inductive Chomping
  | strip | clip | keep
  deriving DecidableEq

/-- Blank lines before a line of a block scalar. The indentation `0` is not known yet; then the
deepest line decides, but at least `floor`. -/
def blockBreaks (floor : Nat) :
    Nat → Nat → Nat → List Char → Cursor → Option (Nat × List Char × Cursor)
  | 0, _, _, _, _ => none
  | fuel + 1, indent, deepest, breaks, c =>
    let spaces := (c.rest.takeWhile (· == ' ')).length
    let c := c.skip (if indent = 0 then spaces else min spaces (indent - c.mark.column))
    let deepest := max deepest c.mark.column
    if (indent = 0 || c.mark.column < indent) && c.sees (· == '\t') then none
    else if c.sees isBreak then
      let (br, c) := c.takeBreak
      blockBreaks floor fuel indent deepest (breaks ++ br) c
    else some (if indent = 0 then max (max deepest floor) 1 else indent, breaks, c)

/-- The lines of a block scalar. `leading` is the break before the coming line, `breaks` the blank lines
between, and `wasBlank` tells whether the line before starts with a blank. -/
def blockLines (literal : Bool) (chomping : Chomping) (indent : Nat) :
    Nat → List Char → List Char → List Char → Bool → Cursor → Option (List Char × Cursor)
  | 0, _, _, _, _, _ => none
  | fuel + 1, text, leading, breaks, wasBlank, c =>
    if c.mark.column == indent && !c.rest.isEmpty then do
      let nowBlank := c.sees isBlank
      let joint :=
        if !literal && leading.head? == some '\n' && !wasBlank && !nowBlank then
          (if breaks.isEmpty then [' '] else [])
        else leading
      let (line, c) := c.takeWhile (!isBreak ·)
      let text := text ++ joint ++ breaks ++ line
      let (leading, c) := c.takeBreak
      let (_, breaks, c) ← blockBreaks indent (c.rest.length + 1) indent 0 [] c
      blockLines literal chomping indent fuel text leading breaks nowBlank c
    else
      some (text ++ (if chomping = .strip then [] else leading) ++
        (if chomping = .keep then breaks else []), c)

/-- The chomping and the given indentation after the sign of a block scalar, in either order. -/
def blockHeader (c : Cursor) : Option (Chomping × Nat × Cursor) :=
  let chomping? (d : Char) : Option Chomping :=
    if d == '+' then some .keep else if d == '-' then some .strip else none
  let digit? (d : Char) : Option Nat := if d.isDigit then some (d.toNat - 48) else none
  let indentation (c : Cursor) : Option (Nat × Cursor) :=
    match c.peek?.bind digit? with
    | some 0 => none
    | some n => some (n, c.skip 1)
    | none => some (0, c)
  match c.peek?.bind chomping? with
  | some chomping => (indentation (c.skip 1)).map fun (n, c) => (chomping, n, c)
  | none => do
    let (n, c) ← indentation c
    match (if n = 0 then none else c.peek?.bind chomping?) with
    | some chomping => some (chomping, n, c.skip 1)
    | none => some (.clip, n, c)

/-- A literal or folded block scalar inside a block at column `outer`, if there is one. -/
def blockScalar (literal : Bool) (outer : Int) (c : Cursor) : Option (List Char × Cursor) := do
  let (chomping, given, c) ← blockHeader (c.skip 1)
  let c := c.skipWhile isBlank
  let c := if c.sees (· == '#') then c.skipLine else c
  if !lineEnds c.rest then none
  else
    let c := c.takeBreak.2
    let given := if given = 0 then 0 else outer.toNat + given
    let (indent, breaks, c) ← blockBreaks (outer + 1).toNat (c.rest.length + 1) given 0 [] c
    blockLines literal chomping indent (c.rest.length + 1) [] [] breaks false c

end ActionDispatch.Yaml
