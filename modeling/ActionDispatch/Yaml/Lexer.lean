import ActionDispatch.Yaml.Scalar
import ActionDispatch.Yaml.Tag

/-!
# From a document to its tokens

A key of a mapping need not be marked as one: only the colon after it tells. So a token that may begin
such a key is held back until the colon comes, or until it cannot come any more because the line ends
or more than 1024 octets have passed. When a document is malformed, the tokens before the fault that
were no longer held back still count.
-/

namespace ActionDispatch.Yaml

/-- A place where a key without a mark of its own may begin. -/
structure SimpleKey where
  /-- Nothing else can stand here. -/
  required : Bool
  number : Nat
  mark : Mark

structure Lexer where
  cursor : Cursor
  /-- The column of the innermost block, `-1` outside of all. -/
  indent : Int := -1
  /-- The columns of the blocks around it, innermost first. -/
  outer : List Int := []
  /-- The possible keys of the open brackets and braces, innermost first, and of the block around. -/
  keys : List (Option SimpleKey) := [none]
  /-- Whether a key may begin here. -/
  keyAllowed : Bool := true
  tokens : Array (Placed Token) := #[]
  /-- Whether the document ends where the cursor does; otherwise a fault comes there. -/
  complete : Bool := true
  done : Bool := false

namespace Lexer

def mark (lx : Lexer) : Mark := lx.cursor.mark

/-- Whether a bracket or a brace is open. -/
def inFlow (lx : Lexer) : Bool := lx.keys.length > 1

def add (lx : Lexer) (token : Token) (next : Cursor) : Lexer :=
  { lx with tokens := lx.tokens.push ⟨token, lx.mark, next.mark⟩, cursor := next }

/-- Adds a token without extent. -/
def addEmpty (lx : Lexer) (token : Token) : Lexer := lx.add token lx.cursor

/-- Inserts a token without extent before the token with a number. -/
def insert (lx : Lexer) (number : Nat) (token : Token) (mark : Mark) : Lexer :=
  { lx with tokens := lx.tokens.insertIdxIfInBounds number ⟨token, mark, mark⟩ }

/-- Gives up the possible key of the innermost level; a required one must not be given up. -/
def removeKey (lx : Lexer) : Option Lexer :=
  match lx.keys with
  | [] => some lx
  | key :: keys =>
    if key.any (·.required) then none else some { lx with keys := none :: keys }

def saveKey (lx : Lexer) : Option Lexer :=
  if lx.keyAllowed then do
    let lx ← lx.removeKey
    let required := !lx.inFlow && lx.indent == (lx.mark.column : Int)
    some { lx with keys := some ⟨required, lx.tokens.size, lx.mark⟩ :: lx.keys.drop 1 }
  else some lx

/-- Gives up every possible key whose line has ended or that has become too long. -/
def dropStale (lx : Lexer) : Option Lexer := do
  let keys ← lx.keys.mapM fun key? =>
    match key? with
    | none => some none
    | some key =>
      if key.mark.line < lx.mark.line || key.mark.index + 1024 < lx.mark.index then
        if key.required then none else some none
      else some (some key)
  some { lx with keys }

/-- How many tokens are not held back. -/
def settled (lx : Lexer) : Nat :=
  lx.keys.foldl (fun n key? => (key?.map (min n ·.number)).getD n) lx.tokens.size

/-- Opens a block at a column, if it lies deeper than the innermost one. -/
def openBlock (lx : Lexer) (column number : Nat) (token : Token) (mark : Mark) : Lexer :=
  if !lx.inFlow && lx.indent < (column : Int) then
    { lx with indent := column, outer := lx.indent :: lx.outer }.insert number token mark
  else lx

/-- Closes the blocks that lie deeper than a column. -/
def closeBlocks (lx : Lexer) (column : Int) : Lexer :=
  if lx.inFlow then lx
  else
    let rec close (indent : Int) : List Int → Lexer → Lexer
      | [], lx => { lx with indent, outer := [] }
      | next :: outer, lx =>
        if column < indent then close next outer (lx.addEmpty .blockEnd)
        else { lx with indent, outer := next :: outer }
    close lx.indent lx.outer lx

/-- Past blanks, comments and line breaks, and a byte order mark at the start of a line. Outside of
brackets and braces a key may begin after a line break, and no tab may stand where one may begin. -/
def skipSpace : Nat → Lexer → Lexer
  | 0, lx => lx
  | fuel + 1, lx =>
    let tabs := lx.inFlow || !lx.keyAllowed
    let c := lx.cursor
    let c := if c.mark.column == 0 && c.sees (· == '\ufeff') then c.skip 1 else c
    let c := c.skipWhile fun b => b == ' ' || (tabs && b == '\t')
    let c := if c.sees (· == '#') then c.skipLine else c
    if c.sees isBreak then
      skipSpace fuel { lx with cursor := c.takeBreak.2, keyAllowed := lx.keyAllowed || !lx.inFlow }
    else { lx with cursor := c }

/-- The end of the document text. It counts as the end of a line. -/
def streamEnd (lx : Lexer) : Option Lexer := do
  let m := lx.mark
  let m := if m.column = 0 then m else { m with line := m.line + 1, column := 0 }
  let lx := { lx with cursor := ⟨[], m⟩ }
  let lx ← (lx.closeBlocks (-1)).removeKey
  some { lx.addEmpty .streamEnd with keyAllowed := false, done := true }

/-- A token that belongs to no block: a directive, or a start or an end of a document. -/
def outermost (lx : Lexer) (token : Token) (next : Cursor) : Option Lexer := do
  let lx ← (lx.closeBlocks (-1)).removeKey
  some { lx.add token next with keyAllowed := false }

def flowStart (lx : Lexer) (token : Token) : Option Lexer := do
  let lx ← lx.saveKey
  some { lx.add token (lx.cursor.skip 1) with keys := none :: lx.keys, keyAllowed := true }

def flowEnd (lx : Lexer) (token : Token) : Option Lexer := do
  let lx ← lx.removeKey
  let keys := if lx.inFlow then lx.keys.drop 1 else lx.keys
  some { lx.add token (lx.cursor.skip 1) with keys, keyAllowed := false }

def flowEntry (lx : Lexer) : Option Lexer := do
  let lx ← lx.removeKey
  some { lx.add .flowEntry (lx.cursor.skip 1) with keyAllowed := true }

def blockEntry (lx : Lexer) : Option Lexer := do
  let lx ←
    if lx.inFlow then some lx
    else if lx.keyAllowed then
      some (lx.openBlock lx.mark.column lx.tokens.size .blockSequenceStart lx.mark)
    else none
  let lx ← lx.removeKey
  some { lx.add .blockEntry (lx.cursor.skip 1) with keyAllowed := true }

/-- The block mapping that a marked key or a value without a key before it opens. -/
def openMapping (lx : Lexer) : Option Lexer :=
  if lx.inFlow then some lx
  else if lx.keyAllowed then
    some (lx.openBlock lx.mark.column lx.tokens.size .blockMappingStart lx.mark)
  else none

def markedKey (lx : Lexer) : Option Lexer := do
  let lx ← (← lx.openMapping).removeKey
  some { lx.add .key (lx.cursor.skip 1) with keyAllowed := !lx.inFlow }

/-- A colon. It makes a key of what a possible key began with. -/
def value (lx : Lexer) : Option Lexer := do
  let lx ←
    match lx.keys with
    | some key :: keys =>
      let lx := lx.insert key.number .key key.mark
      let lx := lx.openBlock key.mark.column key.number .blockMappingStart key.mark
      some { lx with keys := none :: keys, keyAllowed := false }
    | _ => (lx.openMapping).map fun lx => { lx with keyAllowed := !lx.inFlow }
  some (lx.add .value (lx.cursor.skip 1))

/-- A node property or a scalar, with which a key may begin. -/
def nodeToken (lx : Lexer) (read : Cursor → Option (Token × Cursor)) : Option Lexer := do
  let lx ← lx.saveKey
  let (token, next) ← read lx.cursor
  some { lx.add token next with keyAllowed := false }

def plain (lx : Lexer) : Option Lexer := do
  let lx ← lx.saveKey
  let (text, broken, next) ← plainScalar lx.inFlow (lx.indent + 1).toNat lx.cursor
  some { lx.add (.scalar (String.ofList text) .plain) next with keyAllowed := broken }

def quoted (lx : Lexer) (double : Bool) : Option Lexer :=
  lx.nodeToken fun c => (quotedScalar double c).map fun (text, next) =>
    (.scalar (String.ofList text) (if double then .doubleQuoted else .singleQuoted), next)

def block (lx : Lexer) (literal : Bool) : Option Lexer := do
  let lx ← lx.removeKey
  let (text, next) ← blockScalar literal lx.indent lx.cursor
  let token := .scalar (String.ofList text) (if literal then .literal else .folded)
  some { lx.add token next with keyAllowed := true }

/-- Whether a plain scalar may begin with `b`, followed by `rest`. -/
def startsPlain (inFlow : Bool) (b : Char) (rest : List Char) : Bool :=
  !(isBlank b || isBreak b || "-?:,[]\x7b\x7d#&*!|>'\"%@\x60".toList.contains b) ||
    (b == '-' && !(rest.head?.map isBlank).getD false) ||
    (!inFlow && (b == '?' || b == ':') && !wordEnds rest)

/-- The next token, with the tokens that open or close blocks before it. -/
def next (lx : Lexer) : Option Lexer := do
  let lx ← (skipSpace (lx.cursor.rest.length + 1) lx).dropStale
  let lx := lx.closeBlocks lx.mark.column
  let c := lx.cursor
  match c.rest with
  | [] => lx.streamEnd
  | b :: rest =>
    if c.mark.column = 0 && b == '%' then do
      let (token, next) ← directive c
      lx.outermost token next
    else if c.atIndicator '-' then lx.outermost .documentStart (c.skip 3)
    else if c.atIndicator '.' then lx.outermost .documentEnd (c.skip 3)
    else if b == '[' then lx.flowStart .flowSequenceStart
    else if b == '{' then lx.flowStart .flowMappingStart
    else if b == ']' then lx.flowEnd .flowSequenceEnd
    else if b == '}' then lx.flowEnd .flowMappingEnd
    else if b == ',' then lx.flowEntry
    else if b == '-' && wordEnds rest then lx.blockEntry
    else if b == '?' && (lx.inFlow || wordEnds rest) then lx.markedKey
    else if b == ':' && (lx.inFlow || wordEnds rest) then lx.value
    else if b == '*' then lx.nodeToken fun c => (anchorName c).map fun (n, c) => (.alias n, c)
    else if b == '&' then lx.nodeToken fun c => (anchorName c).map fun (n, c) => (.anchor n, c)
    else if b == '!' then lx.nodeToken (tagToken lx.inFlow)
    else if b == '|' && !lx.inFlow then lx.block true
    else if b == '>' && !lx.inFlow then lx.block false
    else if b == '\'' then lx.quoted false
    else if b == '"' then lx.quoted true
    else if startsPlain lx.inFlow b rest then lx.plain
    else none

/-- The state after the next token. Where a fault lies ahead, no token reaches up to it. -/
def step (lx : Lexer) : Option Lexer := do
  let lx ← (← lx.next).dropStale
  if lx.complete || !lx.cursor.rest.isEmpty then some lx else none

/-- Reads on until the end or a fault, and gives the tokens that count. -/
def run : Nat → Lexer → List (Placed Token)
  | 0, lx => lx.tokens.toList.take lx.settled
  | fuel + 1, lx =>
    if lx.done then lx.tokens.toList
    else
      match lx.step with
      | none => lx.tokens.toList.take lx.settled
      | some lx => run fuel lx

end Lexer

/-- The tokens of a document. The last one is `streamEnd` unless a fault comes after them. -/
def tokens (text : String) : List (Placed Token) :=
  let (rest, complete) := checked text
  Lexer.run (rest.length + 2) { cursor := { rest }, complete }

end ActionDispatch.Yaml
