import ActionDispatch.Table
import ActionDispatch.Yaml.Lexer

/-!
# The nodes of the first document

A document is read as the list of what begins, ends or stands in it, each with the place where it
starts. The list goes as far as the text is well formed.

Anchors have numbers, and so have the aliases that name them. A new anchor gets the number of different
names that were given before. Since a name that is given again does not count again, two nodes can come
to have one number: an alias repeats the last node with its number, wherever it stands.
-/

namespace ActionDispatch.Yaml

/-- One part of a document, in the order of the text. -/
inductive Part
  /-- A node with an anchor, once more. -/
  | alias (number : Nat)
  | scalar (text : String) (style : ScalarStyle) (tag : Option Tag)
  | sequenceStart (tag : Option Tag)
  | sequenceEnd
  | mappingStart (tag : Option Tag)
  | mappingEnd
  deriving DecidableEq

structure Document where
  /-- Whether there is a document at all. -/
  present : Bool
  parts : Array (Part × Mark)
  /-- The position of the last node with each number. -/
  numbered : Table Nat Nat
  /-- Whether the document is cut short by a fault. -/
  broken : Bool
  /-- Whether anything comes after it. -/
  followed : Bool

/-- The state of reading parts: the tokens to come, the parts so far, the numbers of the anchors, and
the position of the last node with each number. -/
structure Reader where
  tokens : List (Placed Token)
  parts : Array (Part × Mark) := #[]
  anchors : Table String Nat := .empty
  numbered : Table Nat Nat := .empty
  /-- The tags that the handles stand for, the first match counts. -/
  handles : List (String × Tag) := []

namespace Reader

/-- Reading can fail, but the parts read before the fault stay. -/
abbrev Read (α : Type) := Reader → Option α × Reader

instance : Monad Read where
  pure a := fun r => (some a, r)
  bind x f := fun r =>
    match x r with
    | (some a, r) => f a r
    | (none, r) => (none, r)

def fault {α : Type} : Read α := fun r => (none, r)

def peek : Read (Placed Token) := fun r => (r.tokens.head?, r)

def advance : Read Unit := fun r => (some (), { r with tokens := r.tokens.drop 1 })

def push (part : Part) (mark : Mark) : Read Unit := fun r =>
  (some (), { r with parts := r.parts.push (part, mark) })

def pushNode (anchor : Option String) (part : Part) (mark : Mark) : Read Unit := fun r =>
  let r := match anchor with
    | some name =>
      let number := r.anchors.size
      { r with
        anchors := r.anchors.insert name number
        numbered := r.numbered.insert number r.parts.size }
    | none => r
  (some (), { r with parts := r.parts.push (part, mark) })

/-- A node without any text. -/
def pushEmpty (mark : Mark) : Read Unit := push (.scalar "" .plain none) mark

def anchorNumber (name : String) : Read Nat := fun r => (r.anchors.find? name, r)

/-- The full tag; the handle must be known. -/
def resolveTag (handle : String) (suffix : Tag) : Read Tag := fun r =>
  if handle = "" then (some suffix, r)
  else ((r.handles.lookup handle).map (·.append suffix), r)

/-- The anchor and the tag of a node, in either order, and the place where the node starts. -/
def properties : Read (Option String × Option (String × Tag) × Mark) := do
  let token ← peek
  match token.item with
  | .anchor name =>
    advance
    match (← peek).item with
    | .tag handle suffix =>
      advance
      pure (some name, some (handle, suffix), token.start)
    | _ => pure (some name, none, token.start)
  | .tag handle suffix =>
    advance
    match (← peek).item with
    | .anchor name =>
      advance
      pure (some name, some (handle, suffix), token.start)
    | _ => pure (none, some (handle, suffix), token.start)
  | _ => pure (none, none, token.start)

mutual

/-- One node. `block` tells whether block collections may stand here, and `indentless` whether a
sequence may begin without an indentation of its own. -/
def node (block indentless : Bool) : Nat → Read Unit
  | 0 => fault
  | fuel + 1 => do
    match (← peek).item with
    | .alias name =>
      let mark := (← peek).start
      advance
      push (.alias (← anchorNumber name)) mark
    | _ =>
      let (anchor, tag, start) ← properties
      let named := tag.isSome
      let tag ← match tag with
        | some (handle, suffix) => do pure (some (← resolveTag handle suffix))
        | none => pure none
      match (← peek).item with
      | .blockEntry =>
        if indentless then
          pushNode anchor (.sequenceStart tag) start
          indentlessItems fuel
        else if anchor.isSome || named then pushNode anchor (.scalar "" .plain tag) start
        else fault
      | .scalar text style =>
        pushNode anchor (.scalar text style tag) start
        advance
      | .flowSequenceStart =>
        pushNode anchor (.sequenceStart tag) start
        advance
        flowItems true fuel
      | .flowMappingStart =>
        pushNode anchor (.mappingStart tag) start
        advance
        flowPairs true fuel
      | .blockSequenceStart =>
        if block then
          pushNode anchor (.sequenceStart tag) start
          advance
          blockItems fuel
        else if anchor.isSome || named then pushNode anchor (.scalar "" .plain tag) start
        else fault
      | .blockMappingStart =>
        if block then
          pushNode anchor (.mappingStart tag) start
          advance
          blockPairs fuel
        else if anchor.isSome || named then pushNode anchor (.scalar "" .plain tag) start
        else fault
      | _ =>
        if anchor.isSome || named then pushNode anchor (.scalar "" .plain tag) start
        else fault

def blockItems : Nat → Read Unit
  | 0 => fault
  | fuel + 1 => do
    let token ← peek
    match token.item with
    | .blockEntry =>
      advance
      match (← peek).item with
      | .blockEntry | .blockEnd => pushEmpty token.stop
      | _ => node true false fuel
      blockItems fuel
    | .blockEnd =>
      push .sequenceEnd token.start
      advance
    | _ => fault

/-- The items of a sequence in a block mapping that is not indented. -/
def indentlessItems : Nat → Read Unit
  | 0 => fault
  | fuel + 1 => do
    let token ← peek
    match token.item with
    | .blockEntry =>
      advance
      match (← peek).item with
      | .blockEntry | .key | .value | .blockEnd => pushEmpty token.stop
      | _ => node true false fuel
      indentlessItems fuel
    | _ => push .sequenceEnd token.start

def blockPairs : Nat → Read Unit
  | 0 => fault
  | fuel + 1 => do
    let token ← peek
    match token.item with
    | .key =>
      advance
      match (← peek).item with
      | .key | .value | .blockEnd => pushEmpty token.stop
      | _ => node true true fuel
      blockValue fuel
    | .blockEnd =>
      push .mappingEnd token.start
      advance
    | _ => fault

/-- The value of a pair, and the pairs after it. -/
def blockValue : Nat → Read Unit
  | 0 => fault
  | fuel + 1 => do
    let token ← peek
    match token.item with
    | .value =>
      advance
      match (← peek).item with
      | .key | .value | .blockEnd => pushEmpty token.stop
      | _ => node true true fuel
    | _ => pushEmpty token.start
    blockPairs fuel

/-- The items between brackets; an item may be a single pair. -/
def flowItems (first : Bool) : Nat → Read Unit
  | 0 => fault
  | fuel + 1 => do
    let finish : Read Unit := do
      push .sequenceEnd (← peek).start
      advance
    let item : Read Unit := do
      match (← peek).item with
      | .key =>
        push (.mappingStart none) (← peek).start
        advance
        flowPairKey fuel
        flowItems false fuel
      | .flowSequenceEnd => finish
      | _ =>
        node false false fuel
        flowItems false fuel
    match (← peek).item with
    | .flowSequenceEnd => finish
    | .flowEntry => if first then item else do advance; item
    | _ => if first then item else fault

def flowPairKey : Nat → Read Unit
  | 0 => fault
  | fuel + 1 => do
    let token ← peek
    match token.item with
    | .value | .flowEntry | .flowSequenceEnd =>
      advance
      pushEmpty token.stop
    | _ => node false false fuel
    flowPairValue fuel

/-- The value of a single pair between brackets, and the end of the pair. -/
def flowPairValue : Nat → Read Unit
  | 0 => fault
  | fuel + 1 => do
    match (← peek).item with
    | .value =>
      advance
      match (← peek).item with
      | .flowEntry | .flowSequenceEnd => pushEmpty (← peek).start
      | _ => node false false fuel
    | _ => pushEmpty (← peek).start
    push .mappingEnd (← peek).start

/-- The pairs between braces; a pair may lack its value. -/
def flowPairs (first : Bool) : Nat → Read Unit
  | 0 => fault
  | fuel + 1 => do
    let finish : Read Unit := do
      push .mappingEnd (← peek).start
      advance
    let pair : Read Unit := do
      match (← peek).item with
      | .key =>
        advance
        match (← peek).item with
        | .value | .flowEntry | .flowMappingEnd => pushEmpty (← peek).start
        | _ => node false false fuel
        flowValue fuel
      | .flowMappingEnd => finish
      | _ =>
        node false false fuel
        pushEmpty (← peek).start
        flowPairs false fuel
    match (← peek).item with
    | .flowMappingEnd => finish
    | .flowEntry => if first then pair else do advance; pair
    | _ => if first then pair else fault

/-- The value of a pair between braces, and the pairs after it. -/
def flowValue : Nat → Read Unit
  | 0 => fault
  | fuel + 1 => do
    match (← peek).item with
    | .value =>
      advance
      match (← peek).item with
      | .flowEntry | .flowMappingEnd => pushEmpty (← peek).start
      | _ => node false false fuel
    | _ => pushEmpty (← peek).start
    flowPairs false fuel

end

/-- The directives before a document. Of each kind of directive there may be one, of tag directives one
for a handle; the two usual handles have their usual texts unless directives say otherwise. -/
def directives : Nat → Bool → List (String × Tag) → Read (List (String × Tag))
  | 0, _, _ => fault
  | fuel + 1, versioned, handles => do
    match (← peek).item with
    | .versionDirective major minor =>
      if versioned || major ≠ 1 || (minor ≠ 1 && minor ≠ 2) then fault
      else do
        advance
        directives fuel true handles
    | .tagDirective handle lead =>
      if (handles.lookup handle).isSome then fault
      else do
        advance
        directives fuel versioned (handles ++ [(handle, lead)])
    | _ => pure (handles ++ [("!", .ofText "!"), ("!!", .ofText "tag:yaml.org,2002:")])

/-- The first document. The answer tells whether there is one. -/
def document (fuel : Nat) : Read Bool := do
  match (← peek).item with
  | .streamEnd => pure false
  | first =>
    let explicit := match first with
      | .versionDirective .. | .tagDirective .. | .documentStart => true
      | _ => false
    let handles ← directives fuel false []
    fun r => (some (), { r with handles })
    if explicit then
      match (← peek).item with
      | .documentStart => advance
      | _ => fault
      match (← peek).item with
      | .versionDirective .. | .tagDirective .. | .documentStart | .documentEnd | .streamEnd =>
        pushEmpty (← peek).start
      | _ => node true false fuel
    else node true false fuel
    let _ ← peek
    pure true

end Reader

namespace Document

/-- The part that an alias repeats, with its place. -/
def target? (doc : Document) (number : Nat) : Option (Part × Mark) :=
  (doc.numbered.find? number).bind (doc.parts[·]?)

/-- The part at a position, or the one that it repeats, with its place. -/
def resolved? (doc : Document) (position : Nat) : Option (Part × Mark) :=
  match doc.parts[position]? with
  | some (.alias number, _) => doc.target? number
  | part? => part?

/-- The position after the nodes that begin at a position, inside of `depth` collections. -/
def skipNodes? (doc : Document) : Nat → Nat → Nat → Option Nat
  | 0, _, _ => none
  | fuel + 1, depth, position => do
    let (part, _) ← doc.parts[position]?
    let depth := match part with
      | .sequenceStart _ | .mappingStart _ => depth + 1
      | .sequenceEnd | .mappingEnd => depth - 1
      | _ => depth
    if depth = 0 then some (position + 1) else skipNodes? doc fuel depth (position + 1)

def afterNode? (doc : Document) (position : Nat) : Option Nat :=
  doc.skipNodes? (doc.parts.size + 1) 0 position

end Document

def Document.read (text : String) : Document :=
  let tokens := Yaml.tokens text
  let (result, r) := Reader.document (4 * tokens.length + 8) { tokens }
  let after := r.tokens.dropWhile (·.item = .documentEnd)
  { present := result ≠ some false
    parts := r.parts
    numbered := r.numbered
    broken := result.isNone
    followed := result = some true && (after.head?.map (·.item)) ≠ some .streamEnd }

end ActionDispatch.Yaml
