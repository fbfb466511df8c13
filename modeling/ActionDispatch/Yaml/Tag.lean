import ActionDispatch.Text.Hex
import ActionDispatch.Yaml.Token

/-!
# Tags, anchors and directives

`none` means that the property or directive is malformed.
-/

namespace ActionDispatch.Yaml

/-- A character of a tag other than an escape. The three flow indicators may stand only between angle
brackets and in directives. -/
def isTagChar (verbatim : Bool) (c : Char) : Bool :=
  isNameChar c || ";/?:@&=+$.!~*'()".toList.contains c || (verbatim && ",[]".toList.contains c)

def octet? : List Char → Option (UInt8 × List Char)
  | '%' :: a :: b :: rest => (Text.hexNumber? [a, b]).map (·.toUInt8, rest)
  | _ => none

/-- Further octets of a character. Each starts with the bits `10`. -/
def moreOctets : Nat → List Char → Option (List UInt8 × List Char)
  | 0, cs => some ([], cs)
  | count + 1, cs => do
    let (o, rest) ← octet? cs
    let (more, rest) ← if o / 64 = 2 then moreOctets count rest else none
    some (o :: more, rest)

/-- The escaped octets of one character, of which the first tells the number. Whether they are the
encoding of a character is not asked. -/
def escapedOctets? (cs : List Char) : Option (List UInt8 × List Char) := do
  let (o, rest) ← octet? cs
  let count ←
    if o < 0x80 then some 0
    else if o / 32 = 6 then some 1
    else if o / 16 = 14 then some 2
    else if o / 8 = 30 then some 3
    else none
  let (more, rest) ← moreOctets count rest
  some (o :: more, rest)

/-- The octets of a tag, with escapes resolved. -/
def tagOctets (verbatim : Bool) : Nat → List UInt8 → Cursor → Option (List UInt8 × Cursor)
  | 0, octets, c => some (octets, c)
  | fuel + 1, octets, c =>
    match c.peek? with
    | some '%' => do
      let (more, rest) ← escapedOctets? c.rest
      tagOctets verbatim fuel (octets ++ more) (c.skip (c.rest.length - rest.length))
    | some d =>
      if isTagChar verbatim d then
        tagOctets verbatim fuel (octets ++ [d.toNat.toUInt8]) (c.skip 1)
      else some (octets, c)
    | none => some (octets, c)

/-- The handle of a tag: an exclamation mark, or a name between two. -/
def tagHandle (inDirective : Bool) (c : Cursor) : Option (List Char × Cursor) :=
  if !c.sees (· == '!') then none
  else
    let (name, c) := (c.skip 1).takeWhile isNameChar
    if c.sees (· == '!') then some ('!' :: name ++ ['!'], c.skip 1)
    else if inDirective && !name.isEmpty then none
    else some ('!' :: name, c)

def tagEnds (inFlow : Bool) (c : Cursor) : Bool :=
  wordEnds c.rest || (inFlow && c.sees (· == ','))

/-- A tag as its handle and its suffix. A suffix must be there; a lone exclamation mark is one. -/
def tagToken (inFlow : Bool) (c : Cursor) : Option (Token × Cursor) := do
  let fuel := c.rest.length + 1
  let (handle, suffix, c) ←
    if c.rest[1]? = some '<' then do
      let (suffix, c) ← tagOctets true fuel [] (c.skip 2)
      if suffix.isEmpty || !c.sees (· == '>') then none
      else some ([], Tag.ofOctets suffix, c.skip 1)
    else do
      let (handle, c) ← tagHandle false c
      if handle.length > 1 && handle.getLast? = some '!' then do
        let (suffix, c) ← tagOctets false fuel [] c
        if suffix.isEmpty then none else some (handle, Tag.ofOctets suffix, c)
      else do
        let name := (handle.drop 1).map (·.toNat.toUInt8)
        let (suffix, c) ← tagOctets false fuel name c
        let suffix := Tag.ofOctets suffix
        if suffix.octets.isEmpty then some ([], Tag.ofText "!", c) else some (['!'], suffix, c)
  if tagEnds inFlow c then some (.tag (String.ofList handle) suffix, c) else none

def anchorName (c : Cursor) : Option (String × Cursor) :=
  let (name, c) := (c.skip 1).takeWhile isNameChar
  if !name.isEmpty && (wordEnds c.rest || c.sees ("?:,]\x7d%@\x60".toList.contains ·)) then
    some (String.ofList name, c)
  else none

/-- A number of at most nine digits in a version. -/
def versionNumber (c : Cursor) : Option (Nat × Cursor) :=
  let (digits, c) := c.takeWhile Char.isDigit
  if digits.isEmpty || digits.length > 9 then none
  else some (digits.foldl (fun n d => 10 * n + (d.toNat - 48)) 0, c)

def directive (c : Cursor) : Option (Token × Cursor) := do
  let (name, c) := (c.skip 1).takeWhile isNameChar
  if name.isEmpty || !wordEnds c.rest then none
  else
    let c := c.skipWhile isBlank
    let (token, c) ←
      if name = "YAML".toList then do
        let (major, c) ← versionNumber c
        if !c.sees (· == '.') then none
        else
          let (minor, c) ← versionNumber (c.skip 1)
          some (Token.versionDirective major minor, c)
      else if name = "TAG".toList then do
        let (handle, c) ← tagHandle true c
        if !c.sees isBlank then none
        else
          let (lead, c) ← tagOctets true (c.rest.length + 1) [] (c.skipWhile isBlank)
          if lead.isEmpty || !wordEnds c.rest then none
          else some (.tagDirective (String.ofList handle) (Tag.ofOctets lead), c)
      else none
    let c := c.skipWhile isBlank
    let c := if c.sees (· == '#') then c.skipLine else c
    if lineEnds c.rest then some (token, c.takeBreak.2) else none

end ActionDispatch.Yaml
