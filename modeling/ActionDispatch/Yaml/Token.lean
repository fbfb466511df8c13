import ActionDispatch.Yaml.Cursor

/-!
# Tokens of a document
-/

namespace ActionDispatch.Yaml

inductive ScalarStyle
  | plain | singleQuoted | doubleQuoted | literal | folded
  deriving DecidableEq

/-- A tag or a part of one. It is kept in octets, since escapes can give octets that are no text. -/
structure Tag where
  octets : List UInt8
  deriving DecidableEq

namespace Tag

/-- The tag that octets give: a zero among them ends it. -/
def ofOctets (octets : List UInt8) : Tag := ⟨octets.takeWhile (· ≠ 0)⟩

def ofText (text : String) : Tag := ⟨text.toUTF8.toList⟩

/-- The tag as a text, if its octets are one. -/
def text? (tag : Tag) : Option String := String.fromUTF8? ⟨tag.octets.toArray⟩

def append (lead suffix : Tag) : Tag := ⟨lead.octets ++ suffix.octets⟩

/-- Whether the tag starts with an exclamation mark, so that it has no meaning outside of its document. -/
def isLocal (tag : Tag) : Bool := tag.octets.head? = some 0x21

end Tag

inductive Token
  | streamEnd
  | versionDirective (major minor : Nat)
  | tagDirective (handle : String) (lead : Tag)
  | documentStart
  | documentEnd
  | blockSequenceStart
  | blockMappingStart
  | blockEnd
  | flowSequenceStart
  | flowSequenceEnd
  | flowMappingStart
  | flowMappingEnd
  | blockEntry
  | flowEntry
  | key
  | value
  | alias (name : String)
  | anchor (name : String)
  | tag (handle : String) (suffix : Tag)
  | scalar (text : String) (style : ScalarStyle)
  deriving DecidableEq

structure Placed (α : Type) where
  item : α
  start : Mark
  stop : Mark

end ActionDispatch.Yaml
