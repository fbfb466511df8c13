import ActionDispatch.Error
import ActionDispatch.Settings.Draft
import ActionDispatch.Text.Blank
import ActionDispatch.Text.Quoted
import ActionDispatch.Yaml.Meaning

/-!
# Settings documents

A settings document is a YAML mapping from setting names to words; an empty document gives the defaults.
A value may also be written as a tag, as in `rollback: !stop_on_failure`. The document is read from the
front, so a fault in its text counts only if no pair before it is refused.
-/

namespace ActionDispatch

open Yaml

inductive DocumentCause
  | duplicate (setting : Setting)
  | unknownWord (setting : Setting) (word : String)
  | wrongType (found : Meaning) (expected : String)
  | collection (mapping : Bool) (expected : String)
  | wrongValue (text : String) (expected : String)

/-- Where a document is at fault: the key whose value is concerned, unless it is the document itself,
and the place. -/
structure DocumentPlace where
  path : Option String := none
  mark : Mark

inductive DocumentFault
  | malformed
  | severalDocuments
  /-- The content is wrong, at a place if there is one to tell. -/
  | content (cause : DocumentCause) (place : Option DocumentPlace := none)

namespace DocumentFault

def describe : Meaning → String
  | .nothing => "unit value"
  | .truth b => "boolean \x60" ++ toString b ++ "\x60"
  | .integer n => "integer \x60" ++ toString n ++ "\x60"
  | .wideInteger n signed =>
    "integer \x60" ++ toString n ++ "\x60 as " ++ (if signed then "i128" else "u128")
  | .decimal t => "floating point \x60" ++ t ++ "\x60"
  | .text s => "string " ++ Text.quote s

def causeMessage : DocumentCause → String
  | .duplicate setting => "duplicate field \x60" ++ setting.key ++ "\x60"
  | .unknownWord setting word =>
    "unknown variant \x60" ++ word ++ "\x60, expected \x60" ++ setting.words.1 ++ "\x60 or \x60" ++
      setting.words.2 ++ "\x60"
  | .wrongType found expected => "invalid type: " ++ describe found ++ ", expected " ++ expected
  | .collection mapping expected =>
    "invalid type: " ++ (if mapping then "map" else "sequence") ++ ", expected " ++ expected
  | .wrongValue text expected =>
    "invalid value: string " ++ Text.quote text ++ ", expected " ++ expected

/-- The text of a fault. The very beginning of a document is no place worth telling. -/
def message : DocumentFault → String
  | .malformed => "<syntax>"
  | .severalDocuments =>
    "deserializing from YAML containing more than one document is not supported"
  | .content cause none => causeMessage cause
  | .content cause (some place) =>
    (place.path.map (· ++ ": ")).getD "" ++ causeMessage cause ++
      (if place.mark.line = 0 ∧ place.mark.column = 0 then ""
       else
        " at line " ++ toString (place.mark.line + 1) ++ " column " ++
          toString (place.mark.column + 1))

/-- The fault with a place for wrong content, unless it has one already. -/
def orAt (place : DocumentPlace) : DocumentFault → DocumentFault
  | .content cause none => .content cause (some place)
  | fault => fault

end DocumentFault

/-- Past the last part there is only a fault of the text. -/
def orMalformed {α : Type} : Option α → Except DocumentFault α
  | some a => .ok a
  | none => .error .malformed

namespace SettingsDocument

variable (doc : Yaml.Document)

/-- The name that a tag of its own gives, without its exclamation mark unless that is all. -/
def ownTag? (tag : Option Tag) : Option String :=
  (tag.bind Tag.text?).bind fun t =>
    match t.toList with
    | '!' :: [] => some t
    | '!' :: name => some (String.ofList name)
    | _ => none

/-- The draft with the value of a node. The word is the text of a scalar, or the name of a tag on a node
without content; a word that such a name is not gets no place. -/
def enterNode (draft : Draft) (setting : Setting) (part : Part) (place : DocumentPlace) :
    Except DocumentFault Draft :=
  let fill (word : String) : Except DocumentFault Draft :=
    match draft.fill? setting word with
    | some draft => .ok draft
    | none => .error (.content (.unknownWord setting word))
  let tagged (tag : Option Tag) (untagged : Except DocumentFault Draft)
      (content : Option DocumentCause) : Except DocumentFault Draft :=
    match ownTag? tag with
    | none => untagged.mapError (·.orAt place)
    | some name => do
      let draft ← fill name
      match content with
      | none => pure draft
      | some cause => throw (.content cause place)
  let form (mapping : Bool) : Except DocumentFault Draft :=
    throw (.content (.collection mapping "a YAML tag starting with '!'"))
  match part with
  | .scalar text style tag =>
    let nothing := style = .plain && (text.isEmpty || isNothingWord text)
    tagged tag (fill text) (if nothing then none else some (.wrongValue text "null"))
  | .sequenceStart tag => tagged tag (form false) (some (.collection false "unit"))
  | .mappingStart tag => tagged tag (form true) (some (.collection true "unit"))
  | _ => throw .malformed

/-- The draft with the value at a position, which is found under `path`. What has no place in the node
that an alias repeats is at fault where the alias stands. -/
def enterValue (draft : Draft) (setting : Setting) (path : String) (position : Nat) :
    Except DocumentFault Draft := do
  let (part, mark) ← orMalformed doc.parts[position]?
  match part with
  | .alias number =>
    let (part, origin) ← orMalformed (doc.target? number)
    (enterNode draft setting part ⟨some path, origin⟩).mapError (·.orAt ⟨some path, mark⟩)
  | _ => enterNode draft setting part ⟨some path, mark⟩

def keyText (position : Nat) : Except DocumentFault String := do
  let (part, mark) ← orMalformed (doc.resolved? position)
  let refuse (mapping : Bool) : Except DocumentFault String :=
    throw (.content (.collection mapping "field identifier") (some ⟨none, mark⟩))
  match part with
  | .scalar text _ _ => pure text
  | .sequenceStart _ => refuse false
  | .mappingStart _ => refuse true
  | _ => throw .malformed

/-- The draft after the pairs from a position on. A key that repeats another node gives no path. -/
def enterPairs : Nat → Nat → Draft → Except DocumentFault Draft
  | 0, _, _ => .error .malformed
  | fuel + 1, position, draft => do
    match (← orMalformed doc.parts[position]?).1 with
    | .mappingEnd => pure draft
    | part =>
      let text ← keyText doc position
      let path := match part with
        | .scalar .. => text
        | _ => "?"
      let next := position + 1
      let draft ← draft.accept text (fun setting => .content (.duplicate setting))
        fun setting => enterValue doc draft setting path next
      enterPairs fuel (← orMalformed (doc.afterNode? next)) draft

def draft : Except DocumentFault Draft := do
  let (part, mark) ← orMalformed doc.parts[0]?
  let here (result : Except DocumentFault Draft) := result.mapError (·.orAt ⟨none, mark⟩)
  let refuse (cause : DocumentCause) := here (throw (.content cause))
  let expected := "struct DispatchConfig"
  match part with
  | .mappingStart _ => here (enterPairs doc (doc.parts.size + 1) 1 {})
  | .sequenceStart _ => refuse (.collection false expected)
  | .scalar text style tag =>
    if text.isEmpty && style = .plain then pure {}
    else
      match Meaning.ofScalar text style tag with
      | .ok meaning => refuse (.wrongType meaning expected)
      | .error kind => refuse (.wrongValue text kind)
  | _ => throw .malformed

def settings : Except DocumentFault Settings :=
  if doc.present then do
    let draft ← draft doc
    if doc.broken then throw .malformed
    else if doc.followed then throw .severalDocuments
    else pure draft.finish
  else pure {}

end SettingsDocument

/-- The settings that a text gives when documents are read like this. -/
def Settings.ofTextBy (read : String → Yaml.Document) (text : String) : Answer Settings :=
  if Text.allBlank text then .ok {}
  else
    match SettingsDocument.settings (read text) with
    | .ok settings => .ok settings
    | .error fault => .error (.config ("Invalid YAML: " ++ fault.message))

def Settings.ofText : String → Answer Settings := Settings.ofTextBy Yaml.Document.read

end ActionDispatch
