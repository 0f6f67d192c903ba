/-!
# Tokens of a document

## Main definitions

* `Yaml.Token` — what a document is made of, once indentation has been turned into brackets
-/

namespace GraphMapper.Yaml

/-- What a document is made of. -/
inductive Token where
  /-- The version that a document asks for, by its first number. -/
  | version (major : Nat)
  /-- The text that a handle of tags stands for. -/
  | tagHandle (handle uri : String)
  /-- A directive that is not known. -/
  | otherDirective
  /-- The mark at the start of a document. -/
  | documentStart
  /-- The mark at the end of a document. -/
  | documentEnd
  /-- The end of the text. -/
  | streamEnd
  /-- The start of an indented sequence. -/
  | blockSequence
  /-- The start of an indented mapping. -/
  | blockMapping
  /-- The end of an indented sequence or mapping. -/
  | blockEnd
  /-- An opening square bracket. -/
  | flowSequence
  /-- A closing square bracket. -/
  | flowSequenceEnd
  /-- An opening brace. -/
  | flowMapping
  /-- A closing brace. -/
  | flowMappingEnd
  /-- The hyphen before an item. -/
  | blockEntry
  /-- The comma between items. -/
  | flowEntry
  /-- The start of a key. -/
  | key
  /-- The start of a value. -/
  | value
  /-- A reference to a node. -/
  | reference (name : String)
  /-- The name of a node that can be referred to. -/
  | anchor (name : String)
  /-- The tag of a node: a suffix, behind a handle if there is one. -/
  | tag (handle : Option String) (suffix : String)
  /-- A text, which is plain if it stands without quotes. -/
  | scalar (plain : Bool) (text : String)
  deriving DecidableEq, Repr

end GraphMapper.Yaml
