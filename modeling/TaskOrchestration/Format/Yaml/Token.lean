/-!
# YAML tokens

What a YAML document is made of once its characters are read: marks, names and scalars. Where blocks
start and end, which the text shows by indentation only, is a token of its own, and so is each key.
-/

namespace TaskOrchestration.Yaml

/-- A token. -/
inductive Token
  /-- A directive that names the version of the format. -/
  | version
  /-- A directive that gives a tag handle its address. -/
  | tagHandle (handle address : String)
  | documentStart
  | documentEnd
  | sequenceStart
  | mappingStart
  | blockEnd
  /-- The mark of an item of a sequence. -/
  | item
  | flowSequenceStart
  | flowSequenceEnd
  | flowMappingStart
  | flowMappingEnd
  /-- The mark between two entries in flow form. -/
  | entry
  /-- A key follows. -/
  | key
  /-- The value of a key follows. -/
  | value
  /-- The node of an anchor once more. -/
  | reference (name : String)
  | anchor (name : String)
  | tag (handle suffix : String)
  /-- A text, plain or not. -/
  | scalar (isPlain : Bool) (text : List Char)
  deriving DecidableEq, Repr

end TaskOrchestration.Yaml
