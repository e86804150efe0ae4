import ParamBinding.Content.Yaml.Problem

/-!
# Tokens

A document is a list of tokens. Some stand for characters of the text; others for the indentation
of its lines, which begins and ends blocks. Where the text cannot be cut into further tokens, the
last one says why.
-/

namespace ParamBinding.Yaml

/-- A token. -/
inductive Token where
  /-- The version of the language that a document asks for. -/
  | version (major : Nat)
  /-- A handle for tags, and what it stands for. -/
  | handle (name expansion : String)
  /-- A directive without a meaning. -/
  | reserved
  | documentStart
  | documentEnd
  | streamEnd
  | blockSequence
  | blockMapping
  | blockEnd
  | flowSequence
  | flowSequenceEnd
  | flowMapping
  | flowMappingEnd
  /-- The hyphen in front of an element. -/
  | blockEntry
  /-- The comma between elements. -/
  | flowEntry
  | key
  | value
  | alias (name : String)
  | anchor (name : String)
  /-- A tag: its handle, if it has one, and the rest of it. -/
  | tag (handle : Option String) (suffix : String)
  | scalar (text : String) (isPlain : Bool)
  /-- The place from which on there are no tokens. -/
  | broken (p : Problem)
  deriving DecidableEq, Repr

namespace Token

/-- Whether a token is a directive. -/
def isDirective : Token → Bool
  | version _ | handle _ _ | reserved => true
  | _ => false

/-- Whether no content of a document begins with a token. -/
def endsContent (t : Token) : Bool :=
  t.isDirective || t = documentStart || t = documentEnd || t = streamEnd

end Token

end ParamBinding.Yaml
