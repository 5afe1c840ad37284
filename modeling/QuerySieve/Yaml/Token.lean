-- Tokens of a document: the smallest parts that have a meaning, each with the
-- places where it starts and stops.
import QuerySieve.Yaml.Mark

namespace QuerySieve.Yaml

/-! ## Parts of tokens -/

/-- A tag as it is written: a handle that a prefix stands for, and the rest. -/
structure RawTag where
  handle : Option Text
  suffix : Text
  deriving DecidableEq, Repr

inductive Directive
  | version (major minor : Nat)
  | tag (handle lead : Text)
  | other (name : Text)
  deriving DecidableEq, Repr

/-! ## Tokens -/

namespace Token

inductive Kind
  | directive (d : Directive)
  | documentStart
  | documentEnd
  | streamEnd
  | blockSequenceStart
  | blockMappingStart
  | blockEnd
  | flowSequenceStart
  | flowSequenceEnd
  | flowMappingStart
  | flowMappingEnd
  | flowEntry
  | blockEntry
  | key
  | value
  | alias (name : Text)
  | anchor (name : Text)
  | tag (t : RawTag)
  /-- A plain scalar stands without quotes on its own line or lines. -/
  | scalar (text : Text) (plain : Bool)
  deriving DecidableEq, Repr

/-- A kind as messages name it. -/
def Kind.shown : Kind → Text
  | .directive _ => "<directive>"
  | .documentStart => "<document start>"
  | .documentEnd => "<document end>"
  | .streamEnd => "<stream end>"
  | .blockSequenceStart => "<block sequence start>"
  | .blockMappingStart => "<block mapping start>"
  | .blockEnd => "<block end>"
  | .flowSequenceStart => "["
  | .flowSequenceEnd => "]"
  | .flowMappingStart => "\x7b"
  | .flowMappingEnd => "\x7d"
  | .flowEntry => ","
  | .blockEntry => "-"
  | .key => "?"
  | .value => ":"
  | .alias _ => "<alias>"
  | .anchor _ => "<anchor>"
  | .tag _ => "<tag>"
  | .scalar _ _ => "<scalar>"

end Token

structure Token where
  kind : Token.Kind
  start : Mark
  stop : Mark
  deriving DecidableEq, Repr

end QuerySieve.Yaml
