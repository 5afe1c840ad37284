-- What can be wrong with a document. A complaint belongs to a stage of reading,
-- names a problem at a place, and may say what was going on and since where.
-- Beside complaints, bytes that are no UTF-8 and scalars out of range end a
-- reading too.
import QuerySieve.Text.Quoted
import QuerySieve.Text.Utf8
import QuerySieve.Yaml.Mark

namespace QuerySieve.Yaml

/-! ## Stages -/

/-- The stage of reading that complains. -/
inductive Stage
  /-- Taking in the code points. -/
  | intake
  /-- Cutting them into tokens. -/
  | tokens
  /-- Fitting the tokens together. -/
  | structure_
  /-- Resolving anchors and aliases. -/
  | references
  /-- Building values. -/
  | values
  deriving DecidableEq, Repr

def Stage.kind : Stage → Text
  | .intake => "ReaderError"
  | .tokens => "ScannerError"
  | .structure_ => "ParserError"
  | .references => "ComposerError"
  | .values => "ConstructorError"

/-! ## What was going on -/

inductive Activity
  | seekingToken
  | simpleKey
  | directive
  /-- The address or prefix in a directive. -/
  | directiveAddress
  | anchor
  | alias
  | tag
  /-- The address in a tag. -/
  | tagAddress
  | blockScalar
  | doubleQuoted
  | quoted
  | node
  | blockNode
  | flowNode
  | blockCollection
  | blockMapping
  | flowSequence
  | flowMapping
  /-- A second document follows the first. -/
  | oneDocument
  /-- An anchor that was set before. -/
  | anchorBefore (name : Text)
  | buildingMapping
  | orderedMap
  | pairs
  deriving DecidableEq, Repr

def Activity.message : Activity → Text
  | .seekingToken => "while scanning for the next token"
  | .simpleKey => "while scanning a simple key"
  | .directive => "while scanning a directive"
  | .directiveAddress => "while parsing a directive"
  | .anchor => "while scanning an anchor"
  | .alias => "while scanning an alias"
  | .tag => "while scanning a tag"
  | .tagAddress => "while parsing a tag"
  | .blockScalar => "while scanning a block scalar"
  | .doubleQuoted => "while scanning a double-quoted scalar"
  | .quoted => "while scanning a quoted scalar"
  | .node => "while parsing a node"
  | .blockNode => "while parsing a block node"
  | .flowNode => "while parsing a flow node"
  | .blockCollection => "while parsing a block collection"
  | .blockMapping => "while parsing a block mapping"
  | .flowSequence => "while parsing a flow sequence"
  | .flowMapping => "while parsing a flow mapping"
  | .oneDocument => "expected a single document in the stream"
  | .anchorBefore name => "found duplicate anchor " ++ Text.quoted name ++ "; first occurrence"
  | .buildingMapping => "while constructing a mapping"
  | .orderedMap => "while constructing an ordered map"
  | .pairs => "while constructing pairs"

/-! ## Problems -/

/-- What a reader of tokens wanted to find. -/
inductive Wanted
  | nameCharacter
  | digit
  | digitOrPoint
  | digitOrBlank
  | blank
  | exclamation
  | tagEnd
  | address
  | addressEscape
  | lineEnd
  | blockIndicators
  | escape (digits : Nat)
  deriving DecidableEq, Repr

def Wanted.message : Wanted → Text
  | .nameCharacter => "alphabetic or numeric character"
  | .digit => "a digit"
  | .digitOrPoint => "a digit or '.'"
  | .digitOrBlank => "a digit or ' '"
  | .blank => "' '"
  | .exclamation => "'!'"
  | .tagEnd => "'>'"
  | .address => "URI"
  | .addressEscape => "URI escape sequence of 2 hexadecimal numbers"
  | .lineEnd => "a comment or a line break"
  | .blockIndicators => "chomping or indentation indicators"
  | .escape digits => "escape sequence of " ++ Text.ofNat digits ++ " hexadecimal numbers"

/-- The kinds of tokens as messages name them, and the places where each is out
of place. -/
inductive Misfit
  | documentStart
  | nodeContent
  | blockEnd
  | flowSequenceEnd
  | flowMappingEnd
  deriving DecidableEq, Repr

def Misfit.message : Misfit → Text
  | .documentStart => "expected '<document start>', but found "
  | .nodeContent => "expected the node content, but found "
  | .blockEnd => "expected <block end>, but found "
  | .flowSequenceEnd => "expected ',' or ']', but got "
  | .flowMappingEnd => "expected ',' or '\x7d', but got "

inductive Problem
  /-- A code point that no document holds. -/
  | unacceptable (c : CodePoint)
  | unstartable (c : CodePoint)
  | noColon
  | wanted (w : Wanted) (found : CodePoint)
  | entryHere
  | keyHere
  | valueHere
  | zeroIndentation
  | addressNotUtf8 (e : Undecodable)
  | unknownEscape (c : CodePoint)
  | endOfStream
  | documentSeparator
  /-- A token that does not fit, as messages name it. -/
  | misfit (m : Misfit) (token : Text)
  | versionTwice
  | wrongVersion
  | handleTwice (handle : Text)
  | unknownHandle (handle : Text)
  | undefinedAlias (name : Text)
  | secondDocument
  | secondAnchor
  | recursiveNode
  | unhashableKey
  | noReading (tag : Text)
  | mergeSource (found : Text)
  | mergeItem (found : Text)
  /-- A tag asks for another kind of node. -/
  | nodeKind (sought found : Text)
  /-- An ordered map, or a list of pairs, is no list. -/
  | notList (found : Text)
  /-- An item of an ordered map is no mapping. -/
  | notPair (found : Text)
  /-- An item of an ordered map does not have exactly one pair. -/
  | pairCount (count : Nat)
  | notAscii (e : Unencodable)
  | base64Padding
  /-- Base 64 ends in a single digit; how many there are. -/
  | base64Single (digits : Nat)
  deriving DecidableEq, Repr

/-- The end of a document shows as a zero. -/
def shownPoint (c : CodePoint) : Text := Text.quoted [c]

/-- What is said of code points that are no ASCII. -/
def asciiMessage (e : Unencodable) : Text :=
  let place : Text :=
    if e.stop = e.start + 1 then
      "character '" ++ e.head.numbered ++ "' in position " ++ Text.ofNat e.start
    else "characters in position " ++ Text.ofNat e.start ++ "-" ++ Text.ofNat (e.stop - 1)
  "'ascii' codec can't encode " ++ place ++ ": ordinal not in range(128)"

def Problem.message : Problem → Text
  | .unacceptable c =>
    "unacceptable character #x" ++ hexDigits 4 c.val
      ++ ": special characters are not allowed"
  | .unstartable c => "found character " ++ shownPoint c ++ " that cannot start any token"
  | .noColon => "could not find expected ':'"
  | .wanted w found => "expected " ++ w.message ++ ", but found " ++ shownPoint found
  | .entryHere => "sequence entries are not allowed here"
  | .keyHere => "mapping keys are not allowed here"
  | .valueHere => "mapping values are not allowed here"
  | .zeroIndentation => "expected indentation indicator in the range 1-9, but found 0"
  | .addressNotUtf8 e => e.message
  | .unknownEscape c => "found unknown escape character " ++ shownPoint c
  | .endOfStream => "found unexpected end of stream"
  | .documentSeparator => "found unexpected document separator"
  | .misfit m token => m.message ++ Text.quoted token
  | .versionTwice => "found duplicate YAML directive"
  | .wrongVersion => "found incompatible YAML document (version 1.* is required)"
  | .handleTwice handle => "duplicate tag handle " ++ Text.quoted handle
  | .unknownHandle handle => "found undefined tag handle " ++ Text.quoted handle
  | .undefinedAlias name => "found undefined alias " ++ Text.quoted name
  | .secondDocument => "but found another document"
  | .secondAnchor => "second occurrence"
  | .recursiveNode => "found unconstructable recursive node"
  | .unhashableKey => "found unhashable key"
  | .noReading tag => "could not determine a constructor for the tag " ++ Text.quoted tag
  | .mergeSource found => "expected a mapping or list of mappings for merging, but found " ++ found
  | .mergeItem found => "expected a mapping for merging, but found " ++ found
  | .nodeKind sought found => "expected a " ++ sought ++ " node, but found " ++ found
  | .notList found => "expected a sequence, but found " ++ found
  | .notPair found => "expected a mapping of length 1, but found " ++ found
  | .pairCount count => "expected a single mapping item, but found " ++ Text.ofNat count ++ " items"
  | .notAscii e => "failed to convert base64 data into ascii: " ++ asciiMessage e
  | .base64Padding => "failed to decode base64 data: Incorrect padding"
  | .base64Single digits =>
    "failed to decode base64 data: Invalid base64-encoded string: number of data characters ("
      ++ Text.ofNat digits ++ ") cannot be 1 more than a multiple of 4"

/-! ## Complaints -/

structure Complaint where
  stage : Stage
  /-- What was going on, and since where. -/
  during : Option (Activity × Option Mark) := none
  problem : Problem
  mark : Mark
  deriving DecidableEq, Repr

/-- The lines about what was going on. The place is left out where the problem
has the same one. -/
def Complaint.background (source : Source) (c : Complaint) : List Text :=
  match c.during with
  | none => []
  | some (activity, none) => [activity.message]
  | some (activity, some since) =>
    if since.sameSpot c.mark then [activity.message]
    else [activity.message, since.shown source]

def Complaint.message (source : Source) (c : Complaint) : Text :=
  if c.stage = .intake then
    c.problem.message ++ "\n  in \"" ++ source.name ++ "\", position " ++ Text.ofNat c.mark.index
  else
    Text.join "\n" (c.background source ++ [c.problem.message, c.mark.shown source])

/-! ## Scalars out of range -/

/-- What can be wrong with a scalar, beside its form. -/
inductive ScalarFault
  /-- An escape names a number past the last code point. -/
  | escapeRange
  /-- An escape names a number past a machine word. -/
  | escapeTooLarge
  | tooManyDigits (digits : Nat)
  /-- A number without digits of its base. -/
  | notWhole (base : Nat) (text : Text)
  | notReal (text : Text)
  /-- A number without any code point. -/
  | noDigits
  | notBool (text : Text)
  | notTimestamp
  | yearRange (year : Nat)
  | monthRange
  | dayRange
  | hourRange
  | minuteRange
  | secondRange
  /-- An offset of a day or more, in minutes. -/
  | offsetRange (minutes : Int)
  deriving DecidableEq, Repr

def ScalarFault.kind : ScalarFault → Text
  | .escapeTooLarge => "OverflowError"
  | .noDigits => "IndexError"
  | .notBool _ => "KeyError"
  | .notTimestamp => "AttributeError"
  | _ => "ValueError"

/-- A span of minutes in days and in seconds of a day. -/
def shownSpan (minutes : Int) : Text :=
  let days := minutes.fdiv 1440
  let seconds := minutes.fmod 1440 * 60
  let parts : List Text :=
    (if days = 0 then [] else [Text.ofString "days=" ++ Text.ofInt days])
      ++ (if seconds = 0 then [] else [Text.ofString "seconds=" ++ Text.ofInt seconds])
  "datetime.timedelta(" ++ Text.join ", " parts ++ ")"

def ScalarFault.message : ScalarFault → Text
  | .escapeRange => "chr() arg not in range(0x110000)"
  | .escapeTooLarge => "Python int too large to convert to C int"
  | .tooManyDigits digits =>
    "Exceeds the limit (4300 digits) for integer string conversion: value has "
      ++ Text.ofNat digits ++ " digits; use sys.set_int_max_str_digits() to increase the limit"
  | .notWhole base text =>
    "invalid literal for int() with base " ++ Text.ofNat base ++ ": " ++ Text.quoted text
  | .notReal text => "could not convert string to float: " ++ Text.quoted text
  | .noDigits => "string index out of range"
  | .notBool text => Text.quoted text
  | .notTimestamp => "'NoneType' object has no attribute 'groupdict'"
  | .yearRange year => "year " ++ Text.ofNat year ++ " is out of range"
  | .monthRange => "month must be in 1..12"
  | .dayRange => "day is out of range for month"
  | .hourRange => "hour must be in 0..23"
  | .minuteRange => "minute must be in 0..59"
  | .secondRange => "second must be in 0..59"
  | .offsetRange minutes =>
    "offset must be a timedelta strictly between -timedelta(hours=24) and timedelta(hours=24), not "
      ++ shownSpan minutes ++ "."

/-! ## Faults -/

/-- What ends a reading. -/
inductive Fault
  | complaint (c : Complaint)
  | undecodable (e : Undecodable)
  | scalar (f : ScalarFault)
  deriving DecidableEq, Repr

end QuerySieve.Yaml
