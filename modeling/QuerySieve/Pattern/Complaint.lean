-- What can be wrong with a pattern. A complaint names a cause and mostly a place
-- in the pattern; when the pattern has several lines, the place is also told by
-- line and column.
import QuerySieve.Text.Quoted

namespace QuerySieve.Pattern

/-! ## Causes -/

/-- What can be wrong with the text of a pattern. Parts of the pattern that a
complaint repeats are kept byte for byte, each byte as a code point. -/
inductive Cause
  | danglingEscape
  | badEscape (escape : Text)
  | incompleteEscape (escape : Text)
  | octalTooLarge (escape : Text)
  | openGroup
  | groupInLookbehind
  | noSuchGroup (index : Nat)
  | unterminatedSet
  | badRange (first last : Text)
  | countsReversed
  | nothingToRepeat
  | repeatedRepeat
  | endOfPattern
  | missingGroupName
  | unterminatedName (terminator : Text)
  | badGroupName (name : Text)
  | unknownGroupName (name : Text)
  | groupNameTaken (name : Text) (index before : Nat)
  | badGroupNumber
  | unknownExtension (text : Text)
  | unterminatedComment
  | unterminatedGroup
  | thirdBranch
  | optionsNotFirst
  | unicodeOption
  | letterKindsClash
  | unknownOption
  | missingOptionEnd
  | missingOption
  | missingColon
  | globalOptionOn
  | letterKindOff
  | globalOptionOff
  | optionOnAndOff
  | unbalanced
  | templateRepeat (greed : Text)
  | lookbehindTooFar
  | lookbehindNotFixed
  deriving DecidableEq, Repr

/-- Every code point above ASCII as a hexadecimal escape. -/
def asciiOnly (t : Text) : Text :=
  t.flatMap fun c => if c.val < 0x80 then [c] else "\\x" ++ hexDigits 2 c.val

def Cause.message : Cause → Text
  | .danglingEscape => "bad escape (end of pattern)"
  | .badEscape e => "bad escape " ++ asciiOnly e
  | .incompleteEscape e => "incomplete escape " ++ asciiOnly e
  | .octalTooLarge e => "octal escape value " ++ asciiOnly e ++ " outside of range 0-0o377"
  | .openGroup => "cannot refer to an open group"
  | .groupInLookbehind => "cannot refer to group defined in the same lookbehind subpattern"
  | .noSuchGroup n => "invalid group reference " ++ Text.ofNat n
  | .unterminatedSet => "unterminated character set"
  | .badRange a b => "bad character range " ++ asciiOnly a ++ "-" ++ asciiOnly b
  | .countsReversed => "min repeat greater than max repeat"
  | .nothingToRepeat => "nothing to repeat"
  | .repeatedRepeat => "multiple repeat"
  | .endOfPattern => "unexpected end of pattern"
  | .missingGroupName => "missing group name"
  | .unterminatedName t => "missing " ++ t ++ ", unterminated name"
  | .badGroupName n => "bad character in group name " ++ asciiOnly n.quoted
  | .unknownGroupName n => "unknown group name " ++ asciiOnly n.quoted
  | .groupNameTaken n i b =>
    "redefinition of group name " ++ asciiOnly n.quoted ++ " as group " ++ Text.ofNat i
      ++ "; was group " ++ Text.ofNat b
  | .badGroupNumber => "bad group number"
  | .unknownExtension t => "unknown extension " ++ asciiOnly t
  | .unterminatedComment => "missing ), unterminated comment"
  | .unterminatedGroup => "missing ), unterminated subpattern"
  | .thirdBranch => "conditional backref with more than two branches"
  | .optionsNotFirst => "global flags not at the start of the expression"
  | .unicodeOption => "bad inline flags: cannot use 'u' flag with a bytes pattern"
  | .letterKindsClash => "bad inline flags: flags 'a', 'u' and 'L' are incompatible"
  | .unknownOption => "unknown flag"
  | .missingOptionEnd => "missing -, : or )"
  | .missingOption => "missing flag"
  | .missingColon => "missing :"
  | .globalOptionOn => "bad inline flags: cannot turn on global flag"
  | .letterKindOff => "bad inline flags: cannot turn off flags 'a', 'u' and 'L'"
  | .globalOptionOff => "bad inline flags: cannot turn off global flag"
  | .optionOnAndOff => "bad inline flags: flag turned on and off"
  | .unbalanced => "unbalanced parenthesis"
  | .templateRepeat g => "internal: unsupported template operator " ++ g
  | .lookbehindTooFar => "looks too much behind"
  | .lookbehindNotFixed => "look-behind requires fixed-width pattern"

/-! ## Complaints -/

/-- Why a pattern does not compile. -/
inductive Complaint
  /-- The text is wrong, at a place if one is known. -/
  | malformed (cause : Cause) (place : Option Nat)
  /-- A count of repetitions is past every bound. -/
  | countTooLarge
  /-- A count has too many digits to be read. -/
  | countTooLong (digits : Nat)
  /-- The whole pattern asks for two kinds of letters. -/
  | letterKinds
  deriving DecidableEq, Repr

/-- The line and the column of a place, both from one. -/
def lineColumn (source : Bytes) (place : Nat) : Nat × Nat :=
  let before := source.take place
  (before.count 0x0A + 1, (before.reverse.takeWhile (· != 0x0A)).length + 1)

/-- What a complaint says about a pattern. -/
def Complaint.message (source : Bytes) : Complaint → Text
  | .malformed cause none => cause.message
  | .malformed cause (some place) =>
    let said := cause.message ++ " at position " ++ Text.ofNat place
    if source.contains 0x0A then
      let (line, column) := lineColumn source place
      said ++ " (line " ++ Text.ofNat line ++ ", column " ++ Text.ofNat column ++ ")"
    else said
  | .countTooLarge => "the repetition number is too large"
  | .countTooLong digits =>
    "Exceeds the limit (4300 digits) for integer string conversion: value has " ++ Text.ofNat digits
      ++ " digits; use sys.set_int_max_str_digits() to increase the limit"
  | .letterKinds => "ASCII and LOCALE flags are incompatible"

end QuerySieve.Pattern
