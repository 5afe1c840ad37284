-- Patterns over bytes as trees. A pattern is a sequence of items; an item tests
-- one byte, asserts something about a place, remembers or compares a part of the
-- subject, or combines smaller sequences.
import QuerySieve.Text.Basic

namespace QuerySieve.Pattern

/-! ## Options -/

/-- The options that a pattern can be read and run under. -/
structure Options where
  ignoreCase : Bool := false
  /-- Letters follow the locale, which knows ASCII letters only. -/
  locale : Bool := false
  multiline : Bool := false
  dotAll : Bool := false
  verbose : Bool := false
  ascii : Bool := false
  /-- Refuses every repetition. -/
  template : Bool := false
  /-- Never granted to a pattern over bytes. -/
  unicode : Bool := false
  deriving DecidableEq, Repr

namespace Options

/-- Every option that either side has. -/
def union (a b : Options) : Options where
  ignoreCase := a.ignoreCase || b.ignoreCase
  locale := a.locale || b.locale
  multiline := a.multiline || b.multiline
  dotAll := a.dotAll || b.dotAll
  verbose := a.verbose || b.verbose
  ascii := a.ascii || b.ascii
  template := a.template || b.template
  unicode := a.unicode || b.unicode

/-- The options of the first that the second lacks. -/
def minus (a b : Options) : Options where
  ignoreCase := a.ignoreCase && !b.ignoreCase
  locale := a.locale && !b.locale
  multiline := a.multiline && !b.multiline
  dotAll := a.dotAll && !b.dotAll
  verbose := a.verbose && !b.verbose
  ascii := a.ascii && !b.ascii
  template := a.template && !b.template
  unicode := a.unicode && !b.unicode

/-- The options that say what a letter is: a pattern has at most one of them. -/
def letterKinds (o : Options) : Options :=
  { ascii := o.ascii, locale := o.locale, unicode := o.unicode }

/-- What holds inside a group that turns options on and off. A new kind of
letters takes the place of the old one. -/
def inner (outer on off : Options) : Options :=
  let base :=
    if on.letterKinds = {} then outer
    else outer.minus { locale := true, ascii := true, unicode := true }
  (base.union on).minus off

end Options

/-! ## Items -/

/-- A class of bytes with a name. -/
inductive Class
  | digit
  | space
  | word
  deriving DecidableEq, Repr

/-- A member of a set of bytes. -/
inductive Member
  | byte (b : UInt8)
  | range (first last : UInt8)
  | class_ (c : Class) (negated : Bool)
  deriving DecidableEq, Repr

/-- A place in the subject. -/
inductive Anchor
  /-- The start of the subject, or of a line if the pattern is multiline. -/
  | lineStart
  /-- The end of the subject or before its last line feed, or the end of a line
  if the pattern is multiline. -/
  | lineEnd
  | start
  | end_
  | boundary
  | noBoundary
  deriving DecidableEq, Repr

/-- How eagerly a repetition takes more, and whether it gives back. -/
inductive Greed
  | greedy
  | lazy
  | possessive
  deriving DecidableEq, Repr

/-- The fewest and the most bytes that something can take, up to a bound that
stands for no limit. -/
structure Extent where
  least : Nat
  most : Nat
  deriving DecidableEq, Repr

/-- One item of a pattern. -/
inductive Item
  | byte (b : UInt8)
  | notByte (b : UInt8)
  | set (negated : Bool) (members : List Member)
  | any
  | anchor (a : Anchor)
  /-- A group, remembered if it has an index, with the options it turns on and
  off. -/
  | group (index : Option Nat) (on off : Options) (body : List Item)
  /-- Takes its first way to match and no other. -/
  | atomic (body : List Item)
  | repeated (greed : Greed) (least : Nat) (most : Option Nat) (body : List Item)
  /-- Looks ahead, or back from as far as the extent says, without taking. -/
  | look (back : Option Extent) (negated : Bool) (body : List Item)
  | branch (alternatives : List (List Item))
  /-- What a group took, once more. -/
  | backref (index : Nat) (extent : Extent)
  /-- One of two sequences, by whether a group took part. -/
  | cond (index : Nat) (yes : List Item) (no : Option (List Item))
  deriving Inhabited

/-! ## Extents -/

namespace Extent

/-- Stands for no limit. -/
def bound : Nat := 0x10000000000000000

def zero : Extent := ⟨0, 0⟩
def one : Extent := ⟨1, 1⟩

def add (a b : Extent) : Extent := ⟨a.least + b.least, a.most + b.most⟩

/-- Either of two. -/
def either (a b : Extent) : Extent := ⟨min a.least b.least, max a.most b.most⟩

/-- Taken a number of times. -/
def times (e : Extent) (least : Nat) : Option Nat → Extent
  | some most => ⟨e.least * least, e.most * most⟩
  | none => ⟨e.least * least, if e.most = 0 then 0 else bound⟩

/-- Cut at the bound. -/
def cap (e : Extent) : Extent := ⟨min e.least bound, min e.most bound⟩

end Extent

mutual

/-- How many bytes an item can take. -/
def Item.extent : Item → Extent
  | .byte _ | .notByte _ | .set _ _ | .any => .one
  | .anchor _ | .look _ _ _ => .zero
  | .group _ _ _ body | .atomic body => extentOf body
  | .repeated _ least most body => (extentOf body).times least most
  | .branch alternatives => extentOfAny alternatives
  | .backref _ extent => extent
  | .cond _ yes no =>
    match no with
    | none => ⟨0, (extentOf yes).most⟩
    | some items => (extentOf yes).either (extentOf items)

/-- How many bytes a sequence can take. -/
def extentOf (items : List Item) : Extent := (extentSum items).cap

def extentSum : List Item → Extent
  | [] => .zero
  | i :: is => i.extent.add (extentSum is)

/-- How many bytes one of several sequences can take. -/
def extentOfAny : List (List Item) → Extent
  | [] => ⟨Extent.bound, 0⟩
  | s :: ss => (extentOf s).either (extentOfAny ss)

end

/-! ## Shapes -/

/-- The item tests one byte. -/
def Item.isUnit : Item → Bool
  | .byte _ | .notByte _ | .set _ _ | .any => true
  | _ => false

/-- Two items are the same and hold no sequence. -/
def Item.sameLeaf : Item → Item → Bool
  | .byte a, .byte b => a = b
  | .notByte a, .notByte b => a = b
  | .set n ms, .set n' ms' => n = n' && ms = ms'
  | .any, .any => true
  | .anchor a, .anchor b => a = b
  | .backref a _, .backref b _ => a = b
  | _, _ => false

/-- A group that neither remembers nor changes an option. -/
def Item.plainGroup? : Item → Option (List Item)
  | .group none on off body => if on = {} && off = {} then some body else none
  | _ => none

end QuerySieve.Pattern
