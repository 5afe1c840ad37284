-- The meaning of a pattern: each item turns a continuation, which tries the rest
-- of the pattern at a place, into one that tries the item first. The first way
-- that succeeds is taken, so alternatives and repetitions give back in order.
-- What groups took is a row of marks, which is threaded through failed ways too.
import QuerySieve.Pattern.Cursor

namespace QuerySieve.Pattern

/-! ## Marks -/

/-- Where groups opened and closed: entry `2g` is where group `g + 1` opened and
the next one where it closed. The row ends at the last mark that was set. -/
abbrev Marks := List (Option Nat)

/-- Sets a mark. Entries that come into being before it are unset. -/
def Marks.put (marks : Marks) (entry place : Nat) : Marks :=
  if entry < marks.length then marks.set entry (some place)
  else marks ++ List.replicate (entry - marks.length) none ++ [some place]

/-- What a group took, if it opened and closed in this order. -/
def Marks.span? (marks : Marks) (index : Nat) : Option (Nat × Nat) :=
  match marks[2 * (index - 1)]?, marks[2 * (index - 1) + 1]? with
  | some (some opened), some (some closed) =>
    if opened ≤ closed then some (opened, closed) else none
  | _, _ => none

/-- The marks with which the next way is tried after one failed. Inside a
repetition they are as they were before; elsewhere only the row is cut back to
its old length. -/
def Marks.retry (repeating : Bool) (before after : Marks) : Marks :=
  if repeating then before else after.take before.length

/-- How a try ends: at a place, or nowhere, with the marks that it leaves. -/
inductive Outcome
  | found (place : Nat) (marks : Marks)
  | failed (marks : Marks)

/-- The rest of a pattern. -/
abbrev Cont := Nat → Marks → Outcome

/-- The end of a pattern: every place will do. -/
def Cont.accept : Cont := .found

/-! ## Bytes -/

def lowerByte (b : UInt8) : UInt8 := if 0x41 ≤ b && b ≤ 0x5A then b + 32 else b
def upperByte (b : UInt8) : UInt8 := if 0x61 ≤ b && b ≤ 0x7A then b - 32 else b

def Class.contains (c : Class) (b : UInt8) : Bool :=
  match c with
  | .digit => isDigit b
  | .space => isSpace b
  | .word => isWord b

def Member.contains (b : UInt8) : Member → Bool
  | .byte c => b = c
  | .range first last => first ≤ b && b ≤ last
  | .class_ c negated => c.contains b != negated

/-- A member contains a byte or its partner in the other case. -/
def Member.containsEitherCase (b : UInt8) (m : Member) : Bool :=
  m.contains (lowerByte b) || m.contains (upperByte b)

def setContains (negated : Bool) (members : List Member) (b : UInt8) : Bool :=
  members.any (·.contains b) != negated

/-- A set contains a byte under the options. By the locale, a set is asked for
either case as a whole, so that a negated one contains more. -/
def setAccepts (o : Options) (negated : Bool) (members : List Member) (b : UInt8) : Bool :=
  if !o.ignoreCase then setContains negated members b
  else if o.locale then
    setContains negated members (lowerByte b) || setContains negated members (upperByte b)
  else members.any (·.containsEitherCase b) != negated

/-- Two bytes are the same under the options. -/
def sameByte (o : Options) (a b : UInt8) : Bool :=
  if o.ignoreCase then lowerByte a = lowerByte b else a = b

/-- An item that tests one byte accepts it. -/
def Item.accepts (o : Options) (b : UInt8) : Item → Bool
  | .byte c => sameByte o b c
  | .notByte c => !sameByte o b c
  | .set negated members => setAccepts o negated members b
  | .any => o.dotAll || b != 0x0A
  | _ => false

mutual

/-- The test of a sequence that is one item testing one byte, or a group of such
that only changes options. -/
def unitTest? (o : Options) : List Item → Option (UInt8 → Bool)
  | [i] => i.unitTest? o
  | _ => none

def Item.unitTest? (o : Options) : Item → Option (UInt8 → Bool)
  | .group none on off body => QuerySieve.Pattern.unitTest? (o.inner on off) body
  | i => if i.isUnit then some fun b => i.accepts o b else none

end

/-! ## Places -/

/-- Whether a word byte stands at a place. -/
def wordAt (subject : Array UInt8) (place : Nat) : Bool := (subject[place]?.map isWord).getD false

/-- A place has what an anchor asks for. In an empty subject no place is a
boundary, and none is not one. -/
def Anchor.holds (o : Options) (subject : Array UInt8) (place : Nat) : Anchor → Bool
  | .lineStart => place = 0 || (o.multiline && subject[place - 1]? = some 0x0A)
  | .lineEnd =>
    place = subject.size
      || (subject[place]? = some 0x0A && (o.multiline || place + 1 = subject.size))
  | .start => place = 0
  | .end_ => place = subject.size
  | .boundary => subject.size != 0 && atBoundary
  | .noBoundary => subject.size != 0 && !atBoundary
where
  atBoundary : Bool := (place != 0 && wordAt subject (place - 1)) != wordAt subject place

/-- The part of the subject between two places stands at a third one too. -/
def sameSpan (o : Options) (subject : Array UInt8) (first at_ : Nat) : (length : Nat) → Bool
  | 0 => true
  | n + 1 =>
    match subject[first]?, subject[at_]? with
    | some a, some b => sameByte o a b && sameSpan o subject (first + 1) (at_ + 1) n
    | _, _ => false

/-! ## Repetitions of one byte -/

/-- How many bytes from a place on pass a test, up to a number. -/
def countWhile (test : UInt8 → Bool) (subject : Array UInt8) (place : Nat) : (most : Nat) → Nat
  | 0 => 0
  | n + 1 =>
    match subject[place]? with
    | some b => if test b then countWhile test subject (place + 1) n + 1 else 0
    | none => 0

/-- The most that a repetition of one byte can take at a place. -/
def reach (subject : Array UInt8) (place : Nat) (most : Option Nat) : Nat :=
  let left := subject.size - place
  match most with
  | none => left
  | some m => min m left

/-- Tries the rest at a number of bytes past a place, then at one byte less each
time. -/
def giveBack (repeating : Bool) (place : Nat) (k : Cont) (before : Marks) :
    (extra : Nat) → Marks → Outcome
  | 0, marks =>
    match k place marks with
    | .found p m => .found p m
    | .failed m => .failed (Marks.retry repeating before m)
  | n + 1, marks =>
    match k (place + n + 1) marks with
    | .found p m => .found p m
    | .failed m => giveBack repeating place k before n (Marks.retry repeating before m)

/-- Tries the rest at a place, then after one more byte that passes the test each
time. -/
def takeMore (repeating : Bool) (test : UInt8 → Bool) (subject : Array UInt8) (k : Cont)
    (before : Marks) : (more : Nat) → Nat → Marks → Outcome
  | 0, place, marks =>
    match k place marks with
    | .found p m => .found p m
    | .failed m => .failed (Marks.retry repeating before m)
  | n + 1, place, marks =>
    match k place marks with
    | .found p m => .found p m
    | .failed m =>
      let marks := Marks.retry repeating before m
      match subject[place]? with
      | some b =>
        if test b then takeMore repeating test subject k before n (place + 1) marks
        else .failed marks
      | none => .failed marks

/-- Repeats a test of one byte. -/
def repeatUnit (repeating : Bool) (greed : Greed) (least : Nat) (most : Option Nat)
    (test : UInt8 → Bool) (subject : Array UInt8) (k : Cont) : Cont := fun place marks =>
  let most := reach subject place most
  match greed with
  | .greedy =>
    let n := countWhile test subject place most
    if n < least then .failed marks
    else giveBack repeating (place + least) k marks (n - least) marks
  | .lazy =>
    if countWhile test subject place (min least most) < least then .failed marks
    else takeMore repeating test subject k marks (most - least) (place + least) marks
  | .possessive =>
    let n := countWhile test subject place most
    if n < least then .failed marks else k (place + n) marks

/-! ## Repetitions of a sequence -/

/-- What a sequence does to the rest of a pattern. -/
abbrev Step := Cont → Cont

/-- Whether one more round may start after some rounds. -/
def roomFor (rounds : Nat) : Option Nat → Bool
  | none => true
  | some most => rounds < most

/-- Tries one more round first, and the rest if that fails. Past the least number
a round starts only where the one before did not. -/
def repeatGreedy (least : Nat) (most : Option Nat) (body : Step) (k : Cont) :
    (fuel rounds : Nat) → (last : Option Nat) → Cont
  | 0, _, _, _, marks => .failed marks
  | fuel + 1, rounds, last, place, marks =>
    if rounds < least then
      body (repeatGreedy least most body k fuel (rounds + 1) last) place marks
    else if roomFor rounds most && last != some place then
      match body (repeatGreedy least most body k fuel (rounds + 1) (some place)) place marks with
      | .found p m => .found p m
      | .failed _ => k place marks
    else k place marks

/-- Tries the rest first, and one more round if that fails. -/
def repeatLazy (repeating : Bool) (least : Nat) (most : Option Nat) (body : Step) (k : Cont) :
    (fuel rounds : Nat) → (last : Option Nat) → Cont
  | 0, _, _, _, marks => .failed marks
  | fuel + 1, rounds, last, place, marks =>
    if rounds < least then
      body (repeatLazy repeating least most body k fuel (rounds + 1) last) place marks
    else
      match k place marks with
      | .found p m => .found p m
      | .failed m =>
        let marks := Marks.retry repeating marks m
        if roomFor rounds most && last != some place then
          body (repeatLazy repeating least most body k fuel (rounds + 1) (some place)) place marks
        else .failed marks

/-- Runs rounds to their first end and goes on where no further round succeeds. -/
def repeatPossessive (least : Nat) (most : Option Nat) (body : Step) (k : Cont) :
    (fuel rounds : Nat) → (last : Option Nat) → Cont
  | 0, _, _, _, marks => .failed marks
  | fuel + 1, rounds, last, place, marks =>
    if rounds < least then
      match body .accept place marks with
      | .found p m => repeatPossessive least most body k fuel (rounds + 1) last p m
      | .failed m => .failed m
    else if roomFor rounds most && last != some place then
      match body .accept place marks with
      | .found p m => repeatPossessive least most body k fuel (rounds + 1) (some place) p m
      | .failed _ => k place marks
    else k place marks

/-- Repeats a sequence. A round past the least number moves on or is the last one,
which bounds their number. -/
def repeatSequence (repeating : Bool) (greed : Greed) (least : Nat) (most : Option Nat)
    (body : Step) (subject : Array UInt8) (k : Cont) : Cont := fun place marks =>
  let fuel := least + (subject.size - place) + 3
  match greed with
  | .greedy => repeatGreedy least most body k fuel 0 none place marks
  | .lazy => repeatLazy repeating least most body k fuel 0 none place marks
  | .possessive => repeatPossessive least most body k fuel 0 none place marks

/-! ## Items -/

/-- Tries ways in their order. -/
def tryAll (repeating : Bool) (k : Cont) (place : Nat) (before : Marks) :
    List Step → Marks → Outcome
  | [], marks => .failed marks
  | way :: ways, marks =>
    match way k place marks with
    | .found p m => .found p m
    | .failed m => tryAll repeating k place before ways (Marks.retry repeating before m)

mutual

/-- The meaning of an item under options, inside a repetition or not. -/
def Item.step (subject : Array UInt8) (o : Options) (repeating : Bool) : Item → Step
  | .byte b, k => fun place marks =>
    match subject[place]? with
    | some c => if sameByte o c b then k (place + 1) marks else .failed marks
    | none => .failed marks
  | .notByte b, k => fun place marks =>
    match subject[place]? with
    | some c => if sameByte o c b then .failed marks else k (place + 1) marks
    | none => .failed marks
  | .set negated members, k => fun place marks =>
    match subject[place]? with
    | some c => if setAccepts o negated members c then k (place + 1) marks else .failed marks
    | none => .failed marks
  | .any, k => fun place marks =>
    match subject[place]? with
    | some c => if o.dotAll || c != 0x0A then k (place + 1) marks else .failed marks
    | none => .failed marks
  | .anchor a, k => fun place marks =>
    if a.holds o subject place then k place marks else .failed marks
  | .group none on off body, k => fun place marks =>
    steps subject (o.inner on off) repeating body k place marks
  | .group (some index) on off body, k => fun place marks =>
    steps subject (o.inner on off) repeating body
      (fun p m => k p (m.put (2 * (index - 1) + 1) p)) place
      (marks.put (2 * (index - 1)) place)
  | .atomic body, k => fun place marks =>
    match steps subject o repeating body .accept place marks with
    | .found p m => k p m
    | .failed m => .failed m
  | .repeated greed least most body, k => fun place marks =>
    match unitTest? o body with
    | some test => repeatUnit repeating greed least most test subject k place marks
    | none =>
      repeatSequence repeating greed least most (fun k => steps subject o true body k) subject k
        place marks
  | .look back negated body, k => fun place marks =>
    let far := match back with
      | none => 0
      | some e => e.least
    if place < far then if negated then k place marks else .failed marks
    else
      match steps subject o repeating body .accept (place - far) marks with
      | .found _ m => if negated then .failed m else k place m
      | .failed m => if negated then k place (Marks.retry repeating marks m) else .failed m
  | .branch alternatives, k => fun place marks =>
    tryAll repeating k place marks (ways subject o repeating alternatives) marks
  | .backref index _, k => fun place marks =>
    match marks.span? index with
    | none => .failed marks
    | some (opened, closed) =>
      if sameSpan o subject opened place (closed - opened) then
        k (place + (closed - opened)) marks
      else .failed marks
  | .cond index yes no, k => fun place marks =>
    match marks.span? index with
    | some _ => steps subject o repeating yes k place marks
    | none =>
      match no with
      | some items => steps subject o repeating items k place marks
      | none => k place marks

/-- The meaning of a sequence: each item goes on with those after it. -/
def steps (subject : Array UInt8) (o : Options) (repeating : Bool) : List Item → Step
  | [], k => k
  | i :: is, k => i.step subject o repeating (steps subject o repeating is k)

/-- The ways that alternatives offer. -/
def ways (subject : Array UInt8) (o : Options) (repeating : Bool) : List (List Item) → List Step
  | [] => []
  | s :: ss => (fun k => steps subject o repeating s k) :: ways subject o repeating ss

end

/-! ## Searching -/

/-- Some place from a given one on starts a match. -/
def searchFrom (items : List Item) (o : Options) (subject : Array UInt8) :
    (left : Nat) → (place : Nat) → Bool
  | 0, _ => false
  | n + 1, place =>
    match steps subject o false items .accept place [] with
    | .found _ _ => true
    | .failed _ => searchFrom items o subject n (place + 1)

/-- Some part of the subject matches. -/
def search (items : List Item) (o : Options) (subject : Bytes) : Bool :=
  let subject := subject.toArray
  searchFrom items o subject (subject.size + 1) 0

end QuerySieve.Pattern
