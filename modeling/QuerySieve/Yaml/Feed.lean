-- The code points that a reading gets to see. A text is checked as a whole before
-- anything is read. A file comes in batches, which are decoded from pieces of octets,
-- so a flaw far down a long file is only met when reading gets to its batch.
import QuerySieve.Yaml.Complaint
import QuerySieve.Yaml.Number

namespace QuerySieve.Yaml

/-! ## What a document may hold -/

/-- Tab, line ends, and what is neither a control nor a surrogate nor one of the
last two of the first plane. -/
def isAcceptable (c : CodePoint) : Bool :=
  let n := c.val
  n = 0x09 || n = 0x0A || n = 0x0D || (0x20 ≤ n && n ≤ 0x7E) || n = 0x85
    || (0xA0 ≤ n && n ≤ 0xD7FF) || (0xE000 ≤ n && n ≤ 0xFFFD) || 0x10000 ≤ n

/-- The first code point that no document holds, with its place. -/
def firstUnacceptable? (t : Text) : Option (Nat × CodePoint) :=
  let start := (t.takeWhile isAcceptable).length
  (t.drop start).head?.map (start, ·)

/-- The complaint about a code point that no document holds. -/
def unacceptable (found : Nat × CodePoint) : Fault :=
  .complaint { stage := .intake, problem := .unacceptable found.2, mark := ⟨found.1, 0, 0⟩ }

/-! ## Feeds -/

/-- The text that can be read, and what is met after it, if it is not the end of the
document. -/
structure Feed where
  text : Text
  broken : Option Fault
  deriving Repr

/-- A document given as text. -/
def Feed.ofText (t : Text) : Feed :=
  match firstUnacceptable? t with
  | none => ⟨t, none⟩
  | some found => ⟨[], some (unacceptable found)⟩

/-! ## Files -/

/-- Line ends of two code points and lone carriage returns as line feeds. -/
def unifyBreaks : Text → Text
  | [] => []
  | c :: t =>
    if c = '\r' then
      match t with
      | [] => ['\n']
      | d :: t' =>
        CodePoint.ofChar '\n' :: (if d = '\n' then unifyBreaks t' else unifyBreaks (d :: t'))
    else c :: unifyBreaks t

/-- The code points that are taken in at a time. -/
def batchSize : Nat := 4096

/-- The octets that are decoded at a time, at least. -/
def pieceSize : Nat := 8192

/-- How far a file is decoded. -/
structure Decoding where
  /-- The start of a sequence that the piece before ended in. -/
  left : Bytes := []
  /-- A carriage return is held back until it is known what comes after it. -/
  held : Bool := false
  /-- The code points that came out. -/
  count : Nat := 0
  /-- The octets of the piece before, and the code points that came out of it. -/
  last : Nat × Nat := (0, 0)

/-- So many code points times the octets that the piece before had for each, as doubles are
multiplied, and as a whole number. A piece has at least one octet for a code point. -/
def Decoding.expected (d : Decoding) (wanted : Nat) : Nat :=
  let (octets, points) := d.last
  if octets ≤ points || points = 0 then wanted
  else
    let (rate, parts) := Number.nearest octets points
    let (product, parts) := Number.nearest (rate * wanted) parts
    product / parts

/-- The octets of the next piece: as many as it may take to complete the batch. -/
def Decoding.nextSize (d : Decoding) : Nat :=
  max pieceSize (d.expected (batchSize - d.count % batchSize))

/-- A surrogate that lacks the last of its three octets. It is malformed, but only refused
together with the octet that comes next. -/
def isCutSurrogate : Bytes → Bool
  | [lead, second] => lead = 0xED && 0xA0 ≤ second && second ≤ 0xBF
  | _ => false

/-- The start of a sequence that the octets end in, to be completed by the next
piece. -/
def pending (b : Bytes) : Bytes :=
  match b.decode with
  | .error e =>
    let rest := b.drop e.start
    if (e.reason = .truncated && e.stop = b.length) || isCutSurrogate rest then rest else []
  | .ok _ => []

/-- The text of a piece with its line ends as line feeds, and whether a carriage return at
its end is held back. Nothing is held back after the last piece. -/
def unifyPiece (held isLast : Bool) (t : Text) : Text × Bool :=
  if t.isEmpty && !isLast then ([], held)
  else
    let t := if held then CodePoint.ofChar '\r' :: t else t
    if !isLast && t.getLast? = some (CodePoint.ofChar '\r') then (unifyBreaks t.dropLast, true)
    else (unifyBreaks t, false)

/-- Decodes piece by piece: the text before the first piece that cannot be decoded,
and its flaw, counted from the start of the piece with what was left over from the
one before. -/
def decodePieces : (fuel : Nat) → Decoding → Bytes → Text × Option Undecodable
  | 0, _, _ => ([], none)
  | fuel + 1, d, b =>
    let size := d.nextSize
    let piece := d.left ++ b.take size
    let left := if b.isEmpty then [] else pending piece
    match Bytes.decode (piece.take (piece.length - left.length)) with
    | .error e => ([], some e)
    | .ok t =>
      let (t, held) := unifyPiece d.held b.isEmpty t
      if b.isEmpty then (t, none)
      else
        let d := { left, held, count := d.count + t.length, last := (min size b.length, t.length) }
        let (more, flaw) := decodePieces fuel d (b.drop size)
        (t ++ more, flaw)

/-- The code points of the batches that come before a place. The first two batches
are one. -/
def batchStart (place : Nat) : Nat :=
  if place < 2 * batchSize then 0 else place / batchSize * batchSize

/-- A document in a file. -/
def Feed.ofBytes (b : Bytes) : Feed :=
  let (t, flaw) := decodePieces (b.length / pieceSize + 3) {} b
  let readable := match flaw with
    | none => t.length
    | some _ => batchStart t.length
  match firstUnacceptable? (t.take readable) with
  | some found => ⟨t.take (batchStart found.1), some (unacceptable found)⟩
  | none => ⟨t.take readable, flaw.map .undecodable⟩

end QuerySieve.Yaml
