-- The laws of where the words of a line begin and end. Each code point of a line either lies in
-- a gap, or marks a quotation, or is a letter of a word. The words are the runs between the gaps,
-- with the marks taken out, so nothing else of the line is lost.
import QuerySieve.Proofs.Spellings

namespace QuerySieve

namespace Words

/-! ## What a line is made of -/

/-- What a code point of a line is there for. -/
inductive Part
  /-- A blank outside quotations. -/
  | gap
  /-- A quote that opens or closes a quotation. -/
  | mark
  /-- Anything else, and all that stands in quotations. -/
  | letter
  deriving DecidableEq

/-- Code points, each with what it is there for. -/
abbrev Scanned := List (CodePoint × Part)

/-- A line, where it starts in a quotation, whose mark is given, or outside. -/
def scan : Option CodePoint → Text → Scanned
  | _, [] => []
  | none, c :: t =>
    if isBlank c then (c, .gap) :: scan none t
    else if isQuote c then (c, .mark) :: scan (some c) t
    else (c, .letter) :: scan none t
  | some mark, c :: t =>
    if c = mark then (c, .mark) :: scan none t else (c, .letter) :: scan (some mark) t

section

variable (cs : Scanned)

/-- The letters among scanned code points. -/
def letters : Text := (cs.filter fun c => c.2 = .letter).map Prod.fst

/-- What stands before, between and after the gaps; nothing where two gaps meet. -/
def pieces : List Scanned := cs.splitOnP fun c => c.2 = .gap

/-- The maximal runs of code points that are no gaps. -/
def runs : List Scanned := (pieces cs).filter fun r => !r.isEmpty

/-- How many code points that are no gaps come right after one, where what comes before the first
code point is given. -/
def starts (before : Part) : Nat :=
  ((before :: cs.map Prod.snd).zip (cs.map Prod.snd)).countP fun p => p.1 = .gap && p.2 ≠ .gap

end

theorem scan_fst (open_ : Option CodePoint) (t : Text) : (scan open_ t).map Prod.fst = t := by
  induction t generalizing open_ with
  | nil => cases open_ with | none | some => rfl
  | cons c t ih =>
    cases open_ with
    | none =>
      rw [scan]
      split
      · rw [List.map_cons, ih]
      · split
        · rw [List.map_cons, ih]
        · rw [List.map_cons, ih]
    | some mark =>
      rw [scan]
      split
      · rw [List.map_cons, ih]
      · rw [List.map_cons, ih]

/-! ## Pieces -/

theorem pieces_ne_nil (cs : Scanned) : pieces cs ≠ [] :=
  List.splitOnP_ne_nil _ cs

theorem pieces_of_gap {c : CodePoint × Part} (h : c.2 = .gap) (cs : Scanned) :
    pieces (c :: cs) = [] :: pieces cs := by
  rw [pieces, List.splitOnP_cons_eq_if_modifyHead, if_pos (by simp [h]), pieces]

theorem pieces_of_ne_gap {c : CodePoint × Part} (h : c.2 ≠ .gap) {cs first : Scanned}
    {others : List Scanned} (split : pieces cs = first :: others) :
    pieces (c :: cs) = (c :: first) :: others := by
  rw [pieces] at split ⊢
  rw [List.splitOnP_cons_eq_if_modifyHead, if_neg (by simp [h]), split, List.modifyHead_cons]

theorem flatten_pieces (cs : Scanned) :
    (pieces cs).flatten = cs.filter fun c => c.2 ≠ .gap := by
  induction cs with
  | nil => rfl
  | cons c cs ih =>
    obtain ⟨first, others, split⟩ := List.exists_cons_of_ne_nil (pieces_ne_nil cs)
    by_cases h : c.2 = .gap
    · rw [pieces_of_gap h, List.filter_cons_of_neg (by simp [h]), ← ih]
      rfl
    · rw [pieces_of_ne_gap h split, List.filter_cons_of_pos (by simp [h]), ← ih, split]
      rfl

theorem letters_flatten (rs : List Scanned) :
    (rs.map letters).flatten = letters rs.flatten := by
  induction rs with
  | nil => rfl
  | cons r rs ih => simp [ih, letters]

/-- Gaps have no letters, so the runs have all of them. -/
theorem flatten_letters_runs (cs : Scanned) :
    ((runs cs).map letters).flatten = letters cs := by
  have kept : (runs cs).flatten = (pieces cs).flatten := List.flatten_filter_not_isEmpty
  rw [letters_flatten, kept, flatten_pieces, letters, letters, List.filter_filter]
  congr 2
  funext c
  cases c.2 with
  | gap | mark | letter => rfl

theorem starts_cons (before : Part) (c : CodePoint × Part) (cs : Scanned) :
    starts (c :: cs) before =
      starts cs c.2 + if before = .gap && c.2 ≠ .gap then 1 else 0 := List.countP_cons ..

/-- A run starts at each code point that comes after a gap. Right after anything else, the first
piece is only the rest of a run. -/
theorem starts_eq (before : Part) (cs : Scanned) :
    starts cs before =
      ((if before = .gap then pieces cs else (pieces cs).tail).filter
        fun r => !r.isEmpty).length := by
  induction cs generalizing before with
  | nil => cases before with | gap | mark | letter => rfl
  | cons c cs ih =>
    obtain ⟨first, others, split⟩ := List.exists_cons_of_ne_nil (pieces_ne_nil cs)
    rw [starts_cons, ih]
    by_cases h : c.2 = .gap
    · rw [pieces_of_gap h, if_pos h]
      cases before with | gap | mark | letter => simp [h]
    · rw [pieces_of_ne_gap h split, if_neg h, split]
      cases before with | gap | mark | letter => simp [h]

/-! ## The words -/

/-- The word that is being read at a place, its last code point first. -/
def Place.read? : Place → Option Text
  | .gap => none
  | .word read | .quotation _ read => some read

/-- The words that scanned code points make, where the first piece may go on with a word that is
being read. -/
def wordsOf (read? : Option Text) (cs : Scanned) : List Text :=
  match read? with
  | none => (runs cs).map letters
  | some read => (read.reverse ++ letters ((pieces cs).headD [])) ::
      ((pieces cs).tail.filter fun r => !r.isEmpty).map letters

theorem wordsOf_gap (read? : Option Text) (c : CodePoint) (cs : Scanned) :
    wordsOf read? ((c, .gap) :: cs) = (read?.map List.reverse).toList ++ wordsOf none cs := by
  have gap := pieces_of_gap (c := (c, .gap)) rfl cs
  cases read? with
  | none =>
    simp only [wordsOf, runs, gap]
    rfl
  | some read => simp [wordsOf, runs, letters, gap]

/-- A mark starts a word as a letter does, even if no letter follows. -/
theorem wordsOf_of_ne_gap {c : CodePoint × Part} (h : c.2 ≠ .gap) (read? : Option Text)
    (cs : Scanned) : wordsOf read? (c :: cs) = wordsOf (some (letters [c] ++ read?.getD [])) cs := by
  obtain ⟨first, others, split⟩ := List.exists_cons_of_ne_nil (pieces_ne_nil cs)
  have joined := pieces_of_ne_gap h split
  have lettered : letters (c :: first) = (letters [c]).reverse ++ letters first := by
    obtain ⟨c, part⟩ := c
    cases part with
    | gap => exact absurd rfl h
    | mark | letter => rfl
  cases read? with
  | none => simp [wordsOf, runs, joined, split, lettered]
  | some read => simp [wordsOf, joined, split, lettered]

/-- Between words and in a word, the reader goes on in the same way. -/
theorem splitFrom_outside {p : Place} (outside : p.mark? = none) (c : CodePoint) (t : Text) :
    splitFrom p (c :: t) =
      if isBlank c then (splitFrom .gap t).map ((p.read?.map List.reverse).toList ++ ·)
      else if isQuote c then splitFrom (.quotation c (p.read?.getD [])) t
      else splitFrom (.word (c :: p.read?.getD [])) t := by
  cases p with
  | gap => simp [splitFrom, Place.read?]
  | word read => rfl
  | quotation mark read => cases outside

/-- Induction on the line: each code point takes the reader from one place to the next, and what
it is there for goes into the same words. -/
theorem splitFrom_eq_wordsOf (p : Place) (t : Text) (closed : leftOpen p.mark? t = none) :
    splitFrom p t = some (wordsOf p.read? (scan p.mark? t)) := by
  induction t generalizing p with
  | nil =>
    cases p with
    | gap => rfl
    | word read => simp [splitFrom, wordsOf, Place.read?, scan, pieces, letters]
    | quotation mark read => cases closed
  | cons c t ih =>
    cases inside : p.mark? with
    | none =>
      rw [inside, leftOpen] at closed
      rw [splitFrom_outside inside, scan]
      by_cases blank : isBlank c = true
      · rw [isQuote_of_isBlank blank] at closed
        rw [if_pos blank, if_pos blank, wordsOf_gap, ih .gap closed]
        rfl
      · by_cases quote : isQuote c = true
        · rw [if_pos quote] at closed
          rw [if_neg blank, if_neg blank, if_pos quote, if_pos quote, wordsOf_of_ne_gap Part.noConfusion]
          exact ih (.quotation c _) closed
        · rw [if_neg quote] at closed
          rw [if_neg blank, if_neg blank, if_neg quote, if_neg quote, wordsOf_of_ne_gap Part.noConfusion]
          exact ih (.word (c :: _)) closed
    | some mark =>
      cases p with
      | gap | word => cases inside
      | quotation mark' read =>
        cases inside
        rw [Place.mark?, leftOpen] at closed
        rw [splitFrom, scan, Place.read?]
        by_cases closing : c = mark
        · rw [if_pos closing] at closed
          rw [if_pos closing, if_pos closing, wordsOf_of_ne_gap Part.noConfusion]
          exact ih (.word read) closed
        · rw [if_neg closing] at closed
          rw [if_neg closing, if_neg closing, wordsOf_of_ne_gap Part.noConfusion]
          exact ih (.quotation mark (c :: read)) closed

/-! ## The law -/

/-- A line is split unless it ends in a quotation. Then its words are the letters of its runs:
together they are all letters of the line, and there are as many as code points that come first
or after a gap and are none. -/
theorem a_line_is_split_at_its_gaps_only (line : Text) :
    (scan none line).map Prod.fst = line ∧
    ((∃ mark, leftOpen none line = some mark ∧ split? line = none) ∨
      (leftOpen none line = none ∧ ∃ ws, split? line = some ws ∧
        ws = (runs (scan none line)).map letters ∧
        ws.flatten = letters (scan none line) ∧
        ws.length = starts (scan none line) .gap)) := by
  refine ⟨scan_fst none line, ?_⟩
  cases h : leftOpen none line with
  | some mark =>
    refine .inl ⟨mark, rfl, ?_⟩
    rw [split?_eq_none_iff, h]
    rfl
  | none =>
    refine .inr ⟨rfl, _, splitFrom_eq_wordsOf .gap line h, rfl, flatten_letters_runs _, ?_⟩
    rw [starts_eq, if_pos rfl]
    exact List.length_map _

/-- Quotations that touch make one word, and one that stands alone makes a word even if nothing
is in it. -/
example :
    split? "x 'a b'\"'\" ''" = some (["x", "a b'", ""].map Text.ofString) := by
  decide

end Words

end QuerySieve
