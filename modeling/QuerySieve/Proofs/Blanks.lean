-- What is read of texts that hold nothing. Spaces, comments and line ends are no tokens: a text
-- of them has no document, and after the mark that starts a document they make up an empty one.
import Mathlib.Data.List.TakeWhile
import QuerySieve.Yaml.Plain

namespace QuerySieve.Yaml

/-! ## Texts that hold nothing -/

/-- A line, up to its end, with nothing but spaces and a comment. -/
inductive Idle : Text → Prop
  | spaces {a : Text} (h : ∀ c ∈ a, c = (' ' : CodePoint)) : Idle a
  | comment {a said : Text} (h : ∀ c ∈ a, c = (' ' : CodePoint))
      (line : ∀ c ∈ said, isAcceptable c = true ∧ isBreak c = false) :
      Idle (a ++ CodePoint.ofChar '#' :: said)

/-- Lines that hold nothing, each with its end. -/
inductive IdleLines : Text → Prop
  | nil : IdleLines []
  | cons {l t : Text} {b : CodePoint} (line : Idle l) (end_ : isBreak b = true)
      (more : IdleLines t) : IdleLines (l ++ b :: t)

/-- A text that holds nothing. -/
inductive Blank : Text → Prop
  | of {ls l : Text} (lines : IdleLines ls) (last : Idle l) : Blank (ls ++ l)

theorem not_isBreak_space : isBreak ' ' = false := by decide

theorem not_isBreak_hash : isBreak '#' = false := by decide

theorem isAcceptable_of_isBreak {b : CodePoint} (h : isBreak b = true) : isAcceptable b = true := by
  have hlf : (CodePoint.ofChar '\n').val = 0x0A := by decide
  have hcr : (CodePoint.ofChar '\r').val = 0x0D := by decide
  simp only [isBreak, Bool.or_eq_true, decide_eq_true_eq, Fin.ext_iff, hlf, hcr] at h
  simp only [isAcceptable, Bool.or_eq_true, Bool.and_eq_true, decide_eq_true_eq]
  omega

theorem Idle.isAcceptable {l : Text} (h : Idle l) : ∀ c ∈ l, isAcceptable c = true := by
  have hspace : Yaml.isAcceptable ' ' = true := by decide
  have hhash : Yaml.isAcceptable '#' = true := by decide
  intro c hc
  cases h with
  | spaces h => rwa [h c hc]
  | comment h line =>
    rcases List.mem_append.mp hc with hc | hc
    · rwa [h c hc]
    · rcases List.mem_cons.mp hc with rfl | hc
      · exact hhash
      · exact (line c hc).1

theorem IdleLines.isAcceptable {t : Text} (h : IdleLines t) : ∀ c ∈ t, isAcceptable c = true := by
  induction h with
  | nil => simp
  | cons line end_ more ih =>
    intro c hc
    rcases List.mem_append.mp hc with hc | hc
    · exact line.isAcceptable c hc
    · rcases List.mem_cons.mp hc with rfl | hc
      · exact isAcceptable_of_isBreak end_
      · exact ih c hc

theorem Blank.isAcceptable {t : Text} (h : Blank t) : ∀ c ∈ t, isAcceptable c = true := by
  cases h with
  | of lines last =>
    intro c hc
    rcases List.mem_append.mp hc with hc | hc
    · exact lines.isAcceptable c hc
    · exact last.isAcceptable c hc

/-- What starts an idle line is a space or the sign of a comment. -/
theorem Idle.head {l : Text} (h : Idle l) {c : CodePoint} (hc : l.head? = some c) :
    c = ' ' ∨ c = '#' := by
  have hmem := List.mem_of_head? hc
  cases h with
  | spaces h => exact Or.inl (h c hmem)
  | @comment a said h line =>
    cases a with
    | nil => exact Or.inr (Option.some.inj hc).symm
    | cons d a =>
      rw [← Option.some.inj hc]
      exact Or.inl (h d List.mem_cons_self)

theorem Idle.head_not_isBreak {l : Text} (h : Idle l) {c : CodePoint} (hc : l.head? = some c) :
    isBreak c = false := by
  rcases h.head hc with rfl | rfl
  · exact not_isBreak_space
  · exact not_isBreak_hash

theorem IdleLines.head {t : Text} (h : IdleLines t) {c : CodePoint} (hc : t.head? = some c) :
    c = ' ' ∨ c = '#' ∨ isBreak c = true := by
  cases h with
  | nil => cases hc
  | @cons l _ b line end_ more =>
    cases l with
    | nil => exact Or.inr (Or.inr (Option.some.inj hc ▸ end_))
    | cons d l => exact (line.head hc).imp_right Or.inl

theorem Blank.head {t : Text} (h : Blank t) {c : CodePoint} (hc : t.head? = some c) :
    c = ' ' ∨ c = '#' ∨ isBreak c = true := by
  obtain ⟨lines, last⟩ := h
  rw [List.head?_append, Option.or_eq_some_iff] at hc
  rcases hc with hc | ⟨-, hc⟩
  · exact lines.head hc
  · exact (last.head hc).imp_right Or.inl

/-- Without a line end that they start with, lines are still lines. -/
theorem IdleLines.tail {b : CodePoint} {t : Text} (h : IdleLines (b :: t))
    (end_ : isBreak b = true) : IdleLines t := by
  generalize he : b :: t = u at h
  cases h with
  | nil => cases he
  | @cons l t' b' line _ more =>
    cases l with
    | nil =>
      cases he
      exact more
    | cons c l =>
      cases he
      rw [line.head_not_isBreak rfl] at end_
      cases end_

theorem Feed.ofText_of_isAcceptable {t : Text} (h : ∀ c ∈ t, isAcceptable c = true) :
    Feed.ofText t = ⟨t, none⟩ := by
  have hall : t.takeWhile Yaml.isAcceptable = t := by
    rw [List.takeWhile_eq_self_iff]
    exact h
  have hnone : firstUnacceptable? t = none := by
    simp [firstUnacceptable?, hall]
  rw [Feed.ofText, hnone]

namespace Token

/-! ## Steps of reading -/

/-- A step of reading gives a value and goes on to a state. -/
def Steps {α : Type} (r : Reader α) (s : State) (a : α) (s' : State) : Prop :=
  r.run s = .ok (a, s')

namespace Steps

variable {α β : Type} {s s' s'' : State}

theorem pure (a : α) : Steps (pure a) s a s := rfl

theorem bind {r : Reader α} {next : α → Reader β} {a : α} {b : β} (hr : Steps r s a s')
    (hnext : Steps (next a) s' b s'') : Steps (r >>= next) s b s'' := by
  unfold Steps at hr ⊢
  rw [StateT.run_bind, hr]
  exact hnext

end Steps

/-- A state outside of all collections, with a text to read and no place for a key. -/
def outside (rest : Text) (mark : Mark) (queue : List Token) (taken : Nat) (allowed : Bool) :
    State where
  rest := rest
  mark := mark
  broken := none
  queue := queue
  taken := taken
  done := false
  flow := 0
  indent := -1
  indents := []
  keyAllowed := allowed
  keyStarts := []

section

variable {m : Mark} {q : List Token} {n : Nat} {k : Bool}

theorem skipped_append (a b : Text) (m : Mark) : (skipped a.length (a ++ b) m).1 = b := by
  induction a generalizing m with
  | nil => rfl
  | cons c a ih => exact ih _

theorem peek_outside (t : Text) : Steps peek (outside t m q n k) (t.headD ending)
    (outside t m q n k) := rfl

variable (m q n k) in
/-- Code points that pass a test are gone past, up to one that does not. -/
theorem skipWhile_outside (test : CodePoint → Bool) (a b : Text) (pass : ∀ c ∈ a, test c = true)
    (stop : ∀ c, b.head? = some c → test c = false) :
    ∃ m', Steps (skipWhile test) (outside (a ++ b) m q n k) () (outside b m' q n k) ∧
      (a = [] → m' = m) := by
  have hrun : (a ++ b).takeWhile test = a := by
    rw [List.takeWhile_append_of_pos pass]
    cases b with
    | nil => simp
    | cons c b => rw [List.takeWhile_cons_of_neg (by simp [stop c rfl]), List.append_nil]
  refine ⟨(skipped a.length (a ++ b) m).2, ?_, ?_⟩
  · have hstep : Steps (skipWhile test) (outside (a ++ b) m q n k) ()
        (outside (skipped ((a ++ b).takeWhile test).length (a ++ b) m).1
          (skipped ((a ++ b).takeWhile test).length (a ++ b) m).2 q n k) := rfl
    rwa [hrun, skipped_append] at hstep
  · rintro rfl
    rfl

theorem skipComment_of_ne {t : Text} (h : t.headD ending ≠ (CodePoint.ofChar '#')) :
    Steps skipComment (outside t m q n k) () (outside t m q n k) := by
  apply Steps.bind (peek_outside t)
  rw [if_neg h]
  exact Steps.pure ()

variable (m q n k) in
theorem skipComment_of_line {said rest : Text}
    (line : ∀ c ∈ said, isAcceptable c = true ∧ isBreak c = false)
    (stop : ∀ c, rest.head? = some c → isBreak c = true) :
    ∃ m', Steps skipComment (outside (CodePoint.ofChar '#' :: said ++ rest) m q n k) ()
      (outside rest m' q n k) := by
  have pass : ∀ c ∈ CodePoint.ofChar '#' :: said, (!isBreakOrEnd c) = true := by
    intro c hc
    rcases List.mem_cons.mp hc with rfl | hc
    · decide
    · have hend : c ≠ ending := by
        rintro rfl
        exact absurd (line _ hc).1 (by decide)
      simp [isBreakOrEnd, hend, (line c hc).2]
  obtain ⟨m', hskip, -⟩ := skipWhile_outside m q n k (fun c => !isBreakOrEnd c) _ rest pass
    (fun c hc => by simp [isBreakOrEnd, stop c hc])
  have hhead : (CodePoint.ofChar '#' :: said ++ rest).headD ending = CodePoint.ofChar '#' := rfl
  refine ⟨m', ?_⟩
  apply Steps.bind (peek_outside _)
  rw [if_pos hhead]
  exact hskip

variable (m q n k) in
/-- A line that holds nothing is gone past, up to its end. -/
theorem skipLine_outside {l : Text} (rest : Text) (line : Idle l)
    (stop : ∀ c, rest.head? = some c → isBreak c = true) :
    ∃ s' m', Steps (skipWhile (· = ' ')) (outside (l ++ rest) m q n k) () s' ∧
      Steps skipComment s' () (outside rest m' q n k) := by
  have hrest : ∀ c, rest.head? = some c → c ≠ (' ' : CodePoint) ∧ c ≠ ('#' : CodePoint) := by
    intro c hc
    have hbreak := stop c hc
    constructor
    · rintro rfl
      rw [not_isBreak_space] at hbreak
      cases hbreak
    · rintro rfl
      rw [not_isBreak_hash] at hbreak
      cases hbreak
  cases line with
  | spaces h =>
    obtain ⟨m', hskip, -⟩ := skipWhile_outside m q n k (fun c => c = ' ') l rest
      (fun c hc => by simp [h c hc]) (fun c hc => by simp [(hrest c hc).1])
    refine ⟨_, m', hskip, skipComment_of_ne ?_⟩
    cases rest with
    | nil => decide
    | cons c rest => exact (hrest c rfl).2
  | @comment a said h line =>
    obtain ⟨m', hskip, -⟩ := skipWhile_outside m q n k (fun c => c = ' ') a
      (CodePoint.ofChar '#' :: said ++ rest) (fun c hc => by simp [h c hc])
      (fun c hc => by cases hc; decide)
    obtain ⟨m'', hcomment⟩ := skipComment_of_line m' q n k line stop
    rw [List.append_assoc]
    exact ⟨_, m'', hskip, hcomment⟩

/-- What comes after a line end, which a carriage return makes up with a line feed after it. -/
def afterBreak (b : CodePoint) (t : Text) : Text :=
  if b = '\r' ∧ t.head? = some (CodePoint.ofChar '\n') then t.tail else t

/-- A carriage return may end a line alone. -/
theorem takeBreak_return {c : CodePoint} (t : Text) (alone : c ≠ '\n') :
    ∃ m', Steps takeBreak (outside (CodePoint.ofChar '\r' :: c :: t) m q n k) [lineFeed]
      (outside (c :: t) m' q n k) ∧ m'.column = 0 := by
  have hstep : ∀ count, count = (if decide (c = '\n') then 2 else 1) →
      Steps takeBreak (outside (CodePoint.ofChar '\r' :: c :: t) m q n k) [lineFeed]
        (outside (skipped count (CodePoint.ofChar '\r' :: c :: t) m).1
          (skipped count (CodePoint.ofChar '\r' :: c :: t) m).2 q n k) := by
    rintro count rfl
    rfl
  refine ⟨_, hstep 1 (if_neg (by simp [alone])).symm, ?_⟩
  simp [skipped, advanced, isBreak, alone]

variable (m q n k) in
theorem takeBreak_outside {b : CodePoint} (t : Text) (end_ : isBreak b = true) :
    ∃ said m', Steps takeBreak (outside (b :: t) m q n k) said
      (outside (afterBreak b t) m' q n k) ∧ m'.column = 0 := by
  simp only [isBreak, Bool.or_eq_true, decide_eq_true_eq] at end_
  rcases end_ with (((rfl | rfl) | h) | h) | h
  · exact ⟨[lineFeed], _, rfl, rfl⟩
  · rcases t with _ | ⟨c, t⟩
    · exact ⟨[lineFeed], _, rfl, rfl⟩
    · by_cases hc : c = '\n'
      · subst hc
        exact ⟨[lineFeed], _, rfl, rfl⟩
      · have hafter : afterBreak '\r' (c :: t) = c :: t := if_neg (by simp [hc])
        rw [hafter]
        exact ⟨[lineFeed], takeBreak_return t hc⟩
  · obtain rfl : b = 0x85 := Fin.ext h
    exact ⟨[lineFeed], _, rfl, rfl⟩
  · obtain rfl : b = 0x2028 := Fin.ext h
    exact ⟨[0x2028], _, rfl, rfl⟩
  · obtain rfl : b = 0x2029 := Fin.ext h
    exact ⟨[0x2029], _, rfl, rfl⟩

/-- Where going past what holds nothing ends: at the end of the text after an idle line, or at
the first code point of a token. -/
inductive Rests : Text → Text → Prop
  | last {l : Text} (line : Idle l) : Rests l []
  | token {c : CodePoint} {t : Text} (space : c ≠ ' ') (hash : c ≠ '#')
      (inLine : isBreak c = false) : Rests (c :: t) (c :: t)

theorem Rests.head_not_isBreak {u v : Text} (h : Rests u v) {c : CodePoint}
    (hc : u.head? = some c) : isBreak c = false := by
  cases h with
  | last line => exact line.head_not_isBreak hc
  | token space hash inLine =>
    cases hc
    exact inLine

/-- Lines that hold nothing stay so without a line end that they start with. -/
theorem exists_afterBreak {b : CodePoint} {t u v : Text} (lines : IdleLines t) (rests : Rests u v) :
    ∃ t', IdleLines t' ∧ t'.length ≤ t.length ∧ afterBreak b (t ++ u) = t' ++ u := by
  by_cases hpair : b = '\r' ∧ (t ++ u).head? = some (CodePoint.ofChar '\n')
  · have hfeed : isBreak '\n' = true := by decide
    cases t with
    | nil =>
      rw [rests.head_not_isBreak hpair.2] at hfeed
      cases hfeed
    | cons c t =>
      have hc : c = '\n' := Option.some.inj hpair.2
      subst hc
      exact ⟨t, lines.tail hfeed, Nat.le_succ _, if_pos hpair⟩
  · exact ⟨t, lines, Nat.le_refl _, if_neg hpair⟩

variable (m q n k) in
/-- So many rounds as there are code points go past all lines that hold nothing. -/
theorem go_outside {fuel : Nat} {ls u v : Text} (enough : (ls ++ u).length ≤ fuel)
    (lines : IdleLines ls) (rests : Rests u v) :
    ∃ m' k', Steps (skipToToken.go fuel) (outside (ls ++ u) m q n k) () (outside v m' q n k') ∧
      (v ≠ [] → m.column = 0 → m'.column = 0) := by
  -- Not by induction on the lines: a line feed after a carriage return is taken with it, so the
  -- lines that are left need not be the tail of those that were given.
  induction fuel generalizing ls m k with
  | zero =>
    have hnil := List.eq_nil_of_length_eq_zero (Nat.le_zero.mp enough)
    obtain ⟨rfl, rfl⟩ := List.append_eq_nil_iff.mp hnil
    cases rests with
    | last line => exact ⟨m, k, Steps.pure (), fun h => absurd rfl h⟩
  | succ fuel ih =>
    cases lines with
    | nil =>
      cases rests with
      | last line =>
        obtain ⟨s', m', hspaces, hcomment⟩ := skipLine_outside m q n k [] line (by simp)
        rw [List.append_nil] at hspaces
        refine ⟨m', k, ?_, fun h => absurd rfl h⟩
        apply Steps.bind hspaces
        apply Steps.bind hcomment
        exact Steps.bind (peek_outside []) (Steps.pure ())
      | @token c t space hash inLine =>
        obtain ⟨m', hspaces, hsame⟩ := skipWhile_outside m q n k (fun c => c = ' ') [] (c :: t)
          (by simp) (fun d hd => by cases hd; simp [space])
        rw [hsame rfl] at hspaces
        refine ⟨m, k, ?_, fun _ h => h⟩
        apply Steps.bind hspaces
        apply Steps.bind (skipComment_of_ne (t := c :: t) hash)
        apply Steps.bind (peek_outside _)
        rw [List.headD_cons, if_neg (by simp [inLine])]
        exact Steps.pure ()
    | @cons l t b line end_ more =>
      obtain ⟨t', lines', hlength, hafter⟩ := exists_afterBreak (b := b) more rests
      have hrest : l ++ b :: t ++ u = l ++ b :: (t ++ u) := by simp
      obtain ⟨s', m₁, hspaces, hcomment⟩ := skipLine_outside m q n k (b :: (t ++ u)) line
        (fun c hc => by cases hc; exact end_)
      obtain ⟨said, m₂, hbreak, hcolumn⟩ := takeBreak_outside m₁ q n k (t ++ u) end_
      have hfuel : (t' ++ u).length ≤ fuel := by
        simp only [List.length_append, List.length_cons] at enough ⊢
        omega
      obtain ⟨m', k', hgo, hstays⟩ := ih (m := m₂) (k := true) hfuel lines'
      refine ⟨m', k', ?_, fun hv _ => hstays hv hcolumn⟩
      rw [hrest]
      apply Steps.bind hspaces
      apply Steps.bind hcomment
      apply Steps.bind (peek_outside _)
      rw [List.headD_cons, if_pos end_]
      apply Steps.bind hbreak
      rw [hafter]
      exact hgo

/-- What holds nothing does not start with a byte order mark. -/
theorem headD_ne_orderMark {ls u v : Text} (lines : IdleLines ls) (rests : Rests u v)
    (plain : (v.headD ending).val ≠ 0xFEFF) : ((ls ++ u).headD ending).val ≠ 0xFEFF := by
  have hidle : ∀ c : CodePoint, c = ' ' ∨ c = '#' ∨ isBreak c = true → c.val ≠ 0xFEFF := by
    rintro c (rfl | rfl | h)
    · decide
    · decide
    · intro hc
      have hmark : c = 0xFEFF := Fin.ext hc
      subst hmark
      exact absurd h (by decide)
  cases ls with
  | cons c ls => exact hidle c (lines.head rfl)
  | nil =>
    cases rests with
    | token => exact plain
    | last line =>
      cases u with
      | nil => decide
      | cons c u => exact hidle c ((line.head rfl).imp_right Or.inl)

variable (m q n k) in
/-- Reading goes on past all that holds nothing, and a line that it has gone past ends at the
margin. -/
theorem skipToToken_outside {ls u v : Text} (lines : IdleLines ls) (rests : Rests u v)
    (plain : (v.headD ending).val ≠ 0xFEFF) :
    ∃ m' k', Steps skipToToken (outside (ls ++ u) m q n k) () (outside v m' q n k') ∧
      (v ≠ [] → m.column = 0 → m'.column = 0) := by
  obtain ⟨m', k', hgo, hstays⟩ := go_outside m q n k (Nat.le_refl _) lines rests
  refine ⟨m', k', ?_, hstays⟩
  have hmark : ¬ (m.index = 0 && ((ls ++ u).headD ending).val = 0xFEFF) = true := by
    rw [Bool.and_eq_true, decide_eq_true_eq, decide_eq_true_eq]
    exact fun h => headD_ne_orderMark lines rests plain h.2
  have hhere : Steps here (outside (ls ++ u) m q n k) m (outside (ls ++ u) m q n k) := rfl
  apply Steps.bind hhere
  apply Steps.bind (peek_outside _)
  rw [if_neg hmark]
  exact hgo

end

/-! ## Tokens of texts that hold nothing -/

section

variable {m : Mark} {n : Nat} {k : Bool} {ls : Text}

/-- The state after the end was read. -/
def ended (m : Mark) (n : Nat) : State :=
  { outside [] m [⟨.streamEnd, m, m⟩] n false with done := true }

variable (m n k) in
theorem fetch_blank {l : Text} (lines : IdleLines ls) (last : Idle l) :
    ∃ m', Steps fetch (outside (ls ++ l) m [] n k) () (ended m' n) := by
  obtain ⟨m', k', hskip, -⟩ := skipToToken_outside m [] n k lines (.last last) (by decide)
  exact ⟨m', Steps.bind hskip rfl⟩

/-- The mark that starts a document. -/
def dashes : Text := ['-', '-', '-']

theorem dropStale_outside (t : Text) :
    Steps dropStale (outside t m [] n k) () (outside t m [] n k) := rfl

theorem unwind_outside (column : Int) (t : Text) :
    Steps (unwind column) (outside t m [] n k) () (outside t m [] n k) := rfl

theorem closeAll_outside (t : Text) :
    Steps closeAll (outside t m [] n k) () (outside t m [] n false) := rfl

variable (m n k) in
theorem enqueueDashes_outside (t : Text) :
    ∃ a b, Steps (enqueueSigns 3 .documentStart) (outside (dashes ++ t) m [] n k) ()
      (outside t b [⟨.documentStart, a, b⟩] n k) :=
  ⟨m, (skipped 3 (dashes ++ t) m).2, rfl⟩

variable (n k) in
theorem fetch_dashes {t : Text} (lines : IdleLines ls) (margin : m.column = 0)
    (apart : isBlankBreakOrEnd (t.headD ending) = true) :
    ∃ a b, Steps fetch (outside (ls ++ (dashes ++ t)) m [] n k) ()
      (outside t b [⟨.documentStart, a, b⟩] n false) := by
  obtain ⟨⟨i, line, column⟩, k', hskip, hstays⟩ := skipToToken_outside m [] n k
    (v := dashes ++ t) lines (.token (by decide) (by decide) (by decide))
    (show ('-' : CodePoint).val ≠ 0xFEFF by decide)
  have hcolumn : column = 0 := hstays (by simp [dashes]) margin
  subst hcolumn
  have hmark : Steps (atMarker "---") (outside (dashes ++ t) ⟨i, line, 0⟩ [] n k') true
      (outside (dashes ++ t) ⟨i, line, 0⟩ [] n k') := by
    rw [← apart]
    rfl
  obtain ⟨a, b, hsigns⟩ := enqueueDashes_outside ⟨i, line, 0⟩ n false t
  have hstate : Steps get (outside (dashes ++ t) ⟨i, line, 0⟩ [] n k') _ _ := rfl
  refine ⟨a, b, ?_⟩
  apply Steps.bind hskip
  apply Steps.bind (dropStale_outside _)
  apply Steps.bind hstate
  apply Steps.bind (unwind_outside _ _)
  apply Steps.bind hstate
  apply Steps.bind (peek_outside _)
  apply Steps.bind (r := atMarker "---") hmark
  exact Steps.bind (closeAll_outside _) hsigns

/-- Tokens outside of all collections are settled. -/
theorem handOut_outside (t : Text) (q q' : List Token) :
    handOut q (outside t m q' n k) = (q, .ok (outside t m [] (n + q.length) k)) := by
  induction q generalizing n with
  | nil => rfl
  | cons token q ih =>
    have hmore : handOut (token :: q) (outside t m q' n k) =
        ((token :: (handOut q (outside t m q' (n + 1) k)).1),
          (handOut q (outside t m q' (n + 1) k)).2) := rfl
    rw [hmore, ih, List.length_cons, Nat.add_right_comm, Nat.add_assoc]

theorem readRow_outside {fuel : Nat} {t : Text} {q : List Token} {s : State}
    (h : Steps fetch (outside t m [] (n + q.length) k) () s) :
    readRow (fuel + 1) (outside t m q n k) =
      ⟨q ++ (readRow fuel s).tokens, (readRow fuel s).fault⟩ := by
  have hrun : fetch.run (outside t m [] (n + q.length) k) = .ok ((), s) := h
  have hopen : (outside t m [] (n + q.length) k).done = false := rfl
  have hqueue : (outside t m q n k).queue = q := rfl
  simp only [readRow, hqueue, handOut_outside, hopen, hrun, Bool.false_eq_true, if_false]

theorem readRow_ended (fuel : Nat) :
    readRow (fuel + 1) (ended m n) = ⟨[⟨.streamEnd, m, m⟩], none⟩ := rfl

/-- A text that holds nothing has no token but its end. -/
theorem row_of_blank {t : Text} (h : Blank t) :
    ∃ a, row (.ofText t) = ⟨[⟨.streamEnd, a, a⟩], none⟩ := by
  rw [Feed.ofText_of_isAcceptable h.isAcceptable]
  obtain ⟨lines, last⟩ := h
  obtain ⟨a, hfetch⟩ := fetch_blank .start 0 true lines last
  refine ⟨a, ?_⟩
  exact readRow_outside (q := []) hfetch

theorem isBlankBreakOrEnd_of_blank {t : Text} (h : Blank t)
    (apart : t.head? ≠ some (CodePoint.ofChar '#')) :
    isBlankBreakOrEnd (t.headD ending) = true := by
  cases t with
  | nil => decide
  | cons c t =>
    rw [List.headD_cons]
    rcases h.head rfl with rfl | rfl | hc
    · decide
    · exact absurd rfl apart
    · simp [isBlankBreakOrEnd, isBreakOrEnd, hc]

/-- After the mark, a text that holds nothing has no token but its end. -/
theorem row_of_dashes {t : Text} (lines : IdleLines ls) (h : Blank t)
    (apart : t.head? ≠ some (CodePoint.ofChar '#')) :
    ∃ a b c, row (.ofText (ls ++ (dashes ++ t))) =
      ⟨[⟨.documentStart, a, b⟩, ⟨.streamEnd, c, c⟩], none⟩ := by
  have hall : ∀ c ∈ ls ++ (dashes ++ t), isAcceptable c = true := by
    have hdashes : ∀ c ∈ dashes, isAcceptable c = true := List.all_eq_true.mp (by decide)
    simp only [List.forall_mem_append]
    exact ⟨lines.isAcceptable, hdashes, h.isAcceptable⟩
  have hn : (ls ++ (dashes ++ t)).length = ls.length + t.length + 2 + 1 := by
    have hdashes : dashes.length = 3 := rfl
    rw [List.length_append, List.length_append, hdashes]
    omega
  obtain ⟨a, b, hstart⟩ := fetch_dashes 0 true (m := .start) lines rfl
    (isBlankBreakOrEnd_of_blank h apart)
  obtain ⟨more, last⟩ := h
  obtain ⟨c, hend⟩ := fetch_blank b 1 false more last
  unfold row
  rw [Feed.ofText_of_isAcceptable hall, hn]
  refine ⟨a, b, c, ?_⟩
  refine (readRow_outside (q := []) hstart).trans ?_
  rw [readRow_outside hend, readRow_ended]
  rfl

end

end Token

/-! ## Documents of texts that hold nothing -/

namespace Node

/-- A text that holds nothing is no document. -/
theorem plainDocument_of_blank {t : Text} (h : Blank t) :
    plainDocument (.ofText t) = .ok .null := by
  obtain ⟨a, hrow⟩ := Token.row_of_blank h
  unfold plainDocument ofFeed
  rw [hrow]
  rfl

/-- After the mark of a document, it is an empty one. -/
theorem plainDocument_of_dashes {ls t : Text} (lines : IdleLines ls) (h : Blank t)
    (apart : t.head? ≠ some (CodePoint.ofChar '#')) :
    plainDocument (.ofText (ls ++ (Token.dashes ++ t))) = .ok (.text []) := by
  obtain ⟨a, b, c, hrow⟩ := Token.row_of_dashes lines h apart
  unfold plainDocument ofFeed
  rw [hrow]
  rfl

end Node

end QuerySieve.Yaml
