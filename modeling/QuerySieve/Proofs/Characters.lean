-- The laws of queries that are texts. An ASCII octet stands in UTF-8 only as a character of its
-- own, so to cut the octets of a text at one is to cut the text. What is left of a text is a text,
-- and it is read without any replacement mark.
import QuerySieve.Proofs.Evaluations
import QuerySieve.Proofs.Outputs

namespace QuerySieve

/-! ## ASCII octets in UTF-8 -/

/-- The lead byte and the further bytes of a longer form are all past ASCII. -/
theorem Writes.mem_ascii {c : CodePoint} {lead x : UInt8} {tail : Bytes} (h : Writes c lead tail)
    (ascii : x.toNat < 0x80) (mem : x ∈ lead :: tail) : c.val = x.toNat := by
  cases h with
  | one low value =>
    rw [List.mem_singleton] at mem
    rw [mem, value]
  | @two b low high second value =>
    have hb := (isSecond_iff lead b).mp second
    simp only [List.mem_cons, List.not_mem_nil, or_false] at mem
    rcases mem with rfl | rfl <;> omega
  | @three b d low high second third value =>
    have hb := (isSecond_iff lead b).mp second
    have hd := (isContinuation_iff d).mp third
    simp only [List.mem_cons, List.not_mem_nil, or_false] at mem
    rcases mem with rfl | rfl | rfl <;> omega
  | @four b d e low high second third fourth value =>
    have hb := (isSecond_iff lead b).mp second
    have hd := (isContinuation_iff d).mp third
    have he := (isContinuation_iff e).mp fourth
    simp only [List.mem_cons, List.not_mem_nil, or_false] at mem
    rcases mem with rfl | rfl | rfl | rfl <;> omega

section

variable {x : UInt8} {sign : CodePoint} (ascii : x.toNat < 0x80) (same : sign.val = x.toNat)
include ascii same

namespace CodePoint

theorem utf8_of_ascii : sign.utf8 = [x] := by
  unfold utf8
  simp only
  rw [if_pos (by omega), toUInt8_eq same]

theorem mem_utf8_iff {c : CodePoint} (h : c.isSurrogate = false) : x ∈ c.utf8 ↔ c = sign := by
  constructor
  · intro mem
    obtain ⟨lead, tail, writes⟩ := exists_writes h
    rw [writes.utf8_eq] at mem
    exact Fin.ext ((writes.mem_ascii ascii mem).trans same.symm)
  · rintro rfl
    rw [utf8_of_ascii ascii same]
    exact List.mem_singleton_self x

end CodePoint

namespace Text

theorem mem_utf8_iff {t : Text} (h : t.Encodable) : x ∈ t.utf8 ↔ sign ∈ t := by
  rw [utf8, List.mem_flatMap]
  constructor
  · rintro ⟨c, hc, mem⟩
    rwa [← (CodePoint.mem_utf8_iff ascii same (h c hc)).mp mem]
  · intro mem
    exact ⟨sign, mem, (CodePoint.mem_utf8_iff ascii same (h sign mem)).mpr rfl⟩

theorem utf8_intercalate (ps : List Text) :
    utf8 ([sign].intercalate ps) = [x].intercalate (ps.map utf8) := by
  induction ps with
  | nil => rfl
  | cons p ps ih =>
    cases ps with
    | nil => simp
    | cons p' ps =>
      rw [List.map_cons, List.map_cons, List.intercalate_cons_cons, List.intercalate_cons_cons,
        ← List.map_cons, ← ih]
      have hsign : utf8 [sign] = [x] := by
        simp [utf8, CodePoint.utf8_of_ascii ascii same]
      rw [← hsign]
      simp [utf8]

/-- The pieces of the octets are the octets of the pieces. -/
theorem splitOn_utf8 {t : Text} (h : t.Encodable) :
    t.utf8.splitOn x = (t.splitOn sign).map utf8 := by
  have whole : ∀ p ∈ (t.splitOn sign).map utf8, x ∉ p := by
    intro p hp
    obtain ⟨piece, hpiece, rfl⟩ := List.mem_map.mp hp
    obtain ⟨notMem, sub⟩ := notMem_and_sublist_of_mem_splitOn hpiece
    rwa [mem_utf8_iff ascii same (h.sublist sub)]
  calc t.utf8.splitOn x
      = (utf8 ([sign].intercalate (t.splitOn sign))).splitOn x := by
        rw [List.intercalate_splitOn]
    _ = ([x].intercalate ((t.splitOn sign).map utf8)).splitOn x := by
        rw [utf8_intercalate ascii same]
    _ = (t.splitOn sign).map utf8 :=
        List.splitOn_intercalate x whole (by simp [List.splitOn_ne_nil])

/-- What stands before the first sign in the octets is what stands before it in the text. -/
theorem takeWhile_utf8 {t : Text} (h : t.Encodable) :
    t.utf8.takeWhile (· != x) = utf8 (t.takeWhile (· != sign)) := by
  induction t with
  | nil => rfl
  | cons c t ih =>
    obtain ⟨hc, ht⟩ := encodable_cons.mp h
    have hmem := CodePoint.mem_utf8_iff ascii same hc
    rw [utf8_cons]
    by_cases hsign : c = sign
    · rw [hsign, CodePoint.utf8_of_ascii ascii same]
      simp [utf8]
    · have before : ∀ b ∈ c.utf8, (b != x) = true := by
        intro b hb
        rw [bne_iff_ne]
        rintro rfl
        exact hsign (hmem.mp hb)
      rw [List.takeWhile_append_of_pos before, ih ht,
        List.takeWhile_cons_of_pos (by simpa using hsign), utf8_cons]

end Text

end

namespace Text

@[simp] theorem isEmpty_utf8 (t : Text) : t.utf8.isEmpty = t.isEmpty := by
  cases t with
  | nil => rfl
  | cons c t =>
    have hne : c.utf8 ≠ [] := by
      unfold CodePoint.utf8
      simp only
      split_ifs <;> exact List.cons_ne_nil _ _
    rw [utf8_cons, List.isEmpty_eq_false_iff.mpr (List.append_ne_nil_of_left_ne_nil hne _)]
    rfl

theorem encodable_intercalate {sep : Text} {ps : List Text} (hsep : sep.Encodable)
    (h : ∀ p ∈ ps, p.Encodable) : Encodable (sep.intercalate ps) := by
  induction ps with
  | nil => exact encodable_nil
  | cons p ps ih =>
    obtain ⟨hp, hps⟩ := List.forall_mem_cons.mp h
    cases ps with
    | nil => simpa using hp
    | cons p' ps =>
      rw [List.intercalate_cons_cons, encodable_append, encodable_append]
      exact ⟨⟨hp, hsep⟩, ih hps⟩

end Text

/-! ## Filtering a text -/

namespace Query

/-- The separator as a character. -/
def separatorSign : CodePoint := '&'

/-- The end of a key as a character. -/
def assignSign : CodePoint := '='

/-- Cuts a text into pieces and joins those that are not empty and whose key is accepted. Keys
are handed over as octets. -/
def filterText (accepts : Bytes → Bool) (t : Text) : Text :=
  [separatorSign].intercalate ((t.splitOn separatorSign).filter fun p =>
    !p.isEmpty && accepts (Text.utf8 (p.takeWhile (· != assignSign))))

section

variable {t : Text} (h : t.Encodable) (accepts : Bytes → Bool)
include h

theorem splitKey_utf8 : splitKey t.utf8 = Text.utf8 (t.takeWhile (· != assignSign)) :=
  Text.takeWhile_utf8 (x := assign) (by decide) (by decide) h

theorem encodable_of_mem_splitOn {p : Text} (hp : p ∈ t.splitOn separatorSign) : p.Encodable :=
  h.sublist (notMem_and_sublist_of_mem_splitOn hp).2

/-- To filter the octets of a text is to filter the text. -/
theorem utf8_filterText : Text.utf8 (filterText accepts t) =
    join ((segments t.utf8).filter fun s => accepts (splitKey s)) := by
  have pieces : t.utf8.splitOn separator = (t.splitOn separatorSign).map Text.utf8 :=
    Text.splitOn_utf8 (by decide) (by decide) h
  rw [filterText, Text.utf8_intercalate (x := separator) (by decide) (by decide),
    join_eq_intercalate, segments_eq, pieces, List.filter_filter, List.filter_map]
  congr 2
  apply List.filter_congr
  intro p hp
  simp only [Function.comp_apply, Text.isEmpty_utf8,
    splitKey_utf8 (encodable_of_mem_splitOn h hp), Bool.and_comm]

theorem encodable_filterText : (filterText accepts t).Encodable := by
  have sign : Text.Encodable [separatorSign] :=
    Text.encodable_cons.mpr ⟨by decide, Text.encodable_nil⟩
  apply Text.encodable_intercalate sign
  intro p hp
  exact encodable_of_mem_splitOn h (List.mem_filter.mp hp).1

end

end Query

namespace Definition

/-- What a definition leaves of a text. -/
def filteredText (d : Definition) (t : Text) : Text :=
  if d.isIdentity then t else Query.filterText d.keeps t

section

variable (d : Definition) {t : Text} (h : t.Encodable)
include h

theorem utf8_filteredText : Text.utf8 (d.filteredText t) = d.filtered t.utf8 := by
  unfold filteredText filtered
  split
  · rfl
  · exact Query.utf8_filterText h d.keeps

theorem encodable_filteredText : (d.filteredText t).Encodable := by
  unfold filteredText
  split
  · exact h
  · exact Query.encodable_filterText h d.keeps

theorem encode_filteredText : (d.filteredText t).encode = .ok (d.filtered t.utf8) :=
  Text.encode_eq_ok_iff.mpr ⟨d.encodable_filteredText h, d.utf8_filteredText h⟩

end

end Definition

/-! ## What a command reads back -/

open Command in
/-- A definition leaves of the octets of a text the octets of a text, so they are read back
without a replacement mark. It is the text itself where the definition keeps everything, and
otherwise the text is filtered as the octets are. This is what `apply` writes. -/
theorem what_is_left_of_a_text_is_the_filtered_text {r : Registry} {name : Text} {d : Definition}
    (found : r.lookup? name = some d) {q : Text} (encodable : q.Encodable) :
    ∃ b value u accepts, q.encode = .ok b ∧
      Gives (r.evaluate name b) (some ⟨value, d.volatile⟩) ∧
      (∀ key, Gives (d.shouldKeep key) (accepts key)) ∧
      u = (if d.isIdentity then q else Query.filterText accepts q) ∧
      value.decode = .ok u ∧ value.decodeReplacing = u ∧
      ∀ (s : Session) rules p, s.Rules rules p →
        (Registry.ofFile s.site.world p).ComesTo (.ok r) →
        (apply name q rules).Prints s (.ok ()) (outputLine u) := by
  have encodes : q.encode = .ok q.utf8 := Text.encode_eq_ok_iff.mpr ⟨encodable, rfl⟩
  have evaluates := Registry.evaluate_filtered found q.utf8
  have decodes : (d.filtered q.utf8).decode = .ok (d.filteredText q) :=
    Bytes.decode_eq_ok_iff.mpr (d.encode_filteredText encodable)
  have reads := Bytes.decodeReplacing_of_decode decodes
  refine ⟨_, _, _, d.keeps, encodes, evaluates, d.shouldKeep_gives, rfl, decodes, reads, ?_⟩
  intro s rules p named loads
  have prints := apply_prints named loads encodes evaluates
  rwa [reads] at prints

/-- Keeps all keys but one, which is no ASCII. -/
def dropAccent : Definition :=
  { initial := .all, initialSet := true, rules := [⟨.drop, .literal (Text.utf8 "é")⟩] }

def accentRegistry : Registry := ⟨[("f", dropAccent)]⟩

def accentRules : Bytes :=
  Text.utf8 "args_filters:\n  $f:\n    - initial all\n    - exclude é\n"

/-- A session where the block stands in a rules file. -/
def accentSession : Command.Session where
  site := { world := {
    work := ⟨"/", ["work"]⟩
    home := ⟨"/", ["home"]⟩
    entries := [(⟨"/", ["work", "r.yaml"]⟩, .file accentRules)] } }
  stamp := Command.noStamp

theorem accentRules_load :
    (Registry.ofFile accentSession.site.world (.ofText "r.yaml")).ComesTo (.ok accentRegistry) := by
  let document : Value := .ofPairs true
    [("args_filters", .ofPairs true [("$f", .list [.text "initial all", .text "exclude é"])])]
  let found : List (Text × List Directive) :=
    [("$f", [⟨"initial", [.text "all"]⟩, ⟨"exclude", [.text "é"]⟩])]
  have reads : accentSession.site.world.read (.ofText "r.yaml") = .ok accentRules := by decide
  have parses : Yaml.Node.plainDocument (.ofBytes accentRules) = .ok document := by
    decide +kernel
  have blocks : Document.blocks document = .ok found := by rfl
  have comes : (Document.registry document).ComesTo (.ok accentRegistry) := by
    unfold Document.registry
    rw [blocks]
    exact fun _ => rfl
  exact Registry.ofFile_of_document (Registry.contentOf_of_read reads) parses comes

/-- The moon is U+263D: both signs are part of its number, but no octet of it is one of them. -/
def moonQuery : Text := Text.ofString "☽=☽&é=☽&&ü"

theorem moons_are_kept_whole :
    accentRegistry.lookup? "f" = some dropAccent ∧ moonQuery.Encodable ∧
      ∃ b value, moonQuery.encode = .ok b ∧
        Gives (accentRegistry.evaluate "f" b) (some ⟨value, false⟩) ∧
        value.decodeReplacing = Text.ofString "☽=☽&ü" ∧
        (Command.apply "f" moonQuery (some "r.yaml")).Prints accentSession (.ok ()) "☽=☽&ü\n" := by
  have found : accentRegistry.lookup? "f" = some dropAccent := rfl
  have encodable : moonQuery.Encodable := Text.encodable_ofString _
  obtain ⟨b, value, u, accepts, encodes, evaluates, asked, hu, -, reads, prints⟩ :=
    what_is_left_of_a_text_is_the_filtered_text found encodable
  have keeps : accepts = dropAccent.keeps :=
    funext fun key => (asked key).unique (dropAccent.shouldKeep_gives key)
  have left : u = Text.ofString "☽=☽&ü" := by
    rw [hu, keeps]
    decide +kernel
  have line : Command.outputLine (Text.ofString "☽=☽&ü") = Text.ofString "☽=☽&ü\n" := by cbv
  have written := prints accentSession _ _ (.named "r.yaml") accentRules_load
  rw [left, line] at written
  exact ⟨found, encodable, b, value, encodes, evaluates, reads.trans left, written⟩

end QuerySieve
