-- The laws of what steps write to the output. A task on the registry of a rules file writes just the
-- lines that the registry makes up, whatever was logged before; and where there is no registry it
-- writes nothing, whichever task it is.
import QuerySieve.Proofs.Documents
import QuerySieve.Proofs.Printing
import QuerySieve.Proofs.Unread

namespace QuerySieve

/-! ## Loading -/

theorem Attempt.ComesTo.lift {α : Type} {step : Journaled α} {a : α} (h : Gives step a) :
    (liftM step : Attempt α).ComesTo (.ok a) := fun j => congrArg Except.ok (h j)

namespace Registry

theorem refuseDocument_comesTo (failure : Yaml.Complaint → Failure) (f : Yaml.Fault) :
    ∃ t, (refuseDocument failure f : Attempt Registry).ComesTo (.error t) := by
  cases f with
  | complaint c => exact ⟨_, .fail _⟩
  | undecodable e => exact ⟨_, .stray _⟩
  | scalar f => exact ⟨_, .stray _⟩

theorem contentOf_comesTo (w : World) (p : Path) : ∃ r, (contentOf w p).ComesTo r := by
  unfold contentOf
  split
  · exact ⟨_, .pure _⟩
  · exact ⟨_, .fail _⟩
  · exact ⟨_, .stray _⟩

theorem registry_comesTo (v : Value) : ∃ r, (Document.registry v).ComesTo r := by
  rcases Document.reads_or_illShaped v with ⟨found, reads⟩ | illShaped
  · obtain ⟨r, comes, -⟩ := Document.registry_of_reads reads
    exact ⟨r, comes⟩
  · obtain ⟨fault, silent⟩ := Document.registry_of_illShaped illShaped
    exact ⟨_, Attempt.Silent.comesTo silent⟩

theorem contentOf_of_read {w : World} {p : Path} {content : Bytes} (h : w.read p = .ok content) :
    (contentOf w p).ComesTo (.ok content) := by
  unfold contentOf
  rw [h]
  exact .pure content

section

variable {w : World} {p : Path} {content : Bytes}

/-- A file of a document comes to what the document comes to. -/
theorem ofFile_of_document {v : Value} {r : Except Trouble Registry}
    (reads : (contentOf w p).ComesTo (.ok content))
    (parses : Yaml.Node.plainDocument (.ofBytes content) = .ok v)
    (comes : (Document.registry v).ComesTo r) : (ofFile w p).ComesTo r := by
  apply Attempt.ComesTo.bind reads
  simp only [parses]
  cases r with
  | error t => exact .stop comes
  | ok r => exact .bind comes (.record _ _ _ (.pure r))

theorem ofFile_of_fault {f : Yaml.Fault} {t : Trouble}
    (reads : (contentOf w p).ComesTo (.ok content))
    (faulty : Yaml.Node.plainDocument (.ofBytes content) = .error f)
    (refuses : (refuseDocument (unreadable (" file " ++ p.shown) (some p.shown) ⟨p.shown, none⟩) f :
      Attempt Registry).ComesTo (.error t)) : (ofFile w p).ComesTo (.error t) := by
  apply Attempt.ComesTo.bind reads
  simp only [faulty]
  exact refuses

end

/-- Loading a rules file comes to a registry, to a failure or to a stray error. A registry is one
that a document makes up. -/
theorem ofFile_comesTo (w : World) (p : Path) :
    ∃ r, (ofFile w p).ComesTo r ∧ ∀ registry, r = .ok registry →
      ∃ v, (Document.registry v).ComesTo (.ok registry) := by
  obtain ⟨content, reads⟩ := contentOf_comesTo w p
  cases content with
  | error t => exact ⟨_, .stop reads, fun _ h => nomatch h⟩
  | ok content =>
    rcases parses : Yaml.Node.plainDocument (.ofBytes content) with f | v
    · obtain ⟨t, refuses⟩ := refuseDocument_comesTo
        (unreadable (" file " ++ p.shown) (some p.shown) ⟨p.shown, none⟩) f
      exact ⟨.error t, ofFile_of_fault reads parses refuses, fun _ h => nomatch h⟩
    · obtain ⟨r, comes⟩ := registry_comesTo v
      refine ⟨r, ofFile_of_document reads parses comes, ?_⟩
      rintro _ rfl
      exact ⟨v, comes⟩

/-- The names of a registry that was loaded are plain, and each stands in it once. -/
theorem named_of_ofFile {w : World} {p : Path} {r : Registry}
    (h : (ofFile w p).ComesTo (.ok r)) :
    Pairs.Distinct r.filters ∧ ∀ name ∈ r.names, Name.Plain name := by
  obtain ⟨r', comes, made⟩ := ofFile_comesTo w p
  obtain ⟨v, hv⟩ := made r (comes.unique h)
  obtain ⟨found, -, entered, distinct⟩ := Document.registry_eq_ok (hv (.empty .debug))
  refine ⟨distinct, ?_⟩
  intro name hname
  obtain ⟨f, hf, rfl⟩ := List.mem_map.mp ((r.mem_names name).mp hname)
  obtain ⟨b, -, hb⟩ := Reading.exists_of_forall₂ entered.flip f hf
  obtain ⟨name, -, plain, hkey⟩ := hb.named
  rw [hkey]
  exact plain.lower

end Registry

namespace Command

/-! ## Steps and what they write -/

/-- A line as it comes out in the output. -/
def outputLine (t : Text) : Text := Style.drop t ++ "\n"

namespace Step

variable {α β : Type} {s s' : Session} {r : Except Ending β}

/-- A step that is taken in a session ends so and writes just this to the output. -/
def Prints (step : Step α) (s : Session) (r : Except Ending α) (said : Text) : Prop :=
  ∃ s', step.Ends s r s' ∧ s'.output = s.output ++ said

namespace Prints

variable {said more : Text}

theorem of_ends {step : Step α} {r : Except Ending α} (h : step.Ends s r s')
    (same : s'.output = s.output) : step.Prints s r [] :=
  ⟨s', h, by rw [same, List.append_nil]⟩

theorem pure (a : α) (s : Session) : (Pure.pure a : Step α).Prints s (.ok a) [] :=
  .of_ends (.pure a) rfl

theorem exit (n : Nat) (s : Session) : (exit n : Step α).Prints s (.error (.code n)) [] :=
  .of_ends (.exit n) rfl

theorem break_ (t : Trouble) (s : Session) : (break_ t : Step α).Prints s (.error (.broken t)) [] :=
  ⟨s, rfl, (List.append_nil _).symm⟩

theorem bind {step : Step α} {next : α → Step β} {a : α} (hs : step.Prints s (.ok a) said)
    (hn : ∀ s', (next a).Prints s' r more) : (step >>= next).Prints s r (said ++ more) := by
  obtain ⟨s', ends, houtput⟩ := hs
  obtain ⟨s'', ends', houtput'⟩ := hn s'
  exact ⟨s'', .bind ends ends', by rw [houtput', houtput, List.append_assoc]⟩

theorem silent {step : Step α} {next : α → Step β} {a : α} (hs : step.Prints s (.ok a) [])
    (hn : ∀ s', (next a).Prints s' r said) : (step >>= next).Prints s r said := bind hs hn

/-- A step that writes nothing goes first. -/
theorem after {step : Step α} {next : α → Step β} {a : α} (hs : step.Ends s (.ok a) s')
    (same : s'.output = s.output) (hn : (next a).Prints s' r said) :
    (step >>= next).Prints s r said := by
  obtain ⟨s'', ends, houtput⟩ := hn
  exact ⟨s'', .bind hs ends, by rw [houtput, same]⟩

theorem stop {step : Step α} {next : α → Step β} {e : Ending}
    (hs : step.Prints s (.error e) said) : (step >>= next).Prints s (.error e) said := by
  obtain ⟨s', ends, houtput⟩ := hs
  exact ⟨s', .stop ends, houtput⟩

theorem write {t : Text} (h : (Style.drop t).Encodable) (s : Session) :
    (Step.write t).Prints s (.ok ()) (Style.drop t) := by
  unfold Step.write
  simp only [Text.encode_eq_ok_iff.mpr ⟨h, rfl⟩]
  exact ⟨_, .modify _, rfl⟩

theorem say {t : Text} (h : t.Encodable) (s : Session) :
    (say t).Prints s (.ok ()) (outputLine t) := by
  have line : (t ++ Text.ofString "\n").Encodable :=
    Text.encodable_append.mpr ⟨h, Text.encodable_ofString _⟩
  rw [outputLine, ← Style.drop_line]
  exact write (line.sublist (Style.drop_sublist _)) s

end Prints

/-! ## Attempts -/

/-- The session after an attempt: its records are delivered. -/
def told (a : Attempt α) (s : Session) : Session :=
  (a.run (Journal.empty .debug)).2.records.foldl deliver s

theorem told_output (a : Attempt α) (s : Session) : (told a s).output = s.output :=
  (foldl_deliver_keeps _ s).1

theorem perform_runs (a : Attempt α) (s : Session) :
    (perform a).Ends s (.ok (a.run (Journal.empty .debug)).1) (told a s) := rfl

theorem perform_ends {a : Attempt α} {r : Except Trouble α} (h : a.ComesTo r) (s : Session) :
    (perform a).Ends s (.ok r) (told a s) := by
  have runs := perform_runs a s
  rwa [show (a.run (Journal.empty .debug)).1 = r from h _] at runs

theorem require_prints {a : Attempt α} {x : α} (h : a.ComesTo (.ok x)) (s : Session) :
    (require a).Prints s (.ok x) [] :=
  .after (perform_ends h s) (told_output a s) (.pure x _)

end Step

/-! ## Rules files -/

section

variable {s : Session} {p : Path}

theorem refuse_prints {α : Type} (scope : Scope) (f : Fault) (s : Session) :
    (refuse scope f : Step α).Prints s (.error (.code 2)) [] := by
  refine .of_ends (Line.refuse_ends scope f s) ?_
  unfold Session.refused
  split
  · rfl
  · rfl

theorem Session.failed_output (s : Session) (p : Path) (f : Failure) :
    (s.failed p f).output = s.output := rfl

theorem loadRules_prints {r : Registry} (h : (Registry.ofFile s.site.world p).ComesTo (.ok r)) :
    (loadRules p).Prints s (.ok r) [] := by
  apply Step.Prints.after .get rfl
  apply Step.Prints.after (Step.perform_ends h s) (Step.told_output _ s)
  exact .pure r _

/-- The failure is told among the errors, after what was logged. -/
theorem loadRules_of_failure {f : Failure}
    (h : (Registry.ofFile s.site.world p).ComesTo (.error (.failure f))) :
    (loadRules p).Ends s (.error (.code 1))
      ((Step.told (Registry.ofFile s.site.world p) s).failed p f) := by
  apply Step.Ends.bind .get
  apply Step.Ends.bind (Step.perform_ends h s)
  exact .bind (.warn _) (.bind (.warn _) (.exit 1))

theorem loadRules_of_stray {e : Stray}
    (h : (Registry.ofFile s.site.world p).ComesTo (.error (.stray e))) :
    (loadRules p).Ends s (.error (.broken (.stray e)))
      (Step.told (Registry.ofFile s.site.world p) s) := by
  apply Step.Ends.bind .get
  apply Step.Ends.bind (Step.perform_ends h s)
  exact rfl

/-- Where the rules file cannot be loaded, so ends every task. -/
theorem Task.run_of_stop {t : Task} {e : Ending} {s' : Session} (rules : s.Rules t.rules p)
    (h : (loadRules p).Ends s (.error e) s') : t.run.Ends s (.error e) s' := by
  have hpath := rulesPath_ends rules
  cases t with
  | check named => exact .bind hpath (.stop h)
  | apply name query named => exact .bind hpath (.stop h)
  | show_ named layout => exact .bind hpath (.stop h)

end

/-! ## Tasks on a registry -/

/-- What is said of a rules file with a registry. -/
def compiledLine (r : Registry) : Text :=
  "[+] " ++ Text.ofNat r.size ++ " args_filter block(s) compiled"

def successLine (p : Path) : Text := "configuration file " ++ p.shown ++ " test is successful"

/-- How definitions are written in a layout. -/
def shownIn (r : Registry) : Layout → Text
  | .text => Text.join "\n" r.listing
  | .json => Json.indented r.layout

theorem encoded_prints {query : Text} {b : Bytes} (h : query.encode = .ok b) (s : Session) :
    (encoded query).Prints s (.ok b) [] := by
  unfold encoded
  rw [h]
  exact .pure b s

section

variable {s : Session} {p : Path} {r : Registry} {rules : Option Text}
variable (named : s.Rules rules p) (loads : (Registry.ofFile s.site.world p).ComesTo (.ok r))
include named loads

/-- A task writes what it does with the registry, once this is loaded. -/
theorem rules_prints {β : Type} {next : Path → Registry → Step β} {result : Except Ending β}
    {said : Text} (h : ∀ s, (next p r).Prints s result said) :
    (rulesPath rules >>= fun p => loadRules p >>= next p).Prints s result said := by
  apply Step.Prints.after (rulesPath_ends named) rfl
  exact .silent (loadRules_prints loads) h

theorem check_prints (shown : p.shown.Encodable) :
    (check rules).Prints s (.ok ()) (outputLine (compiledLine r) ++ outputLine (successLine p)) := by
  have compiled : (compiledLine r).Encodable := by simp [compiledLine]
  have success : (successLine p).Encodable := by simp [successLine, shown]
  apply rules_prints named loads
  exact fun s => .bind (.say compiled s) (.say success)

theorem showRules_prints (layout : Layout) :
    (showRules rules layout).Prints s (.ok ()) (outputLine (shownIn r layout)) := by
  have shown : (shownIn r layout).Encodable := by
    cases layout with
    | json => exact (Json.isPlain_write _ _ _).encodable
    | text =>
      obtain ⟨-, plain⟩ := Registry.named_of_ofFile loads
      apply Text.forall_mem_join (Text.encodable_ofString _)
      apply Registry.encodable_listing
      exact fun name hname => Text.encodable_of_isAscii (plain name hname).isAscii
  apply rules_prints named loads
  intro s
  cases layout with
  | json => exact .say shown s
  | text => exact .say shown s

theorem apply_prints {name query : Text} {b : Bytes} {e : Evaluated}
    (encodes : query.encode = .ok b) (evaluates : Gives (r.evaluate name b) (some e)) :
    (apply name query rules).Prints s (.ok ()) (outputLine e.value.decodeReplacing) := by
  apply rules_prints named loads
  intro s
  apply Step.Prints.silent (encoded_prints encodes s)
  intro s
  apply Step.Prints.silent (Step.require_prints (.lift evaluates) s)
  exact .say (Bytes.encodable_decodeReplacing _)

theorem apply_of_unknown {name query : Text} {b : Bytes} (encodes : query.encode = .ok b)
    (evaluates : Gives (r.evaluate name b) none) :
    (apply name query rules).Prints s (.error (.code 1)) [] := by
  apply rules_prints named loads
  intro s
  apply Step.Prints.silent (encoded_prints encodes s)
  intro s
  apply Step.Prints.silent (Step.require_prints (.lift evaluates) s)
  exact fun s => .after (.warn _) rfl (.exit 1 _)

/-- A query without a UTF-8 form breaks the session off, whether its name is known or not. -/
theorem apply_of_unencodable {name query : Text} {e : Unencodable}
    (fails : query.encode = .error e) :
    (apply name query rules).Prints s (.error (.broken (.stray (.unencodable e)))) [] := by
  have broken : ∀ s, (encoded query).Prints s (.error (.broken (.stray (.unencodable e)))) [] := by
    unfold encoded
    rw [fails]
    exact .break_ _
  apply rules_prints named loads
  exact fun s => .stop (broken s)

end

end Command

end QuerySieve
