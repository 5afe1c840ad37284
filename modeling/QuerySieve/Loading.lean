-- Registries from rules texts and rules files. What is no rules document at all is a
-- failure that names the text or the file; bytes that are no UTF-8 are a stray
-- error.
import QuerySieve.Document
import QuerySieve.Yaml.Plain

namespace QuerySieve

/-! ## Faults of documents -/

/-- The failure for a complaint about a document. What was read is named, and a file has
its path. -/
def unreadable (what : Text) (path : Option Text) (source : Yaml.Source) (c : Yaml.Complaint) :
    Failure :=
  let said := c.message source
  { kind := .file path
    message := "invalid YAML in args_filter rules" ++ what ++ ": " ++ said
    cause := some ⟨c.stage.kind, said⟩ }

/-- Ends in what a fault of a document amounts to. -/
def refuseDocument {α : Type} (failure : Yaml.Complaint → Failure) : Yaml.Fault → Attempt α
  | .complaint c => Attempt.fail (failure c)
  | .undecodable e => Attempt.stray (.undecodable e)
  | .scalar f => Attempt.stray (.scalar f)

namespace Registry

/-! ## Texts -/

/-- The name of a document that is no file. -/
def textName : Text := "<unicode string>"

/-- The registry of a rules text. -/
def ofText (t : Text) : Attempt Registry :=
  match Yaml.Node.plainDocument (.ofText t) with
  | .error f => refuseDocument (unreadable [] none ⟨textName, some t⟩) f
  | .ok v => Document.registry v

/-! ## Files -/

/-- The failure for a file that the system does not hand out. -/
def cannotRead (path : Text) (e : PathError) : Failure :=
  { kind := .file (some path)
    message := "cannot read args_filter rules file " ++ path ++ ": " ++ e.message
    cause := some ⟨e.kind, e.message⟩ }

/-- The content of a rules file. -/
def contentOf (w : World) (p : Path) : Attempt Bytes :=
  match w.read p with
  | .ok content => return content
  | .error (.refused r path) => Attempt.fail (cannotRead p.shown (.refused r path))
  | .error e => Attempt.stray (.path e)

/-- The registry of a rules file. -/
def ofFile (w : World) (p : Path) : Attempt Registry := do
  let content ← contentOf w p
  match Yaml.Node.plainDocument (.ofBytes content) with
  | .error f => refuseDocument (unreadable (" file " ++ p.shown) (some p.shown) ⟨p.shown, none⟩) f
  | .ok v =>
    let r ← Document.registry v
    record .debug "argsfilter.loader"
      ("Loaded " ++ Text.ofNat r.size ++ " args_filter block(s) from " ++ p.shown)
    return r

end Registry

end QuerySieve
