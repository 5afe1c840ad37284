-- The surroundings of a run: files and directories, the working directory, the
-- homes of users, and the environment variables. Reading and writing are functions on this value,
-- and a path that cannot be followed is refused with a reason. Permissions and symbolic links are
-- left out, so what is there can be read and written by all. Names that are no UTF-8 are left out
-- too: nothing is found at a path with surrogates that stand for such octets, and nothing is made.
import QuerySieve.Path
import QuerySieve.Text.Quoted
import QuerySieve.Text.Utf8
import QuerySieve.Value

namespace QuerySieve

/-! ## Refusals -/

/-- Why the file system refuses a path. -/
inductive Refusal
  | missing
  | exists_
  | notDirectory
  | isDirectory
  | nameTooLong
  deriving DecidableEq, Repr

def Refusal.number : Refusal → Nat
  | .missing => 2
  | .exists_ => 17
  | .notDirectory => 20
  | .isDirectory => 21
  | .nameTooLong => 36

def Refusal.kind : Refusal → Text
  | .missing => "FileNotFoundError"
  | .exists_ => "FileExistsError"
  | .notDirectory => "NotADirectoryError"
  | .isDirectory => "IsADirectoryError"
  | .nameTooLong => "OSError"

def Refusal.phrase : Refusal → Text
  | .missing => "No such file or directory"
  | .exists_ => "File exists"
  | .notDirectory => "Not a directory"
  | .isDirectory => "Is a directory"
  | .nameTooLong => "File name too long"

/-- What a path is wanted for. -/
inductive PathUse
  | look
  | read
  | make
  deriving DecidableEq, Repr

/-- Why nothing can be done with a path. -/
inductive PathError
  | refused (r : Refusal) (path : Text)
  /-- The path holds a zero. -/
  | zero (use : PathUse)
  | unencodable (e : Unencodable)
  /-- The path names the home of a user that is not known. -/
  | homeUnknown
  deriving DecidableEq, Repr

namespace PathError

def kind : PathError → Text
  | .refused r _ => r.kind
  | .zero _ => "ValueError"
  | .unencodable _ => "UnicodeEncodeError"
  | .homeUnknown => "RuntimeError"

def message : PathError → Text
  | .refused r path =>
    "[Errno " ++ Text.ofNat r.number ++ "] " ++ r.phrase ++ ": " ++ path.quoted
  | .zero .look => "stat: embedded null character in path"
  | .zero .read => "embedded null byte"
  | .zero .make => "mkdir: embedded null character in path"
  | .unencodable e => e.message
  | .homeUnknown => "Could not determine home directory."

end PathError

/-! ## The world -/

inductive Entry
  | directory
  | file (content : Bytes)
  deriving DecidableEq, Repr

structure World where
  /-- The working directory. -/
  work : Path
  /-- The home of the user. -/
  home : Path
  /-- The homes of other users. -/
  users : List (Text × Path) := []
  /-- What is there, by absolute path. The directories that an entry is in are there too. -/
  entries : List (Path × Entry) := []
  environment : List (Text × Text) := []

namespace World

/-- The value of an environment variable. -/
def valueOf? (w : World) (name : Text) : Option Text := Pairs.find? name w.environment

/-- One path is below another. -/
def isBelow (top p : Path) : Bool :=
  p.root = top.root && top.parts.length < p.parts.length && top.parts.isPrefixOf p.parts

/-- What is at an absolute path. -/
def entry? (w : World) (p : Path) : Option Entry :=
  match w.entries.find? fun e => e.1 = p with
  | some e => some e.2
  | none =>
    if p.parts.isEmpty || p = w.work || p = w.home || w.entries.any fun e => isBelow p e.1 then
      some .directory
    else none

/-! ## Following paths -/

/-- The most octets of a part, and of a path with the zero that ends it. -/
def partLimit : Nat := 255
def pathLimit : Nat := 4096

/-- The place that two points lead to. -/
def above (p : Path) : Path :=
  if p.parts.isEmpty then
    (if p.root = [Path.slash] then p else ⟨p.root ++ [Path.slash] ++ Text.ofString "..", []⟩)
  else p.parent

/-- Goes on from an absolute path, part by part. Only a directory can be gone on from. -/
def follow (w : World) : Path → List Text → Except Refusal Path
  | p, [] => .ok p
  | p, part :: rest =>
    match w.entry? p with
    | none => .error .missing
    | some (.file _) => .error .notDirectory
    | some .directory =>
      if part = Text.ofString ".." then follow w (above p) rest
      else if partLimit < part.utf8.length then .error .nameTooLong
      else follow w ⟨p.root, p.parts ++ [part]⟩ rest

/-- The absolute path that a path leads to. -/
def resolve (w : World) (p : Path) : Except Refusal Path :=
  if pathLimit ≤ p.shown.utf8.length then .error .nameTooLong
  else if p.root.isEmpty then w.follow w.work p.parts
  else w.follow ⟨if p.root = [Path.slash, Path.slash] then [Path.slash] else p.root, []⟩ p.parts

/-- Refuses a path that the system cannot be asked about, and one with octets that no name has. -/
def ensureAskable (use : PathUse) (p : Path) : Except PathError Unit :=
  match p.shown.firstUnescaped? with
  | some e => .error (.unencodable e)
  | none =>
    if p.shown.contains (CodePoint.ofNat 0) then .error (.zero use)
    else
      match p.shown.encode, use with
      | .ok _, _ => .ok ()
      | .error e, .make => .error (.unencodable e)
      | .error _, _ => .error (.refused .missing p.shown)

/-- The place that a path leads to, and what is there. -/
def locate (w : World) (use : PathUse) (p : Path) : Except PathError (Path × Option Entry) := do
  ensureAskable use p
  match w.resolve p with
  | .error r => .error (.refused r p.shown)
  | .ok q => .ok (q, w.entry? q)

/-! ## Reading -/

/-- What is at a path. -/
def look (w : World) (p : Path) : Except PathError Entry := do
  match ← w.locate .look p with
  | (_, some e) => .ok e
  | (_, none) => .error (.refused .missing p.shown)

/-- Whether something is at a path. A path that cannot be written has nothing at it, but one that is
too long is refused. -/
def exists? (w : World) (p : Path) : Except PathError Bool :=
  match w.look p with
  | .ok _ => .ok true
  | .error (.refused .nameTooLong path) => .error (.refused .nameTooLong path)
  | .error _ => .ok false

/-- The content of the file at a path. -/
def read (w : World) (p : Path) : Except PathError Bytes := do
  match ← w.locate .read p with
  | (_, some (.file content)) => .ok content
  | (_, some .directory) => .error (.refused .isDirectory p.shown)
  | (_, none) => .error (.refused .missing p.shown)

/-! ## Writing -/

/-- Puts an entry at an absolute path. -/
def put (w : World) (p : Path) (e : Entry) : World :=
  if w.entries.any fun old => old.1 = p then
    { w with entries := w.entries.map fun old => if old.1 = p then (p, e) else old }
  else { w with entries := w.entries ++ [(p, e)] }

/-- Makes one directory. -/
def makeDirectory (w : World) (p : Path) : Except PathError World := do
  match ← w.locate .make p with
  | (_, some _) => .error (.refused .exists_ p.shown)
  | (q, none) => .ok (w.put q .directory)

/-- Whether a directory is at a path. -/
def isDirectory (w : World) (p : Path) : Bool :=
  match w.look p with
  | .ok .directory => true
  | _ => false

/-- Makes a directory and the ones it is in, as far as they are missing. It is no error if
it is there. -/
def makeDirectories (w : World) (p : Path) : Except PathError World := go p.parts.length p w
where
  /-- Makes one directory that may be there. -/
  settle (p : Path) (w : World) : Except PathError World :=
    match w.makeDirectory p with
    | .error (.refused r path) =>
      if r ≠ .missing && w.isDirectory p then .ok w else .error (.refused r path)
    | result => result
  /-- Makes at most so many directories around one that is missing. -/
  go : Nat → Path → World → Except PathError World
    | 0, p, w => settle p w
    | fuel + 1, p, w =>
      match settle p w with
      | .error (.refused .missing path) =>
        if p.parts.isEmpty then .error (.refused .missing path)
        else match go fuel p.parent w with
          | .error e => .error e
          | .ok w => settle p w
      | result => result

/-- Adds to the end of the file at a path, which is made if it is missing. -/
def append (w : World) (p : Path) (more : Bytes) : Except PathError World := do
  match ← w.locate .read p with
  | (q, some (.file content)) => .ok (w.put q (.file (content ++ more)))
  | (_, some .directory) => .error (.refused .isDirectory p.shown)
  | (q, none) => .ok (w.put q (.file more))

/-! ## Homes -/

/-- The path with a leading tilde replaced by a home. -/
def expandHome (w : World) (p : Path) : Except PathError Path :=
  match p.root, p.parts with
  | [], part :: rest =>
    match Text.dropLead? "~" part with
    | none => .ok p
    | some [] => .ok ⟨w.home.root, w.home.parts ++ rest⟩
    | some user =>
      match Pairs.find? user w.users with
      | some home => .ok ⟨home.root, home.parts ++ rest⟩
      | none => .error .homeUnknown
  | _, _ => .ok p

/-- The absolute path with two points taken back, as far as it is written. -/
def absolute (w : World) (p : Path) : Path :=
  let whole := w.work.join p
  ⟨whole.root, (whole.parts.foldl (fun parts part =>
    if part = Text.ofString ".." then parts.dropLast else parts ++ [part]) [])⟩

end World

end QuerySieve
