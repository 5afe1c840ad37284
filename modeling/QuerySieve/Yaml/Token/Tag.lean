-- Anchors, aliases, tags and directives.
import QuerySieve.Yaml.Token.Block

namespace QuerySieve.Yaml.Token

/-! ## Anchors and aliases -/

/-- Takes a name of letters, digits, dashes and underscores, which one of some
code points has to follow. -/
def takeName (activity : Activity) (start : Mark) (follows : CodePoint → Bool) : Reader Text := do
  let name ← takeWhile isNameChar
  let c ← peek
  if name.isEmpty || !follows c then failSince activity start (.wanted .nameCharacter c)
  return name

/-- What may follow the name of an anchor or of an alias. -/
def endsAnchor (c : CodePoint) : Bool := isBlankBreakOrEnd c || isOneOf "?:,]\x7d%@`" c

/-- Takes an anchor or an alias. -/
def takeAnchor (activity : Activity) (kind : Text → Kind) : Reader Token := do
  let start ← here
  skip
  let name ← takeName activity start endsAnchor
  return ⟨kind name, start, ← here⟩

/-! ## Addresses -/

/-- The code points of an address, the percent sign apart. -/
def isAddressChar (c : CodePoint) : Bool :=
  c.isAsciiUpper || c.isAsciiLower || c.isAsciiDigit || isOneOf "-;/?:@&=+$,_.!~*'()[]" c

/-- Takes octets that are written as escapes, one after another. -/
def takeEscapedOctets (activity : Activity) (start : Mark) : Nat → Reader Bytes
  | 0 => return []
  | fuel + 1 => do
    if (← peek) ≠ '%' then return []
    skip
    let digits := (← get).rest.take 2
    let good := (digits.takeWhile isHex).length
    if good < 2 then failSince activity start (.wanted .addressEscape (← peek good))
    skip 2
    return (hexNumber digits).toUInt8 :: (← takeEscapedOctets activity start fuel)
where
  /-- The number that hexadecimal digits write. -/
  hexNumber (t : Text) : Nat := t.foldl (fun n c => n * 16 + hexValue c) 0

/-- Takes the text that escaped octets are the UTF-8 form of. -/
def takeEscapedText (activity : Activity) (start : Mark) : Reader Text := do
  let mark ← here
  match Bytes.decode (← takeEscapedOctets activity start (← get).rest.length) with
  | .ok t => return t
  | .error e =>
    throw (.complaint {
      stage := .tokens, during := some (activity, some start), problem := .addressNotUtf8 e, mark })

/-- Takes an address. `inside` says what goes on in an escape, and `whole` in
the address as a whole. -/
def takeAddress (inside whole : Activity) (start : Mark) : Reader Text := do
  let (address, parts) ← go (← get).rest.length
  if parts = 0 then failSince whole start (.wanted .address (← peek))
  return address
where
  /-- Takes at most so many parts, and counts them. -/
  go : Nat → Reader (Text × Nat)
    | 0 => return ([], 0)
    | fuel + 1 => do
      let run ← takeWhile isAddressChar
      if (← peek) = '%' then
        let t ← takeEscapedText inside start
        let (more, parts) ← go fuel
        return (run ++ t ++ more, parts + 1)
      else return (run, if run.isEmpty then 0 else 1)

/-! ## Tags -/

/-- Takes the handle of a tag, with its exclamation marks. -/
def takeHandle (activity : Activity) (start : Mark) : Reader Text := do
  let c ← peek
  unless c = '!' do failSince activity start (.wanted .exclamation c)
  if (← peek 1) = ' ' then take 1
  else
    let s ← get
    let n := ((s.rest.drop 1).takeWhile isNameChar).length + 1
    let c ← peek n
    if c = '!' then take (n + 1)
    else
      skip n
      failSince activity start (.wanted .exclamation c)

/-- Takes a tag. -/
def takeTag : Reader Token := do
  let start ← here
  let c ← peek 1
  let tag ←
    if c = '<' then takeVerbatim start
    else if isBlankBreakOrEnd c then do
      skip
      pure ⟨none, ['!']⟩
    else takeShort start
  let c ← peek
  unless isSpaceBreakOrEnd c do failSince .tag start (.wanted .blank c)
  return ⟨.tag tag, start, ← here⟩
where
  /-- Takes an address between angle brackets. -/
  takeVerbatim (start : Mark) : Reader RawTag := do
    skip 2
    let suffix ← takeAddress .tag .tagAddress start
    let c ← peek
    unless c = '>' do failSince .tagAddress start (.wanted .tagEnd c)
    skip
    return ⟨none, suffix⟩
  /-- Takes a handle, which is one exclamation mark if no other follows, and the
  rest of the tag. -/
  takeShort (start : Mark) : Reader RawTag := do
    let word := ((← get).rest.drop 1).takeWhile fun c => !isSpaceBreakOrEnd c
    let handle ← if word.contains '!' then takeHandle .tag start else take 1
    let suffix ← takeAddress .tag .tagAddress start
    return ⟨some handle, suffix⟩

/-! ## Directives -/

/-- The most digits that a number may have. -/
def digitLimit : Nat := 4300

/-- Takes a number of a version. -/
def takeVersionNumber (start : Mark) : Reader Nat := do
  let c ← peek
  unless c.isAsciiDigit do failSince .directive start (.wanted .digit c)
  let n ← runLength CodePoint.isAsciiDigit
  if digitLimit < n then throw (.scalar (.tooManyDigits n))
  let digits ← take n
  return digits.foldl (fun v d => v * 10 + (d.val - 0x30)) 0

/-- Takes the version that a document asks for. -/
def takeVersion (start : Mark) : Reader Directive := do
  skipWhile (· = ' ')
  let major ← takeVersionNumber start
  let c ← peek
  unless c = '.' do failSince .directive start (.wanted .digitOrPoint c)
  skip
  let minor ← takeVersionNumber start
  let c ← peek
  unless isSpaceBreakOrEnd c do failSince .directive start (.wanted .digitOrBlank c)
  return .version major minor

/-- Takes a handle and what it stands for. -/
def takeHandleMeaning (start : Mark) : Reader Directive := do
  skipWhile (· = ' ')
  let handle ← takeHandle .directive start
  let c ← peek
  unless c = ' ' do failSince .directive start (.wanted .blank c)
  skipWhile (· = ' ')
  let lead ← takeAddress .directive .directiveAddress start
  let c ← peek
  unless isSpaceBreakOrEnd c do failSince .directive start (.wanted .blank c)
  return .tag handle lead

/-- Takes a directive with its line. -/
def takeDirective : Reader Token := do
  let start ← here
  skip
  let name ← takeName .directive start isSpaceBreakOrEnd
  let (directive, stop) ←
    if name = Text.ofString "YAML" then do
      let d ← takeVersion start
      pure (d, ← here)
    else if name = Text.ofString "TAG" then do
      let d ← takeHandleMeaning start
      pure (d, ← here)
    else do
      let stop ← here
      skipWhile fun c => !isBreakOrEnd c
      pure (Directive.other name, stop)
  skipLine .directive start
  return ⟨.directive directive, start, stop⟩

end QuerySieve.Yaml.Token
