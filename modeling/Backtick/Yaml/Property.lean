import Backtick.Text.Utf8
import Backtick.Yaml.Cursor
import Backtick.Yaml.Token

/-!
# Anchors, tags and directives

What can stand in front of a node or of a document: anchors name a node, tags say what sort of
value it is, and directives say how the document is to be read.
-/

namespace Backtick.Yaml

/-! ## Anchors and aliases -/

/-- What may follow the name of an anchor. -/
def endsAnchor (t : Text) : Bool :=
  endsWord t || next (fun c => among "?:,]%@" c || c.val == 0x7D || c.val == 0x60) t

/-- The name of an anchor or alias, behind its indicator. -/
def anchorName (c : Cursor) : Except Fault (Text × Cursor) :=
  let (name, c) := c.span isNameLetter
  if name.isEmpty || !endsAnchor c.rest then .error .document else .ok (name, c)

/-! ## Tags -/

/-- The characters of a tag. A percent sign begins a byte in hexadecimal. -/
def isTagLetter (c : CodePoint) : Bool :=
  c.isAlphanumeric || among "-;/?:@&=+$,_.!~*()[]" c || isApostrophe c

/-- The bytes that are written in hexadecimal at the beginning of a text. -/
def escapedBytes : Text → Except Fault (List UInt8 × Text)
  | p :: a :: b :: rest =>
    if p.is '%' then
      match a.hexValue?, b.hexValue? with
      | some x, some y =>
        (escapedBytes rest).map fun (bytes, rest) => (UInt8.ofNat (16 * x + y) :: bytes, rest)
      | _, _ => .error .document
    else .ok ([], p :: a :: b :: rest)
  | t => if next (·.is '%') t then .error .document else .ok ([], t)

/-- The characters of a tag at the beginning of a text, and the rest of the text. -/
def tagText (t : Text) : Except Fault (Text × Text) :=
  match t with
  | [] => .ok ([], [])
  | c :: rest =>
    if c.is '%' then
      match escapedBytes (c :: rest) with
      | .error f => .error f
      | .ok (bytes, rest') =>
        match Utf8.decode bytes with
        | .error _ => .error .document
        | .ok s =>
          if _h : rest'.length < (c :: rest).length then
            (tagText rest').map fun (s', behind) => (s ++ s', behind)
          else .error .document
    else if isTagLetter c then (tagText rest).map fun (s, behind) => (c :: s, behind)
    else .ok ([], c :: rest)
termination_by t.length
decreasing_by all_goals (simp only [List.length_cons] at *; omega)

/-- The characters of a tag, of which there has to be one. -/
def tagUri (c : Cursor) : Except Fault (Text × Cursor) := do
  let (uri, rest) ← tagText c.rest
  if uri.isEmpty then throw .document
  return (uri, c.skip (c.rest.length - rest.length))

/-- The handle of a tag: an exclamation mark, or a name between two of them. -/
def tagHandle (c : Cursor) : Except Fault (Text × Cursor) := do
  if !next (·.is '!') c.rest then throw .document
  let name := (c.rest.drop 1).takeWhile isNameLetter
  let behind := c.rest.drop (1 + name.length)
  if next (·.is '!') behind then
    return (c.rest.take (name.length + 2), c.skip (name.length + 2))
  else if next isSpace (c.rest.drop 1) then return (c.rest.take 1, c.advance)
  else throw .document

/-- A word in front of the next blank holds an exclamation mark. -/
def hasHandle (t : Text) : Bool :=
  (t.takeWhile fun c => !isSpace c && !isBreak c).any (·.is '!')

/-- A tag, with its indicator. -/
def tagName (c : Cursor) : Except Fault (TagName × Cursor) := do
  let behind := c.rest.drop 1
  let (name, c) ←
    if next (·.is '<') behind then do
      let (uri, c) ← tagUri (c.skip 2)
      if !next (·.is '>') c.rest then throw .document
      pure (TagName.full uri, c.advance)
    else if endsWord behind then pure (TagName.full "!", c.advance)
    else do
      let (handle, c) ← if hasHandle behind then tagHandle c else pure (c.rest.take 1, c.advance)
      let (suffix, c) ← tagUri c
      pure (TagName.short handle suffix, c)
  if endsField c.rest then return (name, c) else throw .document

/-! ## Directives -/

/-- A number of a version. -/
def versionNumber (c : Cursor) : Except Fault (Nat × Cursor) :=
  let (digits, c) := c.span CodePoint.isDigit
  if digits.isEmpty then .error .document
  else .ok (digits.foldl (fun n d => 10 * n + (d.val - 0x30)) 0, c)

/-- The version that a document is written in. -/
def versionDirective (c : Cursor) : Except Fault (Directive × Cursor) := do
  let (major, c) ← versionNumber (c.skipWhile isSpace)
  if !next (·.is '.') c.rest then throw .document
  let (_, c) ← versionNumber c.advance
  if !endsField c.rest then throw .document
  return (.version major, c)

/-- A handle and what it stands for. -/
def handleDirective (c : Cursor) : Except Fault (Directive × Cursor) := do
  let (handle, c) ← tagHandle (c.skipWhile isSpace)
  if !next isSpace c.rest then throw .document
  let (start, c) ← tagUri (c.skipWhile isSpace)
  if !endsField c.rest then throw .document
  return (.handle handle start, c)

/-- A directive, with its indicator and the rest of its line. -/
def directive (c : Cursor) : Except Fault (Directive × Cursor) := do
  let (name, c) := c.advance.span isNameLetter
  if name.isEmpty || !endsField c.rest then throw .document
  let (d, c) ←
    if name == ("YAML" : Text) then versionDirective c
    else if name == ("TAG" : Text) then handleDirective c
    else pure (.unknown, c.skipWhile (!isBreak ·))
  return (d, ← c.skipLineEnd)

end Backtick.Yaml
