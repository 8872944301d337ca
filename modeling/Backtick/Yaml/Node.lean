import Backtick.Yaml.Layout
import Backtick.Yaml.Tag

/-!
# Nodes of a document

The tree that the tokens of a document describe: scalars, sequences and mappings with their tags,
and in the place of every alias the node that it names. Nodes that are left out are empty scalars.
A mapping is known by its number, which is how many tokens are left where it begins; an alias of it
has the same number, because it is the same mapping.

## Termination

Nodes are read from a list of tokens. Whatever is read takes tokens from it; what could be read
without taking any ends in a fault.
-/

namespace Backtick.Yaml

/-- A node. -/
inductive Node where
  | scalar (tag : Tag) (text : Text)
  | sequence (tag : Tag) (items : List Node)
  | mapping (tag : Tag) (number : Nat) (entries : List (Node × Node))
  /-- an alias of a node that it lies in -/
  | enclosing

/-- The tokens that are left, and the nodes that have an anchor; a node that is being read has none
yet. -/
structure Stream where
  tokens : List Token
  anchors : List (Text × Option Node) := []

/-- What the handles of tags stand for. -/
abbrev Handles := List (Text × Text)

/-- A reading of something from a stream. -/
abbrev FromStream (α : Type) := Except Fault (α × Stream)

namespace Node

/-- The node that is left out. -/
def empty : Node := .scalar .null []

/-! ## Properties -/

/-- The properties of a node: its anchor and its tag. -/
structure Properties where
  anchor : Option Text := none
  /-- `some none` leaves the choice of a tag to the node -/
  tag : Option (Option Tag) := none

/-- The tag with a name. The exclamation mark alone leaves the choice open. -/
def tagOf (handles : Handles) (name : TagName) : Except Fault (Option Tag) :=
  let ofUri (uri : Text) : Option Tag := if uri == ("!" : Text) then none else some (.ofUri uri)
  match name with
  | .full uri => .ok (ofUri uri)
  | .short handle suffix =>
    match handles.find? (·.1 == handle) with
    | some (_, start) => .ok (ofUri (start ++ suffix))
    | none => .error .document

/-- The properties of a node, in either order. -/
def properties (handles : Handles) : List Token → Except Fault (Properties × List Token)
  | .anchor a :: .tag t :: rest | .tag t :: .anchor a :: rest =>
    (tagOf handles t).map fun t => ({ anchor := some a, tag := some t }, rest)
  | .anchor a :: rest => .ok ({ anchor := some a }, rest)
  | .tag t :: rest => (tagOf handles t).map fun t => ({ tag := some t }, rest)
  | rest => .ok ({}, rest)

/-- The tag of a collection. -/
def Properties.collectionTag (p : Properties) (standard : Tag) : Tag :=
  p.tag.join.getD standard

/-- The tag of a scalar. -/
def Properties.scalarTag (p : Properties) (plain : Bool) (t : Text) : Tag :=
  match p.tag with
  | some (some tag) => tag
  | some none => .ofPlain t
  | none => if plain then .ofPlain t else .text

/-- The node has a property. -/
def Properties.areGiven (p : Properties) : Bool := p.anchor.isSome || p.tag.isSome

/-- Begins a node with an anchor, which no other node may have. -/
def openAnchor (p : Properties) (s : Stream) : Except Fault Stream :=
  match p.anchor with
  | none => .ok s
  | some a =>
    if s.anchors.any (·.1 == a) then .error .document
    else .ok { s with anchors := (a, none) :: s.anchors }

/-- Ends a node with an anchor. -/
def closeAnchor (p : Properties) (n : Node) (s : Stream) : Stream :=
  match p.anchor with
  | none => s
  | some a =>
    { s with
      anchors := s.anchors.map fun (name, m) => if name == a then (name, some n) else (name, m) }

/-- The node that an alias names. -/
def aliased (s : Stream) (name : Text) : Except Fault Node :=
  match s.anchors.find? (·.1 == name) with
  | none => .error .document
  | some (_, none) => .ok .enclosing
  | some (_, some n) => .ok n

/-! ## Collections -/

/-- The next token is one of some. -/
def nextIs (s : Stream) (ts : List Token) : Bool := s.tokens.head?.any (ts.contains ·)

/-- The stream behind the comma that separates parts of a flow collection, or at its end. -/
def afterComma (first : Bool) (closing : Token) (s : Stream) : Except Fault Stream :=
  match s.tokens with
  | .comma :: rest => if first then .ok s else .ok { s with tokens := rest }
  | t :: _ => if first || t == closing then .ok s else .error .document
  | [] => .error .document

mutual

/-- A node. Where items of a sequence stand in for a block, they may begin at once. -/
def read (handles : Handles) (indentless : Bool) (s : Stream) : FromStream Node :=
  match s.tokens with
  | .alias name :: rest => (aliased s name).map (·, { s with tokens := rest })
  | _ =>
    match properties handles s.tokens with
    | .error f => .error f
    | .ok (p, rest) =>
      match openAnchor p { s with tokens := rest } with
      | .error f => .error f
      | .ok s' =>
        if _h : s'.tokens.length ≤ s.tokens.length then
          (content handles indentless p s').map fun (n, s') => (n, closeAnchor p n s')
        else .error .document
termination_by 8 * s.tokens.length + 2
decreasing_by omega

/-- What follows the properties of a node. -/
def content (handles : Handles) (indentless : Bool) (p : Properties) (s : Stream) :
    FromStream Node :=
  let collect {α : Type} (make : List α → Node) (r : FromStream (List α)) : FromStream Node :=
    r.map fun (xs, s) => (make xs, s)
  let sequence := collect (.sequence (p.collectionTag .sequence))
  let mapping := collect (.mapping (p.collectionTag .mapping) s.tokens.length)
  match _h : s.tokens with
  | .scalar plain t :: rest => .ok (.scalar (p.scalarTag plain t) t, { s with tokens := rest })
  | .flowSequence :: rest => sequence (flowItems handles true { s with tokens := rest })
  | .flowMapping :: rest => mapping (flowEntries handles true { s with tokens := rest })
  | .blockSequence :: rest => sequence (blockItems handles { s with tokens := rest })
  | .blockMapping :: rest => mapping (blockEntries handles { s with tokens := rest })
  | .item :: _ =>
    if indentless then sequence (looseItems handles s)
    else if p.areGiven then .ok (.scalar (p.scalarTag true []) [], s)
    else .error .document
  | _ =>
    if p.areGiven then .ok (.scalar (p.scalarTag true []) [], s) else .error .document
termination_by 8 * s.tokens.length + 1
decreasing_by all_goals (simp_all <;> omega)

/-- A node, or nothing in front of some tokens. -/
def optional (handles : Handles) (indentless : Bool) (stops : List Token) (s : Stream) :
    FromStream Node :=
  if nextIs s stops then .ok (empty, s) else read handles indentless s
termination_by 8 * s.tokens.length + 3
decreasing_by omega

/-- The items of a block. -/
def blockItems (handles : Handles) (s : Stream) : FromStream (List Node) :=
  match _h : s.tokens with
  | .item :: rest =>
    match optional handles false [.item, .blockEnd] { s with tokens := rest } with
    | .error f => .error f
    | .ok (n, s') =>
      if _h' : s'.tokens.length < s.tokens.length then
        (blockItems handles s').map fun (ns, s') => (n :: ns, s')
      else .error .document
  | .blockEnd :: rest => .ok ([], { s with tokens := rest })
  | _ => .error .document
termination_by 8 * s.tokens.length + 0
decreasing_by all_goals (simp_all <;> omega)

/-- The items of a sequence in the place of a block. -/
def looseItems (handles : Handles) (s : Stream) : FromStream (List Node) :=
  match _h : s.tokens with
  | .item :: rest =>
    match optional handles false [.item, .key, .value, .blockEnd] { s with tokens := rest } with
    | .error f => .error f
    | .ok (n, s') =>
      if _h' : s'.tokens.length < s.tokens.length then
        (looseItems handles s').map fun (ns, s') => (n :: ns, s')
      else .error .document
  | _ => .ok ([], s)
termination_by 8 * s.tokens.length + 0
decreasing_by all_goals (simp_all <;> omega)

/-- The value of a key. -/
def entryValue (handles : Handles) (indentless : Bool) (stops : List Token) (s : Stream) :
    FromStream Node :=
  match _h : s.tokens with
  | .value :: rest => optional handles indentless stops { s with tokens := rest }
  | _ => .ok (empty, s)
termination_by 8 * s.tokens.length + 0
decreasing_by
  simp only [_h, List.length_cons]
  omega

/-- The entries of a block. An entry may lack its value, or have an empty key. -/
def blockEntries (handles : Handles) (s : Stream) : FromStream (List (Node × Node)) :=
  match _h : s.tokens with
  | .key :: rest =>
    match optional handles true [.key, .value, .blockEnd] { s with tokens := rest } with
    | .error f => .error f
    | .ok (k, s₁) =>
      if _h₁ : s₁.tokens.length < s.tokens.length then
        match entryValue handles true [.key, .value, .blockEnd] s₁ with
        | .error f => .error f
        | .ok (v, s₂) =>
          if _h₂ : s₂.tokens.length < s.tokens.length then
            (blockEntries handles s₂).map fun (es, s') => ((k, v) :: es, s')
          else .error .document
      else .error .document
  | .blockEnd :: rest => .ok ([], { s with tokens := rest })
  | _ => .error .document
termination_by 8 * s.tokens.length + 1
decreasing_by all_goals (simp_all <;> omega)

/-- An entry of a flow collection, behind the mark of its key. -/
def flowEntry (handles : Handles) (closing : Token) (s : Stream) : FromStream (Node × Node) :=
  match optional handles false [.value, .comma, closing] s with
  | .error f => .error f
  | .ok (k, s₁) =>
    if _h : s₁.tokens.length ≤ s.tokens.length then
      (entryValue handles false [.comma, closing] s₁).map fun (v, s₂) => ((k, v), s₂)
    else .error .document
termination_by 8 * s.tokens.length + 4
decreasing_by all_goals (simp_all <;> omega)

/-- The items of a flow sequence. A key among them begins a mapping of one entry. -/
def flowItems (handles : Handles) (first : Bool) (s : Stream) : FromStream (List Node) :=
  match afterComma first .flowSequenceEnd s with
  | .error f => .error f
  | .ok s₁ =>
    if _h₁ : s₁.tokens.length ≤ s.tokens.length then
      match _h : s₁.tokens with
      | .flowSequenceEnd :: rest => .ok ([], { s₁ with tokens := rest })
      | .key :: rest =>
        match flowEntry handles .flowSequenceEnd { s₁ with tokens := rest } with
        | .error f => .error f
        | .ok (e, s₂) =>
          if _h₂ : s₂.tokens.length < s.tokens.length then
            (flowItems handles false s₂).map fun (ns, s') =>
              (.mapping .mapping s₁.tokens.length [e] :: ns, s')
          else .error .document
      | _ =>
        match read handles false s₁ with
        | .error f => .error f
        | .ok (n, s₂) =>
          if _h₂ : s₂.tokens.length < s.tokens.length then
            (flowItems handles false s₂).map fun (ns, s') => (n :: ns, s')
          else .error .document
    else .error .document
termination_by 8 * s.tokens.length + 5
decreasing_by all_goals (simp_all <;> omega)

/-- The entries of a flow mapping. A node without a colon is a key without a value. -/
def flowEntries (handles : Handles) (first : Bool) (s : Stream) :
    FromStream (List (Node × Node)) :=
  match afterComma first .flowMappingEnd s with
  | .error f => .error f
  | .ok s₁ =>
    if _h₁ : s₁.tokens.length ≤ s.tokens.length then
      match _h : s₁.tokens with
      | .flowMappingEnd :: rest => .ok ([], { s₁ with tokens := rest })
      | .key :: rest =>
        match flowEntry handles .flowMappingEnd { s₁ with tokens := rest } with
        | .error f => .error f
        | .ok (e, s₂) =>
          if _h₂ : s₂.tokens.length < s.tokens.length then
            (flowEntries handles false s₂).map fun (es, s') => (e :: es, s')
          else .error .document
      | _ =>
        match read handles false s₁ with
        | .error f => .error f
        | .ok (n, s₂) =>
          if _h₂ : s₂.tokens.length < s.tokens.length then
            (flowEntries handles false s₂).map fun (es, s') => ((n, empty) :: es, s')
          else .error .document
    else .error .document
termination_by 8 * s.tokens.length + 5
decreasing_by all_goals (simp_all <;> omega)

end

/-! ## Documents -/

/-- What the handles of tags stand for unless a document says otherwise. -/
def standardHandles : Handles := [("!", "!"), ("!!", Tag.standardStart)]

/-- The handles that directives give, and what follows the directives. A version is given once. -/
def directives (versioned : Bool) (handles : Handles) :
    List Token → Except Fault (Handles × List Token)
  | .directive (.version major) :: rest =>
    if versioned || major ≠ 1 then .error .document else directives true handles rest
  | .directive (.handle handle start) :: rest =>
    if handles.any (·.1 == handle) then .error .document
    else directives versioned ((handle, start) :: handles) rest
  | .directive .unknown :: rest => directives versioned handles rest
  | rest => .ok (handles, rest)

/-- The node of a document and the tokens behind it. -/
def document (ts : List Token) : FromStream Node :=
  match directives false [] ts with
  | .error f => .error f
  | .ok (handles, rest) =>
    let handles := handles ++ standardHandles
    match ts, rest with
    | .directive _ :: _, .documentStart :: rest | .documentStart :: _, .documentStart :: rest =>
      let s : Stream := { tokens := rest }
      match rest with
      | [] => .ok (empty, s)
      | .directive _ :: _ | .documentStart :: _ | .documentEnd :: _ => .ok (empty, s)
      | _ => read handles false s
    | .directive _ :: _, _ => .error .document
    | _, _ => read handles false { tokens := ts }

/-- The node that tokens describe, if they describe one. A second document is a fault. -/
def ofTokens (ts : List Token) : Except Fault (Option Node) :=
  match ts with
  | [] => .ok none
  | _ =>
    match document ts with
    | .error f => .error f
    | .ok (n, s) => if s.tokens.all (· == .documentEnd) then .ok (some n) else .error .document

end Node

end Backtick.Yaml
