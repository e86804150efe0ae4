import ParamBinding.Content.Yaml.Problem
import ParamBinding.Content.Yaml.Resolve
import ParamBinding.Content.Yaml.Token

/-!
# The structure of a document

A document is at most one node. Nodes are read from the tokens by recursive descent; every step is
bounded by fuel, which the number of the tokens provides.
-/

namespace ParamBinding.Yaml

/-- What handles for tags stand for. -/
abbrev Handles := List (String × String)

/-- What handles stand for unless a directive says something else. -/
def defaultHandles : Handles := [("!", "!"), ("!!", NodeTag.core)]

/-- Where a node is. -/
inductive Position where
  | flow
  | block
  /-- A key or a value of a block mapping, where a sequence need not be indented. -/
  | entry
  deriving DecidableEq

/-- The tokens that are left, and the nodes that have names; a node that has not ended yet is not
known. -/
structure Reading where
  tokens : List Token
  anchors : List (String × Option Node) := []

namespace Reading

/-- The next token. -/
def next (r : Reading) : Token := r.tokens.headD .streamEnd

/-- The tokens behind the next one. -/
def drop (r : Reading) : Reading := { r with tokens := r.tokens.tail }

/-- There has to be a token. -/
def check (r : Reading) : Except Problem Unit :=
  match r.next with
  | .broken p => .error p
  | _ => .ok ()

/-- The next token has to be this one. -/
def expect (t : Token) (r : Reading) : Except Problem Reading := do
  r.check
  if r.next = t then .ok r.drop else .error .malformed

/-- A node with a name begins. No other node may have the name. -/
def begin (name : Option String) (r : Reading) : Except Problem Reading :=
  match name with
  | none => .ok r
  | some a =>
    if (r.anchors.lookup a).isSome then .error .malformed
    else .ok { r with anchors := (a, none) :: r.anchors }

/-- A node with a name has ended. -/
def complete (name : Option String) (n : Node) (r : Reading) : Reading :=
  match name with
  | none => r
  | some a => { r with anchors := (a, some n) :: r.anchors }

end Reading

/-! ### Names and tags -/

/-- What stands in front of a node: its name and its tag. -/
structure Properties where
  name : Option String := none
  tag : Option String := none

/-- A tag with its handle, which has to stand for something. -/
def tagText (handles : Handles) (handle : Option String) (suffix : String) :
    Except Problem String :=
  match handle with
  | none => .ok suffix
  | some h => (orMalformed (handles.lookup h)).map (· ++ suffix)

namespace Properties

/-- A name and a tag, in either order. Behind a tag that comes first there may be a name, so there
has to be a token. -/
def take (handles : Handles) (r : Reading) : Except Problem (Properties × Reading) :=
  match r.next with
  | .anchor name => match r.drop.next with
    | .tag handle suffix => do
      let tag ← tagText handles handle suffix
      .ok ({ name, tag }, r.drop.drop)
    | _ => .ok ({ name }, r.drop)
  | .tag handle suffix => do
    r.drop.check
    let tag ← tagText handles handle suffix
    match r.drop.next with
    | .anchor name => .ok ({ name, tag }, r.drop.drop)
    | _ => .ok ({ tag }, r.drop)
  | _ => .ok ({}, r)

/-- Whether there is neither. -/
def isEmpty (p : Properties) : Bool := p.name.isNone && p.tag.isNone

/-- The tag of a scalar. Without a tag only plain scalars are anything but texts; the tag `!` makes
any scalar count as plain. -/
def scalarTag (p : Properties) (isPlain : Bool) (text : String) : NodeTag :=
  match p.tag with
  | none => if isPlain then implicitTag text else .str
  | some t => if t = "!" then implicitTag text else .ofText t

/-- The tag of a collection. -/
def collectionTag (p : Properties) (usual : NodeTag) : NodeTag :=
  match p.tag with
  | none => usual
  | some t => if t = "!" then usual else .ofText t

end Properties

/-! ### Nodes -/

/-- Whether an element of a block sequence is left out in front of a token. -/
def Token.skipsItem (t : Token) : Bool := t = .blockEntry || t = .blockEnd

/-- Whether a key or a value of a block mapping is left out in front of a token. -/
def Token.skipsEntry (t : Token) : Bool := t = .key || t = .value || t = .blockEnd

/-- Whether an element of a sequence that is not indented is left out in front of a token. -/
def Token.skipsBareItem (t : Token) : Bool := t = .blockEntry || t.skipsEntry

mutual

/-- A node, or an empty one in front of certain tokens. -/
def nodeUnless (handles : Handles) (skips : Token → Bool) (position : Position) :
    Nat → Reading → Except Problem (Node × Reading)
  | 0, _ => .error .malformed
  | fuel + 1, r => if skips r.next then .ok (.empty, r) else node handles position fuel r

/-- A node, or the node that a name refers to. -/
def node (handles : Handles) (position : Position) :
    Nat → Reading → Except Problem (Node × Reading)
  | 0, _ => .error .malformed
  | fuel + 1, r =>
    match r.next with
    | .alias name => match r.anchors.lookup name with
      | some (some n) => .ok (n, r.drop)
      | some none => .ok (.loop, r.drop)
      | none => .error .malformed
    | _ => do
      let (p, r) ← Properties.take handles r
      r.check
      let r ← r.begin p.name
      let (n, r) ← content handles position p fuel r
      .ok (n, r.complete p.name n)

/-- A node behind its name and tag. With one of them it may be empty. -/
def content (handles : Handles) (position : Position) (p : Properties) :
    Nat → Reading → Except Problem (Node × Reading)
  | 0, _ => .error .malformed
  | fuel + 1, r =>
    let isBlock := position ≠ .flow
    let t := r.next
    match t with
    | .scalar text isPlain => .ok (.scalar (p.scalarTag isPlain text) text, r.drop)
    | _ =>
      if t = .flowSequence then
        (flowItems handles true fuel r.drop).map fun (xs, r) =>
          (.sequence (p.collectionTag .seq) xs, r)
      else if t = .flowMapping then
        (flowEntries handles true fuel r.drop).map fun (es, r) =>
          (.mapping (p.collectionTag .map) es, r)
      else if t = .blockEntry && position = .entry then
        (bareItems handles fuel r).map fun (xs, r) => (.sequence (p.collectionTag .seq) xs, r)
      else if t = .blockSequence && isBlock then
        (blockItems handles fuel r.drop).map fun (xs, r) =>
          (.sequence (p.collectionTag .seq) xs, r)
      else if t = .blockMapping && isBlock then
        (blockEntries handles fuel r.drop).map fun (es, r) =>
          (.mapping (p.collectionTag .map) es, r)
      else if p.isEmpty then .error .malformed
      else .ok (.scalar (p.scalarTag true "") "", r)

/-- The value behind a key, if there is one. -/
def valueUnless (handles : Handles) (skips : Token → Bool) (position : Position) :
    Nat → Reading → Except Problem (Node × Reading)
  | 0, _ => .error .malformed
  | fuel + 1, r =>
    if r.next = .value then nodeUnless handles skips position fuel r.drop else .ok (.empty, r)

/-- The elements of a flow sequence. An element with the mark of a key is a mapping of one entry. -/
def flowItems (handles : Handles) (isFirst : Bool) :
    Nat → Reading → Except Problem (List Node × Reading)
  | 0, _ => .error .malformed
  | fuel + 1, r => do
    let r ← if isFirst || r.next = .flowSequenceEnd then .ok r else r.expect .flowEntry
    if r.next = .flowSequenceEnd then .ok ([], r.drop)
    else
      let ends (t : Token) : Bool := t = .flowEntry || t = .flowSequenceEnd
      let (x, r) ←
        if r.next = .key then do
          let (k, r) ← nodeUnless handles (fun t => t = .value || ends t) .flow fuel r.drop
          let (v, r) ← valueUnless handles ends .flow fuel r
          .ok (.mapping .map [(k, v)], r)
        else node handles .flow fuel r
      let (xs, r) ← flowItems handles false fuel r
      .ok (x :: xs, r)

/-- The entries of a flow mapping. A node without the mark of a key is a key without a value. -/
def flowEntries (handles : Handles) (isFirst : Bool) :
    Nat → Reading → Except Problem (List (Node × Node) × Reading)
  | 0, _ => .error .malformed
  | fuel + 1, r => do
    let r ← if isFirst || r.next = .flowMappingEnd then .ok r else r.expect .flowEntry
    if r.next = .flowMappingEnd then .ok ([], r.drop)
    else
      let ends (t : Token) : Bool := t = .flowEntry || t = .flowMappingEnd
      let (e, r) ←
        if r.next = .key then do
          let (k, r) ← nodeUnless handles (fun t => t = .value || ends t) .flow fuel r.drop
          let (v, r) ← valueUnless handles ends .flow fuel r
          .ok ((k, v), r)
        else do
          let (k, r) ← node handles .flow fuel r
          .ok ((k, .empty), r)
      let (es, r) ← flowEntries handles false fuel r
      .ok (e :: es, r)

/-- The elements of a block sequence. -/
def blockItems (handles : Handles) : Nat → Reading → Except Problem (List Node × Reading)
  | 0, _ => .error .malformed
  | fuel + 1, r => do
    if r.next = .blockEntry then
      let (x, r) ← nodeUnless handles Token.skipsItem .block fuel r.drop
      let (xs, r) ← blockItems handles fuel r
      .ok (x :: xs, r)
    else
      let r ← r.expect .blockEnd
      .ok ([], r)

/-- The elements of a sequence that is not indented. -/
def bareItems (handles : Handles) : Nat → Reading → Except Problem (List Node × Reading)
  | 0, _ => .error .malformed
  | fuel + 1, r => do
    if r.next = .blockEntry then
      let (x, r) ← nodeUnless handles Token.skipsBareItem .block fuel r.drop
      let (xs, r) ← bareItems handles fuel r
      .ok (x :: xs, r)
    else .ok ([], r)

/-- The entries of a block mapping. -/
def blockEntries (handles : Handles) :
    Nat → Reading → Except Problem (List (Node × Node) × Reading)
  | 0, _ => .error .malformed
  | fuel + 1, r => do
    if r.next = .key then
      let (k, r) ← nodeUnless handles Token.skipsEntry .entry fuel r.drop
      let (v, r) ← valueUnless handles Token.skipsEntry .entry fuel r
      let (es, r) ← blockEntries handles fuel r
      .ok ((k, v) :: es, r)
    else
      let r ← r.expect .blockEnd
      .ok ([], r)

end

/-! ### Documents -/

/-- The directives in front of a document: whether the version is said, what handles stand for, and
the tokens behind them. -/
def directives : Bool → Handles → List Token → Except Problem (Handles × List Token)
  | versioned, handles, .version major :: rest =>
    if versioned || major ≠ 1 then .error .malformed else directives true handles rest
  | versioned, handles, .handle name expansion :: rest =>
    if (handles.lookup name).isSome then .error .malformed
    else directives versioned ((name, expansion) :: handles) rest
  | versioned, handles, .reserved :: rest => directives versioned handles rest
  | _, handles, rest => .ok (handles ++ defaultHandles, rest)

/-- The fuel for a number of tokens. Reading a node takes up to four steps for a token. -/
def fuelFor (ts : List Token) : Nat := 4 * ts.length + 8

/-- The node of a document. Only behind a mark for its start may it be empty. -/
def root (ts : List Token) : Except Problem (Node × Reading) :=
  let first := ts.headD .streamEnd
  if first.isDirective || first = .documentStart then do
    let (handles, rest) ← directives false [] ts
    let r ← Reading.expect .documentStart { tokens := rest }
    nodeUnless handles Token.endsContent .block (fuelFor ts) r
  else node defaultHandles .block (fuelFor ts) { tokens := ts }

/-- The end of the only document. What follows it is read up to the start of another one. -/
def finish (ts : List Token) : Except Problem Unit :=
  match ts.dropWhile (· = .documentEnd) with
  | [.streamEnd] => .ok ()
  | rest => do
    let (_, rest) ← directives false [] rest
    Reading.check { tokens := rest }
    .error .malformed

/-- The node of the only document, if there is one. -/
def parse (ts : List Token) : Except Problem (Option Node) :=
  if ts = [.streamEnd] then .ok none
  else do
    let (n, r) ← root ts
    finish r.tokens
    .ok (some n)

end ParamBinding.Yaml
