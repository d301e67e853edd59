import Catalog.Yaml.Token

/-!
The tree of a YAML text that holds at most one document. A place without a value holds the
empty plain scalar. Block scalars, tags, anchors and directives are not part of what is read.
-/

namespace Catalog.Yaml

inductive Node
  | scalar (plain : Bool) (text : String)
  | list (items : List Node)
  | map (members : List (Node × Node))

namespace Node

def empty : Node := .scalar true ""

/-- An item may be left out before these tokens. -/
def endsItem (ends : List Token) : List Token → Bool
  | [] => true
  | t :: _ => ends.contains t

mutual

/-- A node, and the tokens behind it. Outside brackets it may be a block collection; behind a key,
a list of entries that are not indented. Each call takes one unit of fuel; four for each token
are enough. -/
def node (fuel : Nat) (block bare : Bool) (ts : List Token) : Option (Node × List Token) :=
  match fuel with
  | 0 => none
  | fuel + 1 =>
    match ts with
    | .scalar plain text :: ts => some (.scalar plain text, ts)
    | .flowList :: .flowListEnd :: ts => some (.list [], ts)
    | .flowList :: ts => (flowItems fuel ts).map fun (vs, ts) => (.list vs, ts)
    | .flowMap :: .flowMapEnd :: ts => some (.map [], ts)
    | .flowMap :: ts => (flowMembers fuel ts).map fun (ms, ts) => (.map ms, ts)
    | .blockList :: ts =>
      if !block then none
      else do
        let (vs, ts) ← entries fuel [.entry, .blockEnd] ts
        match ts with
        | .blockEnd :: ts => return (.list vs, ts)
        | _ => none
    | .blockMap :: ts =>
      if block then (members fuel ts).map fun (ms, ts) => (.map ms, ts) else none
    | .entry :: _ =>
      if bare then
        (entries fuel [.entry, .key, .value, .blockEnd] ts).map fun (vs, ts) => (.list vs, ts)
      else none
    | _ => none

/-- A node, or nothing before one of the tokens that may follow it. -/
def item (fuel : Nat) (block bare : Bool) (ends : List Token) (ts : List Token) :
    Option (Node × List Token) :=
  match fuel with
  | 0 => none
  | fuel + 1 => if endsItem ends ts then some (empty, ts) else node fuel block bare ts

/-- The value of a key, if it has one. -/
def valueOf (fuel : Nat) (block bare : Bool) (ends : List Token) (ts : List Token) :
    Option (Node × List Token) :=
  match fuel with
  | 0 => none
  | fuel + 1 =>
    match ts with
    | .value :: ts => item fuel block bare ends ts
    | ts => some (empty, ts)

/-- Items of a list, a dash before each. -/
def entries (fuel : Nat) (ends : List Token) (ts : List Token) :
    Option (List Node × List Token) :=
  match fuel with
  | 0 => none
  | fuel + 1 =>
    match ts with
    | .entry :: ts => do
      let (v, ts) ← item fuel true false ends ts
      let (vs, ts) ← entries fuel ends ts
      return (v :: vs, ts)
    | ts => some ([], ts)

/-- Members of a block mapping, and its end. -/
def members (fuel : Nat) (ts : List Token) :
    Option (List (Node × Node) × List Token) :=
  match fuel with
  | 0 => none
  | fuel + 1 =>
    match ts with
    | .blockEnd :: ts => some ([], ts)
    | .key :: ts => do
      let (k, ts) ← item fuel true true [.key, .value, .blockEnd] ts
      let (v, ts) ← valueOf fuel true true [.key, .value, .blockEnd] ts
      let (ms, ts) ← members fuel ts
      return ((k, v) :: ms, ts)
    | _ => none

/-- A member of a mapping in brackets, its key token read. -/
def flowMember (fuel : Nat) (ts : List Token) : Option ((Node × Node) × List Token) :=
  match fuel with
  | 0 => none
  | fuel + 1 => do
    let (k, ts) ← item fuel false false [.value, .comma, .flowMapEnd] ts
    let (v, ts) ← valueOf fuel false false [.comma, .flowMapEnd] ts
    return ((k, v), ts)

/-- A pair among the items of a list in brackets, its key token read. Where the key is left out
the token behind it is passed over. -/
def flowPair (fuel : Nat) (ts : List Token) : Option ((Node × Node) × List Token) :=
  match fuel with
  | 0 => none
  | fuel + 1 => do
    let (k, ts) ←
      if endsItem [.value, .comma, .flowListEnd] ts then some (empty, ts.tail)
      else node fuel false false ts
    let (v, ts) ← valueOf fuel false false [.comma, .flowListEnd] ts
    return ((k, v), ts)

/-- Items up to the closing bracket; a pair with a colon is a mapping of its own. -/
def flowItems (fuel : Nat) (ts : List Token) :
    Option (List Node × List Token) :=
  match fuel with
  | 0 => none
  | fuel + 1 => do
    let (v, ts) ← match ts with
      | .key :: ts => (flowPair fuel ts).map fun (m, ts) => (Node.map [m], ts)
      | ts => node fuel false false ts
    match ts with
    | .flowListEnd :: ts | .comma :: .flowListEnd :: ts => return ([v], ts)
    | .comma :: ts =>
      let (vs, ts) ← flowItems fuel ts
      return (v :: vs, ts)
    | _ => none

/-- Members up to the closing bracket; one without a colon has no value. -/
def flowMembers (fuel : Nat) (ts : List Token) :
    Option (List (Node × Node) × List Token) :=
  match fuel with
  | 0 => none
  | fuel + 1 => do
    let (m, ts) ← match ts with
      | .key :: ts => flowMember fuel ts
      | ts => (node fuel false false ts).map fun (k, ts) => ((k, empty), ts)
    match ts with
    | .flowMapEnd :: ts | .comma :: .flowMapEnd :: ts => return ([m], ts)
    | .comma :: ts =>
      let (ms, ts) ← flowMembers fuel ts
      return (m :: ms, ts)
    | _ => none

end

/-- How deep calls can go for so many tokens. -/
def fuelFor (ts : List Token) : Nat := 4 * ts.length + 4

/-- The content of a document, which may be left out behind a mark of its start. -/
def document : List Token → Option (Node × List Token)
  | [] => some (empty, [])
  | .documentStart :: ts => item (fuelFor ts) true false [.documentStart, .documentEnd] ts
  | ts => node (fuelFor ts) true false ts

def ofTokens? (ts : List Token) : Option Node := do
  let (v, rest) ← document ts
  if rest.all (· == .documentEnd) then some v else none

/-- The tree of a text; nothing if the text is malformed. -/
def read? (text : String) : Option Node := (tokens? text).bind ofTokens?

end Node

end Catalog.Yaml
