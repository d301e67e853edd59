import Catalog.Filter.Token.Scan

/-!
From tokens to a tree, one token at a time.

AND binds loosest, OR tighter, then at most one comparison or containment test, then fields and
subscripts. A state holds what has been read to the left of the present place: for each open
bracket the operands that still wait for their right side. A token that no continuation could
make good is refused at once, so a fault stands at the first impossible token.
-/

namespace Catalog.Filter

/-- Left sides that wait at one bracket depth. -/
structure Level where
  conjunct : Option Expr
  disjunct : Option Expr
  relation : Option (Expr × Operator)

namespace Level

def empty : Level := ⟨none, none, none⟩

/-- The comparison that `e` completes, or `e` itself. -/
def related (l : Level) (e : Expr) : Expr :=
  match l.relation with
  | none => e
  | some (left, op) => .binary op left e

def disjoined (l : Level) (e : Expr) : Expr :=
  match l.disjunct with
  | none => l.related e
  | some left => .binary (.connect .or) left (l.related e)

/-- The tree of the whole level when `e` is its last operand. -/
def conjoined (l : Level) (e : Expr) : Expr :=
  match l.conjunct with
  | none => l.disjoined e
  | some left => .binary (.connect .and) left (l.disjoined e)

end Level

/-- An open bracket and what stands before it. -/
inductive Frame
  | group (outer : Level)
  | subscript (outer : Level) (base : Expr)

def Frame.bracket : Frame → Bracket
  | group _ => .paren
  | subscript _ _ => .square

/-- What the next token may be: an operand, a field name after a point, or what follows an
operand. -/
inductive Place
  | operand
  | field (base : Expr)
  | after (e : Expr)

structure State where
  place : Place
  level : Level
  stack : List Frame
  operators : Nat

namespace State

def start : State := ⟨.operand, .empty, [], 0⟩

/-- Takes one more operator into account. -/
def count (s : State) : Except SyntaxFault State :=
  if s.operators < maxOperators then .ok { s with operators := s.operators + 1 }
  else .error .tooManyOperators

/-- Opens a bracket. -/
def enter (s : State) (frame : Frame) : Except SyntaxFault State :=
  if s.stack.length < maxNesting then
    .ok { s with place := .operand, level := .empty, stack := frame :: s.stack }
  else .error .tooDeep

/-- The fault of a token that cannot follow an operand. -/
def unfinished (s : State) (otherwise : SyntaxFault) : SyntaxFault :=
  match s.stack with
  | [] => otherwise
  | frame :: _ => .missingClose frame.bracket

/-- Goes on after the bracket that `e` closes. -/
def leave (s : State) (frame : Frame) (stack : List Frame) (e : Expr) : State :=
  let inner := s.level.conjoined e
  match frame with
  | .group outer => { s with place := .after inner, level := outer, stack := stack }
  | .subscript outer base =>
    { s with place := .after (.binary .index base inner), level := outer, stack := stack }

/-- Reads a token where an operand has ended. -/
def stepAfter (s : State) (e : Expr) (t : Lexeme) : Except SyntaxFault State :=
  match t with
  | .dot => s.count.map fun s => { s with place := .field e }
  | .opening .square => s.count.bind fun s => s.enter (.subscript s.level e)
  | .connect .or =>
    s.count.map fun s =>
      { s with place := .operand
               level := { s.level with disjunct := some (s.level.disjoined e), relation := none } }
  | .connect .and =>
    s.count.map fun s =>
      { s with place := .operand, level := ⟨some (s.level.conjoined e), none, none⟩ }
  | .closing b =>
    match s.stack with
    | frame :: stack =>
      if frame.bracket = b then .ok (s.leave frame stack e)
      else .error (.missingClose frame.bracket)
    | [] => .error (.unexpectedToken t)
  | t =>
    match t.relation?, s.level.relation with
    | some op, none =>
      s.count.map fun s =>
        { s with place := .operand, level := { s.level with relation := some (e, op) } }
    | _, _ => .error (s.unfinished (.unexpectedToken t))

def step (s : State) (t : Lexeme) : Except SyntaxFault State :=
  match s.place, t with
  | .operand, .ident name => .ok { s with place := .after (.ident name) }
  | .operand, .const c => .ok { s with place := .after (.const c) }
  | .operand, .opening .paren => s.enter (.group s.level)
  | .operand, t => .error (.unexpectedToken t)
  | .field base, .ident name => .ok { s with place := .after (.select base name) }
  | .field _, _ => .error .missingField
  | .after e, t => s.stepAfter e t

/-- The tree, if the text may end here. -/
def finish (s : State) : Except SyntaxFault Expr :=
  match s.place, s.stack with
  | .operand, _ => .error .unexpectedEnd
  | .field _, _ => .error .missingField
  | .after e, [] => .ok (s.level.conjoined e)
  | .after _, frame :: _ => .error (.missingClose frame.bracket)

/-- Reads the tokens that are left of a text which ends at offset `stop`. -/
def run (s : State) (stop : Nat) : List Token → Except Error Expr
  | [] => s.finish.mapError (.parse stop)
  | t :: ts =>
    match s.step t.lexeme with
    | .error fault => .error (.parse t.offset fault)
    | .ok s => s.run stop ts

end State

/-- The tree of a filter text. -/
def parse (text : String) : Except Error Expr := do
  let tokens ← tokenize text
  State.start.run text.utf8ByteSize tokens

end Catalog.Filter
