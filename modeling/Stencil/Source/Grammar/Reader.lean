import Std.Data.TreeMap
import Stencil.Source.Token

/-!
Readers over a sequence of tokens. A reader takes tokens from a place, or does not match and
leaves the choice to an alternative, or complains, which ends the reading. What is kept all along
is the furthest token that was looked at, since that is the one a plain complaint names, and the
phrases found so far, so that no alternative reads a phrase again.
-/
namespace Stencil.Source

/-- A pointer at a part of the source. -/
def Tokens.pointer (ts : Tokens) (s : Span) : Pointer :=
  { column := ts.columnOf s.start + 1, stop := some (ts.columnOf s.stop + 1) }

/-- A complaint about a part of the source. -/
def Tokens.faultAt (ts : Tokens) (s : Span) (message : String) : Fault :=
  ⟨.syntax_, message, s.start.line, ts.pointer s⟩

/-- The phrases that nest in each other. -/
inductive Goal where
  | expression | starExpression | starExpressions | named | starNamed
  | disjunction | inversion | bitOr | factor | awaited | primary | atom
  | starTarget | innerTarget | deletedTarget | targetPrimary
  deriving DecidableEq, Repr, Ord

/-- What is kept while reading: the phrases by where they start, and the suites. -/
structure Trace where
  furthest : Nat
  found : Std.TreeMap (Nat × Goal) (Option (Expr × Nat)) lexOrd.compare
  suites : Std.TreeMap Nat (Option (List Stmt × Nat))

/-- What readers look at. A source is read a second time to explain why it does not match; only
then do readers look for known mistakes. -/
structure Context where
  source : Tokens
  explain : Bool

inductive Reply (α : Type) where
  | ok (value : α) (pos : Nat) (t : Trace)
  | noMatch (t : Trace)
  | complaint (f : Fault) (t : Trace)

/-- A reader at a position in the sequence. -/
def Reader (α : Type) : Type := Context → Nat → Trace → Reply α

namespace Reader
variable {α β : Type}

@[inline] protected def pure (a : α) : Reader α := fun _ pos t => .ok a pos t

@[inline] protected def bind (p : Reader α) (f : α → Reader β) : Reader β := fun ctx pos t =>
  match p ctx pos t with
  | .ok a pos t => f a ctx pos t
  | .noMatch t => .noMatch t
  | .complaint e t => .complaint e t

instance : Monad Reader where
  pure := Reader.pure
  bind := Reader.bind

def fail : Reader α := fun _ _ t => .noMatch t

instance : Inhabited (Reader α) := ⟨fail⟩

def raise (f : Fault) : Reader α := fun _ _ t => .complaint f t

/-- The first reader, or the second from the same place when the first does not match. -/
@[inline] def orElse (p q : Reader α) : Reader α := fun ctx pos t =>
  match p ctx pos t with
  | .noMatch t => q ctx pos t
  | r => r

/-- The first of some readers that matches. -/
def firstOf : List (Reader α) → Reader α
  | [] => fail
  | [p] => p
  | p :: rest => orElse p (firstOf rest)

def optional (p : Reader α) : Reader (Option α) :=
  orElse (do return some (← p)) (Reader.pure none)

/-- Whether a reader matches here; nothing is taken. -/
def looking (p : Reader α) : Reader Bool := fun ctx pos t =>
  match p ctx pos t with
  | .ok _ _ t => .ok true pos t
  | .noMatch t => .ok false pos t
  | .complaint e t => .complaint e t

/-- Goes on only where a reader matches. -/
def ahead (p : Reader α) : Reader Unit := do
  if ← looking p then return () else fail

/-- Goes on only where a reader does not match. -/
def notAhead (p : Reader α) : Reader Unit := do
  if ← looking p then fail else return ()

def position : Reader Nat := fun _ pos t => .ok pos pos t

def explaining : Reader Bool := fun ctx pos t => .ok ctx.explain pos t

/-- Runs a reader that only complains, when the source is explained. -/
def explained (p : Reader Unit) : Reader Unit := do
  if ← explaining then
    let _ ← looking p

/-- Runs a reader that only complains. -/
def tried (p : Reader Unit) : Reader Unit := do
  let _ ← looking p

/-- Runs a reader without looking for known mistakes. -/
def quietly (p : Reader α) : Reader α := fun ctx pos t => p { ctx with explain := false } pos t

/-- A phrase that is read at most once at each position. -/
def remembered (g : Goal) (p : Reader Expr) : Reader Expr := fun ctx pos t =>
  match t.found[(pos, g)]? with
  | some (some (e, next)) => .ok e next t
  | some none => .noMatch t
  | none =>
    match p ctx pos t with
    | .ok e next t => .ok e next { t with found := t.found.insert (pos, g) (some (e, next)) }
    | .noMatch t => .noMatch { t with found := t.found.insert (pos, g) none }
    | .complaint f t => .complaint f t

/-- A suite that is read at most once at each position. -/
def rememberedSuite (p : Reader (List Stmt)) : Reader (List Stmt) := fun ctx pos t =>
  match t.suites[pos]? with
  | some (some (body, next)) => .ok body next t
  | some none => .noMatch t
  | none =>
    match p ctx pos t with
    | .ok body next t =>
      .ok body next { t with suites := t.suites.insert pos (some (body, next)) }
    | .noMatch t => .noMatch { t with suites := t.suites.insert pos none }
    | .complaint f t => .complaint f t

/-- The token here; the end of the sequence complains when it has a reason to. -/
def peek : Reader Token := fun ctx pos t =>
  match ctx.source.tokens[pos]? with
  | some token => .ok token pos { t with furthest := max t.furthest pos }
  | none =>
    match ctx.source.ending with
    | .fault f | .late f _ => .complaint f t
    | .complete => .noMatch t

def advance : Reader Unit := fun _ pos t => .ok () (pos + 1) t

private def isLayout (t : Token) : Bool :=
  t.kind == .newline || t.kind == .indent || t.kind == .dedent || t.kind == .eof

private def lastBefore (tokens : Array Token) : Nat → Option Token
  | 0 => none
  | pos + 1 =>
    match tokens[pos]? with
    | some t => if isLayout t then lastBefore tokens pos else some t
    | none => lastBefore tokens pos

/-- The last token before this place that is no mark of lines or blocks. -/
def previous : Reader Token := fun ctx pos t =>
  match lastBefore ctx.source.tokens pos with
  | some token => .ok token pos t
  | none => .noMatch t

def satisfy (p : Token → Bool) : Reader Token := do
  let t ← peek
  if p t then advance; return t else fail

def Token.isOp (t : Token) (text : String) : Bool := t.kind == .op && t.text == text

def Token.isWord (t : Token) (text : String) : Bool := t.kind == .name && t.text == text

def op (text : String) : Reader Token := satisfy fun t => Token.isOp t text

/-- A reserved word. -/
def word (text : String) : Reader Token := satisfy fun t => Token.isWord t text

def ofKind (kind : TokenKind) : Reader Token := satisfy fun t => t.kind == kind

def isOp (text : String) : Reader Bool := do return Token.isOp (← peek) text

def isWord (text : String) : Reader Bool := do return Token.isWord (← peek) text

/-- Items one after another as long as one matches. -/
def many (p : Reader α) : Reader (List α) := fun ctx pos t =>
  go ctx (ctx.source.tokens.size + 1 - pos) pos t []
where
  go (ctx : Context) : Nat → Nat → Trace → List α → Reply (List α)
    | 0, pos, t, acc => .ok acc.reverse pos t
    | fuel + 1, pos, t, acc =>
      match p ctx pos t with
      | .ok a next t => if next ≤ pos then .ok acc.reverse pos t
        else go ctx fuel next t (a :: acc)
      | .noMatch t => .ok acc.reverse pos t
      | .complaint e t => .complaint e t

/-- At least one item. -/
def some_ (p : Reader α) : Reader (List α) := do
  let first ← p
  return first :: (← many p)

/-- Items with an operator between them; a trailing operator stays. -/
def separated (sep : String) (p : Reader α) : Reader (List α) := do
  let first ← p
  let rest ← many (do let _ ← op sep; p)
  return first :: rest

/-- The part of the source from a token to the last one taken. -/
def since (t : Token) : Reader Span := do
  return t.span.through (← previous).span

/-- Reads something together with the part of the source it takes. -/
def spanned (p : Reader α) : Reader (Span × α) := do
  let t ← peek
  let a ← p
  return (← since t, a)

/-! Complaints. -/

/-- A complaint that points at a part of the source. -/
def complainAt (s : Span) (message : String) : Reader α := fun ctx _ t =>
  .complaint (ctx.source.faultAt s message) t

/-- Marks of blocks and of the end have no column of their own. -/
private def isUnplaced (t : Token) : Bool :=
  t.kind == .indent || t.kind == .dedent || t.kind == .eof

/-- A complaint at the furthest token looked at. -/
def faultHere (source : Tokens) (furthest : Nat) (kind : FaultKind) (message : String) : Fault :=
  match source.tokens[furthest]? with
  | some t =>
    ⟨kind, message, t.line,
      if isUnplaced t then { column := source.columnOf t.span.start }
      else source.pointer t.span⟩
  | none => ⟨kind, message, 1, { column := 0 }⟩

/-- The tokens that are read. -/
def source : Reader Tokens := fun ctx pos t => .ok ctx.source pos t

/-- What a fault at the furthest token would be. -/
def faultAhead : Reader (String → Fault) := fun ctx pos t =>
  .ok (faultHere ctx.source t.furthest .syntax_) pos t

def complainHere (kind : FaultKind) (message : String) : Reader α := fun ctx _ t =>
  .complaint (faultHere ctx.source t.furthest kind message) t

/-- A complaint from a token up to the furthest one looked at. -/
def complainFrom (start : Span) (message : String) : Reader α := fun ctx _ t =>
  let stop : Nat := match ctx.source.tokens[t.furthest]? with
    | some last =>
      ctx.source.columnOf last.span.stop + (if last.kind == .newline then 1 else 0)
    | none => ctx.source.columnOf start.stop
  .complaint ⟨.syntax_, message, start.start.line,
    { ctx.source.pointer start with stop := some stop }⟩ t

/-- A complaint that points at the last character of a key. -/
def complainKey (s : Span) (message : String) : Reader α := fun ctx _ t =>
  .complaint ⟨.syntax_, message, s.start.line, { column := ctx.source.columnOf s.stop }⟩ t

/-- An operator that has to come here. -/
def forced (text : String) : Reader Token := do
  let t ← peek
  if Token.isOp t text then advance; return t
  else complainAt t.span ("expected '" ++ text ++ "'")

end Reader

private def lineAt (ts : Tokens) (pos : Nat) : Nat :=
  match ts.tokens[pos]? with
  | some t => t.line
  | none => 1

/-- A fault of the tokens further on takes the place of a complaint of the readers, unless it is a
late one; so does a bracket left open on a line before the one reached. -/
private def overridden (ts : Tokens) (f : Fault) (furthest : Nat) : Fault :=
  match ts.ending with
  | .fault g => g
  | .late g (some b) =>
    if f != g && lineAt ts furthest > b.place.line then b.unclosed else f
  | .late _ none | .complete => f

/-- The complaint about a token that nothing explains; readers looked as far as another one. -/
private def unexpected (ts : Tokens) (pos furthest : Nat) : Fault :=
  match ts.tokens[pos]? with
  | some t =>
    if t.kind == .indent then Reader.faultHere ts pos .indentation "unexpected indent"
    else if t.kind == .dedent then Reader.faultHere ts pos .indentation "unexpected unindent"
    else
      let f := Reader.faultHere ts pos .syntax_ "invalid syntax"
      overridden ts (if t.kind == .eof then { f with pointer := { column := 0 } } else f) furthest
  | none => overridden ts (Reader.faultHere ts pos .syntax_ "invalid syntax") furthest

/-- Reads a sequence of tokens, a second time with explanations when it does not match. -/
def Tokens.readWith {α : Type} (ts : Tokens) (p : Reader α) : Except Fault α :=
  match p ⟨ts, false⟩ 0 ⟨0, {}, {}⟩ with
  | .ok a _ _ => .ok a
  | .complaint f t => .error (overridden ts f t.furthest)
  | .noMatch t =>
    match p ⟨ts, true⟩ 0 ⟨t.furthest, {}, {}⟩ with
    | .complaint f u => .error (overridden ts f u.furthest)
    | .ok _ _ u | .noMatch u => .error (unexpected ts t.furthest u.furthest)

end Stencil.Source
