import Stencil.Console.Line
import Stencil.Files.Tree

/-!
Work on a file tree. It answers with the tree it leaves, what it printed and its result; work that
fails keeps what it did until then.
-/
namespace Stencil
open Stencil.Files

inductive Printed where
  | message (m : Console.Message)
  /-- A table, as it stands on the console. -/
  | table (text : String)
  /-- Remarks on code that is loaded. -/
  | remarks (text : String)
  deriving DecidableEq, Repr

def Printed.text : Printed → String
  | message m => m.printed
  | table text | remarks text => text

/-- What work leaves behind. -/
structure Done (ε α : Type) where
  tree : Tree
  printed : List Printed := []
  result : Except ε α

def Work (ε α : Type) : Type := Tree → Done ε α

namespace Work
variable {ε δ α β : Type}

protected def pure (a : α) : Work ε α := fun t => ⟨t, [], .ok a⟩

/-- Work after work; the second one starts from the tree that the first one leaves. -/
protected def bind (w : Work ε α) (next : α → Work ε β) : Work ε β := fun t =>
  match w t with
  | ⟨t, before, .ok a⟩ =>
    let d := next a t
    ⟨d.tree, before ++ d.printed, d.result⟩
  | ⟨t, before, .error e⟩ => ⟨t, before, .error e⟩

instance : Monad (Work ε) where
  pure := Work.pure
  bind := Work.bind

def fail (e : ε) : Work ε α := fun t => ⟨t, [], .error e⟩

def ofExcept : Except ε α → Work ε α
  | .ok a => .pure a
  | .error e => fail e

/-- Looks at the tree. -/
def look (f : Tree → Except ε α) : Work ε α := fun t => ⟨t, [], f t⟩

def tree : Work ε Tree := look .ok

/-- Changes the tree; a change that fails leaves it as it was. -/
def change (f : Tree → Except ε Tree) : Work ε Unit := fun t =>
  match f t with
  | .ok changed => ⟨changed, [], .ok ()⟩
  | .error e => ⟨t, [], .error e⟩

def print (p : Printed) : Work ε Unit := fun t => ⟨t, [p], .ok ()⟩

def say (m : Console.Message) : Work ε Unit := print (.message m)

def sayAll (ms : List Console.Message) : Work ε Unit := fun t =>
  ⟨t, ms.map .message, .ok ()⟩

/-- Takes an error as a result. -/
def attempt (w : Work ε α) : Work δ (Except ε α) := fun t =>
  let d := w t
  ⟨d.tree, d.printed, .ok d.result⟩

def mapError (f : ε → δ) (w : Work ε α) : Work δ α := fun t =>
  let d := w t
  ⟨d.tree, d.printed, d.result.mapError f⟩

/-- Does the last work also after an error. -/
def ending (w : Work ε α) (last : Work ε Unit) : Work ε α := do
  let result ← w.attempt
  last
  ofExcept result

end Work
end Stencil
