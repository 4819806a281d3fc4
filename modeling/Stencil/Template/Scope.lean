import Stencil.Template.Syntax

/-!
Which names a scope declares, found by looking through its body before it runs. A name that is
first read is looked up outside; a name that is first stored starts without a value, or with the
value it has in an enclosing scope. Inner scopes declare their own names.
-/
namespace Stencil.Template

/-- Where the first value of a declared name comes from. -/
inductive Source where
  /-- From what the template was given. -/
  | given
  /-- From the enclosing scope that has the name. -/
  | outer
  | absent
  /-- From the caller of the scope. -/
  | parameter
  deriving DecidableEq, Repr

/-- The names of a scope, in the order they were met, and those it stores. -/
structure Declared where
  sources : List (String × Source) := []
  stores : List String := []
  deriving Repr

namespace Declared

def has (d : Declared) (name : String) : Bool := d.sources.any fun e => e.1 == name

private def put (d : Declared) (name : String) (s : Source) : Declared :=
  if d.has name then
    { d with sources := d.sources.map fun e => if e.1 == name then (name, s) else e }
  else { d with sources := d.sources ++ [(name, s)] }

private def addStore (d : Declared) (name : String) : Declared :=
  if d.stores.contains name then d else { d with stores := d.stores ++ [name] }

/-- A name that is read; `outer` tells which names enclosing scopes have. -/
def load (outer : String → Bool) (d : Declared) (name : String) : Declared :=
  if d.has name || outer name then d else d.put name .given

/-- A name that is stored. Where a branch may pass the store by, the name is looked up outside
first, unless it was stored before. -/
def store (outer : String → Bool) (sure : Bool) (d : Declared) (name : String) : Declared :=
  if d.stores.contains name then d
  else
    let d := d.addStore name
    if !sure then d.put name (if outer name then .outer else .given)
    else if d.has name then d
    else d.put name (if outer name then .outer else .absent)

def param (d : Declared) (name : String) : Declared := (d.addStore name).put name .parameter

end Declared

mutual

/-- The names an expression reads, in order. -/
def Expr.reads : Expr → List String
  | .literal _ => []
  | .name id => [id]
  | .nsRef name _ => [name]
  | .tuple items | .list items | .concat items => readsOfAll items
  | .dict items => readsOfPairs items
  | .attr value _ => value.reads
  | .item value index => value.reads ++ index.reads
  | .slice start stop step =>
    readsOfOption start ++ readsOfOption stop ++ readsOfOption step
  | .call function args => function.reads ++ readsOfArguments args
  | .filter value _ args _ => readsOfOption value ++ readsOfArguments args
  | .test value _ args _ => value.reads ++ readsOfArguments args
  | .neg value | .pos value | .not value => value.reads
  | .and left right | .or left right | .binary left _ right => left.reads ++ right.reads
  | .compare left rest => left.reads ++ readsOfOperands rest
  | .conditional test yes no _ => test.reads ++ yes.reads ++ readsOfOption no

def readsOfOption : Option Expr → List String
  | some e => e.reads
  | none => []

def readsOfAll : List Expr → List String
  | [] => []
  | e :: rest => e.reads ++ readsOfAll rest

def readsOfPairs : List (Expr × Expr) → List String
  | [] => []
  | (k, v) :: rest => k.reads ++ v.reads ++ readsOfPairs rest

def readsOfNamed : List (String × Expr) → List String
  | [] => []
  | (_, v) :: rest => v.reads ++ readsOfNamed rest

def readsOfOperands : List (CompareOp × Expr) → List String
  | [] => []
  | (_, v) :: rest => v.reads ++ readsOfOperands rest

def readsOfArguments : Arguments → List String
  | .mk args named rest restNamed =>
    readsOfAll args ++ readsOfNamed named ++ readsOfOption rest ++ readsOfOption restNamed

end

mutual

/-- The plain names a target stores. -/
def Expr.targetNames : Expr → List String
  | .name id => [id]
  | .tuple items => targetNamesOfAll items
  | _ => []

def targetNamesOfAll : List Expr → List String
  | [] => []
  | e :: rest => e.targetNames ++ targetNamesOfAll rest

end

mutual

/-- The namespaces a target stores into, which are read. -/
def Expr.targetReads : Expr → List String
  | .nsRef name _ => [name]
  | .tuple items => targetReadsOfAll items
  | _ => []

def targetReadsOfAll : List Expr → List String
  | [] => []
  | e :: rest => e.targetReads ++ targetReadsOfAll rest

end

namespace Declared

def loads (outer : String → Bool) (d : Declared) (names : List String) : Declared :=
  names.foldl (load outer) d

def readsOf (outer : String → Bool) (d : Declared) (e : Expr) : Declared := d.loads outer e.reads

private def target (outer : String → Bool) (sure : Bool) (d : Declared) (e : Expr) : Declared :=
  e.targetNames.foldl (store outer sure) (d.loads outer e.targetReads)

end Declared

mutual

/-- The names a statement reads or stores in the scope it stands in. -/
def Node.declare (outer : String → Bool) (sure : Bool) (d : Declared) : Node → Declared
  | .text _ => d
  | .print value => d.readsOf outer value
  | .loop _ source _ _ _ _ _ => d.readsOf outer source
  | .branch cases orElse => declareBody outer false (declareCases outer d cases) orElse
  | .set target value _ => (d.readsOf outer value).target outer sure target
  | .setBlock target _ _ _ => d.target outer sure target
  | .define name _ _ _ => d.store outer sure name
  | .callBlock _ call _ _ => d.readsOf outer call
  | .capture name _ => d.readsOf outer name
  | .filterBlock filter _ => d.readsOf outer filter
  | .bind _ values _ => d.loads outer (readsOfAll values)
  | .block .. => d
  | .inherit template _ => d.readsOf outer template
  | .inclusion template _ _ => d.readsOf outer template
  | .importAs template name _ => (d.readsOf outer template).store outer sure name
  | .importNames template names _ _ =>
    (names.map Prod.snd).foldl (Declared.store outer sure) (d.readsOf outer template)
  | .escaping .. => d

def declareBody (outer : String → Bool) (sure : Bool) (d : Declared) : List Node → Declared
  | [] => d
  | n :: rest => declareBody outer sure (n.declare outer sure d) rest

def declareCases (outer : String → Bool) (d : Declared) : List (Expr × List Node) → Declared
  | [] => d
  | (test, body) :: rest =>
    declareCases outer (declareBody outer false (d.readsOf outer test) body) rest

end

/-- The names of a scope with the given parameters and body. -/
def declaredBy (outer : String → Bool) (params : List String) (body : List Node) : Declared :=
  declareBody outer true (params.foldl Declared.param {}) body

end Stencil.Template
