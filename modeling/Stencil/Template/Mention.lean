import Stencil.Template.Syntax

/-!
Which special names a body uses without declaring them first. A name that is stored or is a
parameter anywhere before does not count; the bodies of blocks are not looked into.
-/
namespace Stencil.Template

/-- A name met in a body: read, or declared. -/
structure Mention where
  name : String
  read : Bool

private def readMention (name : String) : Mention := ⟨name, true⟩
private def declaredMention (name : String) : Mention := ⟨name, false⟩

mutual

/-- The names of an expression in order, as they are read or stored. -/
def Expr.mentions (reads : Bool) : Expr → List Mention
  | .literal _ | .nsRef .. => []
  | .name id => [⟨id, reads⟩]
  | .tuple items | .list items | .concat items => mentionsOfAll reads items
  | .dict items => mentionsOfPairs items
  | .attr value _ => value.mentions true
  | .item value index => value.mentions true ++ index.mentions true
  | .slice start stop step =>
    mentionsOfOption start ++ mentionsOfOption stop ++ mentionsOfOption step
  | .call function args => function.mentions true ++ mentionsOfArguments args
  | .filter value _ args _ => mentionsOfOption value ++ mentionsOfArguments args
  | .test value _ args _ => value.mentions true ++ mentionsOfArguments args
  | .neg value | .pos value | .not value => value.mentions true
  | .and left right | .or left right | .binary left _ right =>
    left.mentions true ++ right.mentions true
  | .compare left rest => left.mentions true ++ mentionsOfOperands rest
  | .conditional test yes no _ =>
    test.mentions true ++ yes.mentions true ++ mentionsOfOption no

def mentionsOfOption : Option Expr → List Mention
  | some e => e.mentions true
  | none => []

def mentionsOfAll (reads : Bool) : List Expr → List Mention
  | [] => []
  | e :: rest => e.mentions reads ++ mentionsOfAll reads rest

def mentionsOfPairs : List (Expr × Expr) → List Mention
  | [] => []
  | (k, v) :: rest => k.mentions true ++ v.mentions true ++ mentionsOfPairs rest

def mentionsOfNamed : List (String × Expr) → List Mention
  | [] => []
  | (_, v) :: rest => v.mentions true ++ mentionsOfNamed rest

def mentionsOfOperands : List (CompareOp × Expr) → List Mention
  | [] => []
  | (_, v) :: rest => v.mentions true ++ mentionsOfOperands rest

def mentionsOfArguments : Arguments → List Mention
  | .mk args named rest restNamed =>
    mentionsOfAll true args ++ mentionsOfNamed named ++ mentionsOfOption rest ++
      mentionsOfOption restNamed

end

private def mentionsOfParams (params : List Parameter) : List Mention :=
  params.map (fun p => declaredMention p.name) ++
    params.flatMap fun p => mentionsOfOption p.default

mutual

def Node.mentions : Node → List Mention
  | .text _ => []
  | .print value => value.mentions true
  | .loop target source test _ body orElse _ =>
    target.mentions false ++ source.mentions true ++ mentionsOfBody body ++
      mentionsOfBody orElse ++ mentionsOfOption test
  | .branch cases orElse => mentionsOfCases cases ++ mentionsOfBody orElse
  | .set target value _ => target.mentions false ++ value.mentions true
  | .setBlock target filter body _ =>
    target.mentions false ++ mentionsOfOption filter ++ mentionsOfBody body
  | .define _ params body _ => mentionsOfParams params ++ mentionsOfBody body
  | .callBlock params call body _ =>
    call.mentions true ++ mentionsOfParams params ++ mentionsOfBody body
  | .capture name body => name.mentions true ++ mentionsOfBody body
  | .filterBlock filter body => mentionsOfBody body ++ filter.mentions true
  | .bind targets values body =>
    mentionsOfAll false targets ++ mentionsOfAll true values ++ mentionsOfBody body
  | .block .. => []
  | .inherit template _ | .inclusion template _ _ | .importAs template _ _
  | .importNames template _ _ _ => template.mentions true
  | .escaping flag body => flag.mentions true ++ mentionsOfBody body

def mentionsOfBody : List Node → List Mention
  | [] => []
  | n :: rest => n.mentions ++ mentionsOfBody rest

def mentionsOfCases : List (Expr × List Node) → List Mention
  | [] => []
  | (test, body) :: rest => test.mentions true ++ mentionsOfBody body ++ mentionsOfCases rest

end

/-- Those of some names that are read before anything declares them. -/
def usedOf (names : List String) (mentions : List Mention) : List String :=
  go names [] mentions
where
  go (names used : List String) : List Mention → List String
    | [] => used
    | m :: rest =>
      if !names.contains m.name then go names used rest
      else if m.read then go names (if used.contains m.name then used else used ++ [m.name]) rest
      else go (names.filter (· != m.name)) used rest

def uses (name : String) (body : List Node) : Bool :=
  (usedOf [name] (mentionsOfBody body)).contains name

/-! Blocks. -/

mutual

/-- The blocks in a statement, an outer one before those inside it. -/
def Node.blocks : Node → List Node
  | .block name shared required body line =>
    .block name shared required body line :: blocksOf body
  | .loop _ _ _ _ body orElse _ => blocksOf body ++ blocksOf orElse
  | .branch cases orElse => blocksOfCases cases ++ blocksOf orElse
  | .setBlock _ _ body _ | .define _ _ body _ | .callBlock _ _ body _ | .capture _ body
  | .filterBlock _ body | .bind _ _ body | .escaping _ body => blocksOf body
  | _ => []

def blocksOf : List Node → List Node
  | [] => []
  | n :: rest => n.blocks ++ blocksOf rest

def blocksOfCases : List (Expr × List Node) → List Node
  | [] => []
  | (_, body) :: rest => blocksOf body ++ blocksOfCases rest

end

mutual

/-- Whether a statement names a parent template. -/
def Node.inherits : Node → Bool
  | .inherit .. => true
  | .loop _ _ _ _ body orElse _ => anyInherits body || anyInherits orElse
  | .branch cases orElse => anyCaseInherits cases || anyInherits orElse
  | .setBlock _ _ body _ | .define _ _ body _ | .callBlock _ _ body _ | .capture _ body
  | .filterBlock _ body | .bind _ _ body | .escaping _ body | .block _ _ _ body _ =>
    anyInherits body
  | _ => false

def anyInherits : List Node → Bool
  | [] => false
  | n :: rest => n.inherits || anyInherits rest

def anyCaseInherits : List (Expr × List Node) → Bool
  | [] => false
  | (_, body) :: rest => anyInherits body || anyCaseInherits rest

end

def hasSharedBlock (body : Body) : Bool :=
  (blocksOf body).any fun
    | .block _ shared _ _ _ => shared
    | _ => false

end Stencil.Template
