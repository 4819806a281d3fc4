import Stencil.Decimal.Printer
import Stencil.Source.Syntax
import Stencil.Text.Words

/-!
Expressions as text, in one normal form: single blanks around operators, parentheses only where
the place of an operand asks for them, quotes chosen so that few characters are escaped.
-/
namespace Stencil.Source
open Stencil.Text

/-- How tightly a place binds, from loose to tight. -/
def Level.named : Nat := 1
def Level.tuple : Nat := 2
def Level.yield : Nat := 3
def Level.test : Nat := 4
def Level.or : Nat := 5
def Level.and : Nat := 6
def Level.not : Nat := 7
def Level.compare : Nat := 8
def Level.bitOr : Nat := 9
def Level.factor : Nat := 15
def Level.power : Nat := 16
def Level.await : Nat := 17
def Level.atom : Nat := 18

/-- The next tighter level; the tightest stays. -/
def Level.next (n : Nat) : Nat := min (n + 1) Level.atom

def UnaryOp.text : UnaryOp → String
  | .plus => "+"
  | .minus => "-"
  | .invert => "~"
  | .not => "not "

def UnaryOp.level : UnaryOp → Nat
  | .not => Level.not
  | _ => Level.factor

def BinaryOp.text : BinaryOp → String
  | .add => "+"
  | .sub => "-"
  | .mul => "*"
  | .matMul => "@"
  | .div => "/"
  | .mod => "%"
  | .floorDiv => "//"
  | .pow => "**"
  | .shiftLeft => "<<"
  | .shiftRight => ">>"
  | .bitOr => "|"
  | .bitXor => "^"
  | .bitAnd => "&"

def BinaryOp.level : BinaryOp → Nat
  | .bitOr => 9
  | .bitXor => 10
  | .bitAnd => 11
  | .shiftLeft | .shiftRight => 12
  | .add | .sub => 13
  | .mul | .matMul | .div | .mod | .floorDiv => 14
  | .pow => Level.power

def BoolOp.text : BoolOp → String
  | .and => " and "
  | .or => " or "

def BoolOp.level : BoolOp → Nat
  | .and => Level.and
  | .or => Level.or

def CompareOp.text : CompareOp → String
  | .eq => "=="
  | .ne => "!="
  | .lt => "<"
  | .le => "<="
  | .gt => ">"
  | .ge => ">="
  | .is => "is"
  | .isNot => "is not"
  | .in => "in"
  | .notIn => "not in"

/-! Quotes. A text keeps its line feeds and tabs where backslashes are unwanted, and then takes a
quote that needs none. -/

private def singleQuotes : List String := ["'", "\""]
private def tripleQuotes : List String := ["\"\"\"", "'''"]
private def allQuotes : List String := singleQuotes ++ tripleQuotes

private def escapeChar (spaceToo : Bool) (c : Char) : List Char :=
  if !spaceToo && (c == '\n' || c == '\t') then [c]
  else if c == '\\' then ['\\', '\\']
  else if isPrintable c then [c]
  else if c == '\n' then ['\\', 'n']
  else if c == '\r' then ['\\', 'r']
  else if c == '\t' then ['\\', 't']
  else if c.toNat < 0x100 then '\\' :: 'x' :: digitsBase 16 2 c.toNat
  else if c.toNat < 0x10000 then '\\' :: 'u' :: digitsBase 16 4 c.toNat
  else '\\' :: 'U' :: digitsBase 16 8 c.toNat

private def holds (cs : List Char) (q : String) : Bool := (cutAt? q.toList cs).isSome

/-- The escaped text and the quotes that can stand around it. -/
private def quoteChoice (s : String) (quotes : List String) (spaceToo : Bool) :
    List Char × List String :=
  let cs := s.toList.flatMap (escapeChar spaceToo)
  let possible := if cs.contains '\n' then quotes.filter tripleQuotes.contains else quotes
  let possible := possible.filter fun q => !holds cs q
  match possible with
  | [] =>
    let whole := quotedChars s.toList
    let quote := whole.head?.getD '\''
    let chosen := (quotes.find? fun q => q.toList.contains quote).getD (String.singleton quote)
    (whole.tail.dropLast, [chosen])
  | _ =>
    match cs.getLast? with
    | none => (cs, possible)
    | some last =>
      let starts (q : String) : Bool := q.toList.head? == some last
      let ordered := possible.filter (fun q => !starts q) ++ possible.filter starts
      if (ordered.head?.map starts).getD false then (cs.dropLast ++ ['\\', last], ordered)
      else (cs, ordered)

private def quotedPlainly (s : String) : String :=
  let (cs, quotes) := quoteChoice s allQuotes false
  let q := quotes.head?.getD "'"
  q ++ .ofList cs ++ q

/-- Pieces of a formatted text between quotes that fit all of them. -/
private def joinPieces (pieces : List (String × Bool)) : String :=
  let step (acc : Option (List (List Char) × List String)) (piece : String × Bool) :=
    acc.bind fun (done, quotes) =>
      let (cs, next) := quoteChoice piece.1 quotes piece.2
      if next.any quotes.contains then some (done ++ [cs], next) else none
  match pieces.foldl step (some ([], allQuotes)) with
  | some (parts, quotes) =>
    let q := quotes.head?.getD "'"
    q ++ .ofList parts.flatten ++ q
  | none =>
    let parts := pieces.map fun p => (quotedWith '\'' p.1.toList).tail.dropLast
    "'''" ++ .ofList parts.flatten ++ "'''"

private def withoutInfinity (s : String) : String :=
  replaceAll (replaceAll s "inf" "1e309") "nan" "(1e309-1e309)"

/-- A constant; `plain` asks for no backslashes in a text. -/
def Constant.print (plain : Bool) : Constant → String
  | .none => "None"
  | .true => "True"
  | .false => "False"
  | .ellipsis => "..."
  | .int n => ofNat n
  | .float x => withoutInfinity (Decimal.text x)
  | .imaginary x => withoutInfinity (Decimal.imaginaryText x)
  | .str s marked => (if marked then "u" else "") ++ (if plain then quotedPlainly s else quoted s)
  | .bytes b => quotedBytes b

private def parens (needed : Bool) (s : String) : String := if needed then "(" ++ s ++ ")" else s

private def commas (parts : List String) : String := joinWith ", " parts

/-- Items of a tuple; a single one keeps a comma. -/
private def tupleItems : List String → String
  | [one] => one ++ ","
  | parts => commas parts

private def doubleBraces (s : String) : String :=
  replaceAll (replaceAll s "\x7b" "\x7b\x7b") "\x7d" "\x7d\x7d"

private def Expr.isNumberConstant : Expr → Bool
  | .constant _ (.int _) | .constant _ .true | .constant _ .false => Bool.true
  | _ => Bool.false

/-- In a subscript a tuple needs no parentheses. -/
private def Expr.indexLevel : Expr → Nat
  | .tuple _ _ => Level.tuple
  | _ => Level.test

mutual

/-- An expression in a place of a level; `plain` asks for texts without backslashes. -/
def Expr.print (plain : Bool) (level : Nat) : Expr → String
  | .constant _ c => c.print plain
  | .formatted _ pieces =>
    "f" ++ if plain then quotedPlainly (joinWith "" (printPieces pieces))
      else joinPieces ((printPieces pieces).zip (textFlags pieces))
  | .name _ id => id
  | .attribute _ value attr =>
    value.print plain Level.atom ++ (if value.isNumberConstant then " ." else ".") ++ attr
  | .subscript _ value index =>
    value.print plain Level.atom ++ "[" ++ index.print plain index.indexLevel ++ "]"
  | .slice _ lower upper step =>
    printOptional plain "" lower ++ ":" ++ printOptional plain "" upper ++
      printOptional plain ":" step
  | .call _ function args keywords =>
    function.print plain Level.atom ++ "(" ++
      commas (printAll plain Level.test args ++ printKeywords plain keywords) ++ ")"
  | .unary _ op operand =>
    parens (level > op.level) (op.text ++ operand.print plain op.level)
  | .binary _ left op right =>
    let (l, r) := if op == .pow then (Level.next op.level, op.level)
      else (op.level, Level.next op.level)
    parens (level > op.level)
      (left.print plain l ++ " " ++ op.text ++ " " ++ right.print plain r)
  | .bool _ op operands =>
    parens (level > op.level) (joinWith op.text (printRising plain op.level operands))
  | .compare _ left rest =>
    parens (level > Level.compare)
      (left.print plain Level.bitOr ++ joinWith "" (printComparisons plain rest))
  | .conditional _ test body orElse =>
    parens (level > Level.test)
      (body.print plain Level.or ++ " if " ++ test.print plain Level.or ++ " else " ++
        orElse.print plain Level.test)
  | .lambda _ params body =>
    let shown := params.print plain
    parens (level > Level.test)
      ("lambda" ++ (if shown == "" then "" else " " ++ shown) ++ ": " ++
        body.print plain Level.test)
  | .named _ target value =>
    parens (level > Level.named)
      (target.print plain Level.atom ++ " := " ++ value.print plain Level.atom)
  | .starred _ value => "*" ++ value.print plain Level.bitOr
  | .await _ value => parens (level > Level.await) ("await " ++ value.print plain Level.atom)
  | .yield _ value => parens (level > Level.yield) ("yield" ++ printYielded plain value)
  | .yieldFrom _ value =>
    parens (level > Level.yield) ("yield from " ++ value.print plain Level.atom)
  | .tuple _ items =>
    parens (items.isEmpty || level > Level.tuple) (tupleItems (printAll plain Level.test items))
  | .list _ items => "[" ++ commas (printAll plain Level.test items) ++ "]"
  | .set _ items => "\x7b" ++ commas (printAll plain Level.test items) ++ "\x7d"
  | .dict _ items => "\x7b" ++ commas (printEntries plain items) ++ "\x7d"
  | .listComp _ item clauses =>
    "[" ++ item.print plain Level.test ++ joinWith "" (printClauses plain clauses) ++ "]"
  | .setComp _ item clauses =>
    "\x7b" ++ item.print plain Level.test ++ joinWith "" (printClauses plain clauses) ++ "\x7d"
  | .dictComp _ key value clauses =>
    "\x7b" ++ key.print plain Level.test ++ ": " ++ value.print plain Level.test ++
      joinWith "" (printClauses plain clauses) ++ "\x7d"
  | .generator _ item clauses =>
    "(" ++ item.print plain Level.test ++ joinWith "" (printClauses plain clauses) ++ ")"

def printAll (plain : Bool) (level : Nat) : List Expr → List String
  | [] => []
  | e :: rest => e.print plain level :: printAll plain level rest

/-- Operands of a chain, each in a tighter place than the one before. -/
def printRising (plain : Bool) (level : Nat) : List Expr → List String
  | [] => []
  | e :: rest => e.print plain (Level.next level) :: printRising plain (Level.next level) rest

def printOptional (plain : Bool) (before : String) : Option Expr → String
  | none => ""
  | some e => before ++ e.print plain Level.test

def printYielded (plain : Bool) : Option Expr → String
  | none => ""
  | some e => " " ++ e.print plain Level.atom

def printKeywords (plain : Bool) : List Keyword → List String
  | [] => []
  | .mk _ name value :: rest =>
    ((match name with
      | some n => n ++ "="
      | none => "**") ++ value.print plain Level.test) :: printKeywords plain rest

def printComparisons (plain : Bool) : List Comparison → List String
  | [] => []
  | .mk op right :: rest =>
    (" " ++ op.text ++ " " ++ right.print plain Level.bitOr) :: printComparisons plain rest

def printEntries (plain : Bool) : List Entry → List String
  | [] => []
  | .mk none value :: rest => ("**" ++ value.print plain Level.bitOr) :: printEntries plain rest
  | .mk (some key) value :: rest =>
    (key.print plain Level.test ++ ": " ++ value.print plain Level.test) :: printEntries plain rest

def printClauses (plain : Bool) : List Clause → List String
  | [] => []
  | .mk async target source conditions :: rest =>
    ((if async then " async for " else " for ") ++ target.print plain Level.tuple ++ " in " ++
      source.print plain Level.or ++
      joinWith "" ((printAll plain Level.or conditions).map (" if " ++ ·))) ::
      printClauses plain rest

/-- Pieces of a formatted text before they are quoted. -/
def printPieces : List Piece → List String
  | [] => []
  | .text s :: rest => doubleBraces s :: printPieces rest
  | .field value conversion format :: rest =>
    let shown := value.print Bool.true Level.or
    ("\x7b" ++ (if shown.startsWith "\x7b" then " " else "") ++ shown ++
      (match conversion with
        | some c => "!" ++ String.singleton c
        | none => "") ++ printFormat format ++ "\x7d") :: printPieces rest

def printFormat : Option (List Piece) → String
  | none => ""
  | some pieces => ":" ++ joinWith "" (printPieces pieces)

/-- Which pieces are plain text. -/
def textFlags : List Piece → List Bool
  | [] => []
  | .text _ :: rest => Bool.true :: textFlags rest
  | .field .. :: rest => Bool.false :: textFlags rest

def printParameter (plain : Bool) (mark : String) : Parameter → String
  | .mk _ name hint default =>
    mark ++ name ++ printOptional plain ": " hint ++ printOptional plain "=" default

def printParameters (plain : Bool) : List Parameter → List String
  | [] => []
  | p :: rest => printParameter plain "" p :: printParameters plain rest

def printRest (plain : Bool) (mark : String) : Option Parameter → List String
  | none => []
  | some p => [printParameter plain mark p]

def Parameters.print (plain : Bool) : Parameters → String
  | .mk positionalOnly positional rest keywordOnly keywords =>
    let first := printParameters plain positionalOnly
    let slash := if first.isEmpty then [] else ["/"]
    let star := printRest plain "*" rest
    let only := printParameters plain keywordOnly
    let star := if star.isEmpty && !only.isEmpty then ["*"] else star
    commas (first ++ slash ++ printParameters plain positional ++ star ++ only ++
      printRest plain "**" keywords)

end

/-- An expression as text. -/
def Expr.text (e : Expr) : String := e.print Bool.false Level.test

end Stencil.Source
