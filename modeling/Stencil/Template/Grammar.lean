import Stencil.Template.Syntax
import Stencil.Template.Token

/-!
The grammar of templates. Readers take tokens one by one and complain at the first that does not
fit; a missing end tag is named together with the tags that are still open. Nesting is bounded by
the length of the template.
-/
namespace Stencil.Template
open Stencil.Text

namespace Grammar

private structure State where
  source : Tokens
  pos : Nat
  /-- The open tags, innermost first. -/
  tags : List String
  /-- The end tags that are looked for, innermost first. -/
  ends : List (List String)

private abbrev Reader := StateT State Reading

private def State.current (s : State) : Token :=
  match s.source.tokens[s.pos]? with
  | some t => t
  | none => ⟨.eof, (s.source.tokens.back?.map (·.line)).getD 1⟩

private def failAt {α : Type} (line : Nat) (message : String) : Reader α :=
  throw (.atLine line message)

private def current : Reader Token := do return (← get).current

private def fail {α : Type} (message : String) : Reader α := do failAt (← current).line message

/-- Complains when the tokens stop here because of a fault. -/
private def reach (pos : Nat) : Reader Unit := do
  let s ← get
  match s.source.fault with
  | some f => if pos ≥ s.source.tokens.size then throw f
  | none => pure ()

private def next : Reader Token := do
  let t ← current
  let s ← get
  if s.pos < s.source.tokens.size then
    reach (s.pos + 1)
    set { s with pos := s.pos + 1 }
  return t

/-- The token after the current one. -/
private def look : Reader Token := do
  let s ← get
  reach (s.pos + 1)
  return { s with pos := s.pos + 1 }.current

private def isOp (op : String) (t : Token) : Bool :=
  match t.kind with
  | .op o => o == op
  | _ => false

private def isName (name : String) (t : Token) : Bool :=
  match t.kind with
  | .name n => n == name
  | _ => false

private def atOp (op : String) : Reader Bool := do return isOp op (← current)
private def atName (name : String) : Reader Bool := do return isName name (← current)

private def atBlockEnd : Reader Bool := do
  return match (← current).kind with
    | .blockEnd => true
    | _ => false

private def skipOp (op : String) : Reader Bool := do
  if ← atOp op then let _ ← next; return true else return false

private def skipName (name : String) : Reader Bool := do
  if ← atName name then let _ ← next; return true else return false

private def describeKind : TokenKind → String
  | .data _ => "template data / text"
  | .printBegin => "begin of print statement"
  | .printEnd => "end of print statement"
  | .blockBegin => "begin of statement block"
  | .blockEnd => "end of statement block"
  | .name s => s
  | .str _ => "string"
  | .int _ => "integer"
  | .float _ => "float"
  | .op s => s
  | .eof => "end of template"

private def isEof (t : Token) : Bool :=
  match t.kind with
  | .eof => true
  | _ => false

private def mismatch {α : Type} (wanted : String) : Reader α := do
  let t ← current
  if isEof t then
    failAt t.line ("unexpected end of template, expected " ++ quoted wanted ++ ".")
  else
    failAt t.line
      ("expected token " ++ quoted wanted ++ ", got " ++ quoted (describeKind t.kind))

private def expectOp (op : String) : Reader Token := do
  if ← atOp op then next else mismatch op

private def expectName (name : String) : Reader Token := do
  if ← atName name then next else mismatch name

private def expectBlockEnd : Reader Unit := do
  if ← atBlockEnd then let _ ← next else mismatch (describeKind .blockEnd)

/-- Any name, with its line. -/
private def expectAnyName : Reader (String × Nat) := do
  let t ← current
  match t.kind with
  | .name n => let _ ← next; return (n, t.line)
  | _ => mismatch "name"

/-! Expressions. -/

/-- The phrases that nest in each other. -/
private inductive Goal where
  | expression | or | not | unary | unaryPlain

private abbrev Phrase := Goal → Reader Expr

private def compareOps : List (String × CompareOp) :=
  [("==", .eq), ("!=", .ne), ("<", .lt), ("<=", .le), (">", .gt), (">=", .ge)]

private def repeated {α : Type} (step : α → Reader (Option α)) (a : α) : Reader α := do
  let s ← get
  go (s.source.tokens.size + 1) a
where
  go : Nat → α → Reader α
    | 0, a => pure a
    | fuel + 1, a => do
      match ← step a with
      | some b => go fuel b
      | none => return a

private def conditional (sub : Phrase) : Reader Expr := do
  let start ← current
  let first ← sub .or
  let (e, _) ← repeated (fun (yes, line) => do
    if ← skipName "if" then
      let test ← sub .or
      let no ← if ← skipName "else" then some <$> sub .expression else pure none
      return some (.conditional test yes no line, (← current).line)
    else return none) (first, start.line)
  return e

private def andPhrase (sub : Phrase) : Reader Expr := do
  let first ← sub .not
  repeated (fun left => do
    if ← skipName "and" then return some (.and left (← sub .not)) else return none) first

private def orPhrase (sub : Phrase) : Reader Expr := do
  let first ← andPhrase sub
  repeated (fun left => do
    if ← skipName "or" then return some (.or left (← andPhrase sub)) else return none) first

private def leftChain (ops : List (String × BinaryOp)) (operand : Reader Expr) : Reader Expr := do
  let first ← operand
  repeated (fun left => do
    match (← current).kind with
    | .op o =>
      match ops.lookup o with
      | some b => let _ ← next; return some (.binary left b (← operand))
      | none => return none
    | _ => return none) first

private def products (sub : Phrase) : Reader Expr :=
  leftChain [("*", .mul), ("/", .div), ("//", .floorDiv), ("%", .mod)] <|
    leftChain [("**", .pow)] (sub .unary)

private def concats (sub : Phrase) : Reader Expr := do
  let first ← products sub
  let items ← repeated (fun items => do
    if ← skipOp "~" then return some (items ++ [← products sub]) else return none) [first]
  return if items.length == 1 then first else .concat items

private def sums (sub : Phrase) : Reader Expr :=
  leftChain [("+", .add), ("-", .sub)] (concats sub)

private def comparison (sub : Phrase) : Reader Expr := do
  let first ← sums sub
  let rest ← repeated (fun (rest : List (CompareOp × Expr)) => do
    let t ← current
    match t.kind with
    | .op o =>
      match compareOps.lookup o with
      | some c => let _ ← next; return some (rest ++ [(c, ← sums sub)])
      | none => return none
    | .name "in" => let _ ← next; return some (rest ++ [(.in, ← sums sub)])
    | .name "not" =>
      if isName "in" (← look) then
        let _ ← next
        let _ ← next
        return some (rest ++ [(.notIn, ← sums sub)])
      else return none
    | _ => return none) []
  return if rest.isEmpty then first else .compare first rest

private def notPhrase (sub : Phrase) : Reader Expr := do
  if ← skipName "not" then return .not (← sub .not) else comparison sub

private structure TupleRules where
  item : Reader Expr
  /-- Names that end the tuple besides the end of a tag. -/
  stops : List String := []
  parenthesised : Bool := false

private def tupleEnds (stops : List String) : Reader Bool := do
  return match (← current).kind with
    | .printEnd | .blockEnd => true
    | .op ")" => true
    | .name n => stops.contains n
    | _ => false

/-- Items with commas between them: a tuple when there is a comma, else the one item. -/
private def tuple (rules : TupleRules) : Reader Expr := do
  let (items, isTuple) ← go ((← get).source.tokens.size + 1) []
  match isTuple, items with
  | false, [e] => return e
  | false, _ =>
    if rules.parenthesised then return .tuple []
    else fail ("Expected an expression, got " ++ quoted (describeKind (← current).kind))
  | true, _ => return .tuple items
where
  go : Nat → List Expr → Reader (List Expr × Bool)
    | 0, items => pure (items, true)
    | fuel + 1, items => do
      if !items.isEmpty then let _ ← expectOp ","
      if ← tupleEnds rules.stops then return (items, !items.isEmpty)
      let items := items ++ [← rules.item]
      if ← atOp "," then go fuel items else return (items, items.length > 1)

private def display {α : Type} (close : String) (item : Reader α) : Reader (List α) := do
  let items ← repeated (fun (items : List α) => do
    if ← atOp close then return none
    if !items.isEmpty then let _ ← expectOp ","
    if ← atOp close then return none
    return some (items ++ [← item])) []
  let _ ← expectOp close
  return items

/-- A name, a constant, a display or an expression in parentheses. -/
private def primary (sub : Phrase) (withNamespace : Bool) : Reader Expr := do
  let t ← current
  match t.kind with
  | .name n =>
    let _ ← next
    if n == "true" || n == "True" then return .literal (.bool true)
    else if n == "false" || n == "False" then return .literal (.bool false)
    else if n == "none" || n == "None" then return .literal .none
    else if withNamespace && (← atOp ".") then
      let _ ← next
      return .nsRef (normalForm n) (← expectAnyName).1
    else return .name (normalForm n)
  | .str s =>
    let _ ← next
    let s ← repeated (fun (acc : String) => do
      match (← current).kind with
      | .str more => let _ ← next; return some (acc ++ more)
      | _ => return none) s
    return .literal (.str s)
  | .int n => let _ ← next; return .literal (.int n)
  | .float x => let _ ← next; return .literal (.float x)
  | .op "(" =>
    let _ ← next
    let e ← tuple { item := sub .expression, parenthesised := true }
    let _ ← expectOp ")"
    return e
  | .op "[" => let _ ← next; return .list (← display "]" (sub .expression))
  | .op "\x7b" =>
    let _ ← next
    return .dict (← display "\x7d" (do
      let key ← sub .expression
      let _ ← expectOp ":"
      return (key, ← sub .expression)))
  | kind => failAt t.line ("unexpected " ++ quoted (describeKind kind))

private structure CallState where
  args : List Expr := []
  named : List (String × Expr) := []
  rest : Option Expr := none
  restNamed : Option Expr := none
  comma : Bool := false

private def ensure (line : Nat) (ok : Bool) : Reader Unit :=
  if ok then pure () else failAt line "invalid syntax for function call expression"

private def callArguments (sub : Phrase) : Reader Arguments := do
  let t ← expectOp "("
  let s ← repeated (fun (s : CallState) => do
    if ← atOp ")" then return none
    if s.comma then
      let _ ← expectOp ","
      if ← atOp ")" then return none
    let s := { s with comma := true }
    if ← atOp "*" then
      ensure t.line (s.rest.isNone && s.restNamed.isNone)
      let _ ← next
      return some { s with rest := some (← sub .expression) }
    else if ← atOp "**" then
      ensure t.line s.restNamed.isNone
      let _ ← next
      return some { s with restNamed := some (← sub .expression) }
    else match (← current).kind with
      | .name n =>
        if isOp "=" (← look) then
          ensure t.line s.restNamed.isNone
          let _ ← next
          let _ ← next
          return some { s with named := s.named ++ [(normalForm n, ← sub .expression)] }
        else
          ensure t.line (s.rest.isNone && s.restNamed.isNone && s.named.isEmpty)
          return some { s with args := s.args ++ [← sub .expression] }
      | _ =>
        ensure t.line (s.rest.isNone && s.restNamed.isNone && s.named.isEmpty)
        return some { s with args := s.args ++ [← sub .expression] }) {}
  let _ ← expectOp ")"
  return .mk s.args s.named s.rest s.restNamed

private def slicePart (sub : Phrase) : Reader (Option Expr) := do
  if (← atOp ":") || (← atOp "]") || (← atOp ",") then return none
  else some <$> sub .expression

private def subscribed (sub : Phrase) : Reader Expr := do
  let start ← if ← atOp ":" then pure none else some <$> sub .expression
  if ← skipOp ":" then
    let stop ← slicePart sub
    let step ← if ← skipOp ":" then slicePart sub else pure none
    return .slice start stop step
  else return start.getD (.literal .none)

private def subscript (sub : Phrase) (e : Expr) : Reader Expr := do
  let t ← next
  if isOp "." t then
    let a ← current
    let _ ← next
    match a.kind with
    | .name n => return .attr e n
    | .int n => return .item e (.literal (.int n))
    | _ => failAt a.line "expected name or number"
  else
    let items ← repeated (fun (items : List Expr) => do
      if ← atOp "]" then return none
      if !items.isEmpty then let _ ← expectOp ","
      return some (items ++ [← subscribed sub])) []
    let _ ← expectOp "]"
    match items with
    | [i] => return .item e i
    | _ => return .item e (.tuple items)

private def postfixes (sub : Phrase) (e : Expr) : Reader Expr :=
  repeated (fun e => do
    if (← atOp ".") || (← atOp "[") then return some (← subscript sub e)
    else if ← atOp "(" then return some (.call e (← callArguments sub))
    else return none) e

private def dotted : Reader (String × Nat) := do
  let (n, line) ← expectAnyName
  let n ← repeated (fun (n : String) => do
    if ← skipOp "." then return some (n ++ "." ++ (← expectAnyName).1) else return none) n
  return (n, line)

/-- One filter from its name on. -/
private def filterHere (sub : Phrase) (e : Option Expr) : Reader Expr := do
  let (n, line) ← dotted
  let args ← if ← atOp "(" then callArguments sub else pure .empty
  return .filter e n args line

/-- Filters behind bars. -/
private def filters (sub : Phrase) (e : Option Expr) : Reader (Option Expr) :=
  repeated (fun e => do
    if ← skipOp "|" then return some (some (← filterHere sub e)) else return none) e

private def startsTestArgument (t : Token) : Bool :=
  match t.kind with
  | .name n => n != "else" && n != "or" && n != "and"
  | .str _ | .int _ | .float _ => true
  | .op o => o == "[" || o == "\x7b"
  | _ => false

private def testHere (sub : Phrase) (e : Expr) : Reader Expr := do
  let t ← next
  let negated ← skipName "not"
  let (n, _) ← dotted
  let args ← if ← atOp "(" then callArguments sub
    else if startsTestArgument (← current) then
      if ← atName "is" then fail "You cannot chain multiple tests with is"
      let a ← postfixes sub (← primary sub false)
      pure (.mk [a] [] none none)
    else pure .empty
  let e : Expr := .test e n args t.line
  return if negated then .not e else e

private def filterExpression (sub : Phrase) (e : Expr) : Reader Expr :=
  repeated (fun e => do
    if ← skipOp "|" then return some (← filterHere sub (some e))
    else if ← atName "is" then return some (← testHere sub e)
    else if ← atOp "(" then return some (.call e (← callArguments sub))
    else return none) e

private def unary (sub : Phrase) (withFilter : Bool) : Reader Expr := do
  let e ← if ← skipOp "-" then Expr.neg <$> sub .unaryPlain
    else if ← skipOp "+" then Expr.pos <$> sub .unaryPlain
    else primary sub false
  let e ← postfixes sub e
  if withFilter then filterExpression sub e else return e

private def rule (sub : Phrase) : Goal → Reader Expr
  | .expression => conditional sub
  | .or => orPhrase sub
  | .not => notPhrase sub
  | .unary => unary sub true
  | .unaryPlain => unary sub false

private def phrase : Nat → Phrase
  | 0, _ => fail "expression is nested too deeply"
  | fuel + 1, g => rule (phrase fuel) g

/-! Targets. -/

private def reservedNames : List String := ["true", "false", "none", "True", "False", "None"]

private def targetName (line : Nat) (n : String) : Reader String :=
  if reservedNames.contains n then failAt line "can't assign to 'name'"
  else return normalForm n

private def nameTarget : Reader (String × Nat) := do
  let (n, line) ← expectAnyName
  return (← targetName line n, line)

mutual

private def canAssign : Expr → Bool
  | .name _ | .nsRef .. => true
  | .tuple items => canAssignAll items
  | _ => false

private def canAssignAll : List Expr → Bool
  | [] => true
  | e :: rest => canAssign e && canAssignAll rest

end

private def kindName : Expr → String
  | .literal _ => "const"
  | .tuple _ => "tuple"
  | .list _ => "list"
  | .dict _ => "dict"
  | _ => "expr"

private def target (sub : Phrase) (stops : List String) (withNamespace : Bool) : Reader Expr := do
  let line := (← current).line
  let e ← tuple { item := primary sub withNamespace, stops := stops }
  if canAssign e then return e else failAt line ("can't assign to '" ++ kindName e ++ "'")

/-! Statements. -/

private def either (names : List String) : String := joinWith " or " (names.map quoted)

/-- Complains about a missing end tag, or about a tag that no statement has. -/
private def failOpen {α : Type} (tag : Option String) (ends : List (List String)) (line : Nat) :
    Reader α := do
  let s ← get
  let first := match tag with
    | none => "Unexpected end of template."
    | some n => "Encountered unknown tag " ++ quoted n ++ "."
  let looking := match ends with
    | [] => []
    | names :: _ =>
      if (tag.map fun n => ends.any fun e => e.contains n).getD false then
        ["You probably made a nesting mistake. Jinja is expecting this tag, but currently " ++
          "looking for " ++ either names ++ "."]
      else ["Jinja was looking for the following tags: " ++ either names ++ "."]
  let inner := match s.tags with
    | [] => []
    | t :: _ => ["The innermost block that needs to be closed is " ++ quoted t ++ "."]
  failAt line (joinWith " " (first :: looking ++ inner))

/-- What statements are given: the phrases, and the nodes up to one of some end tags. -/
private structure Parts where
  sub : Phrase
  nodes : Option (List String) → Reader Body

/-- A body up to one of some end tags, which is left unless it is to be dropped. -/
private def body (p : Parts) (ends : List String) (drop : Bool) : Reader Body := do
  let _ ← skipOp ":"
  expectBlockEnd
  let nodes ← p.nodes (some ends)
  let t ← current
  if isEof t then failOpen none (ends :: (← get).ends) t.line
  if drop then let _ ← next
  return nodes

private def forStatement (p : Parts) : Reader Node := do
  let t ← expectName "for"
  let target ← target p.sub ["in"] false
  let _ ← expectName "in"
  let source ← tuple { item := p.sub .or, stops := ["recursive"] }
  let test ← if ← skipName "if" then some <$> p.sub .expression else pure none
  let recursive ← skipName "recursive"
  let nodes ← body p ["endfor", "else"] false
  let stop ← next
  let orElse ← if isName "endfor" stop then pure [] else body p ["endfor"] true
  return .loop target source test recursive nodes orElse t.line

private def ifCases (p : Parts) : Nat → List (Expr × Body) → Reader Node
  | 0, cases => return .branch cases []
  | fuel + 1, cases => do
    let test ← tuple { item := p.sub .or }
    let nodes ← body p ["elif", "else", "endif"] false
    let cases := cases ++ [(test, nodes)]
    let stop ← next
    if isName "elif" stop then ifCases p fuel cases
    else if isName "else" stop then return .branch cases (← body p ["endif"] true)
    else return .branch cases []

private def setStatement (p : Parts) : Reader Node := do
  let start ← next
  let t ← target p.sub [] true
  if ← skipOp "=" then return .set t (← tuple { item := p.sub .expression }) start.line
  else
    let f ← filters p.sub none
    return .setBlock t f (← body p ["endset"] true) start.line

private def withStatement (p : Parts) : Reader Node := do
  let _ ← next
  let pairs ← repeated (fun (pairs : List (Expr × Expr)) => do
    if ← atBlockEnd then return none
    if !pairs.isEmpty then let _ ← expectOp ","
    let t ← target p.sub [] false
    let _ ← expectOp "="
    return some (pairs ++ [(t, ← p.sub .expression)])) []
  return .bind (pairs.map Prod.fst) (pairs.map Prod.snd) (← body p ["endwith"] true)

private def isBlankText : Node → Bool
  | .text s => s.toList.all isBlank
  | _ => false

private def blockStatement (p : Parts) : Reader Node := do
  let t ← next
  let (name, _) ← expectAnyName
  let shared ← skipName "scoped"
  let required ← skipName "required"
  if ← atOp "-" then
    fail ("Block names in Jinja have to be valid Python identifiers and may not contain " ++
      "hyphens, use an underscore instead.")
  let nodes ← body p ["endblock"] true
  if required && !nodes.all isBlankText then
    fail "Required blocks can only contain comments or whitespace"
  let _ ← skipName name
  return .block name shared required nodes t.line

private def contextWords (default : Bool) : Reader Bool := do
  if ((← atName "with") || (← atName "without")) && isName "context" (← look) then
    let t ← next
    let _ ← next
    return isName "with" t
  else return default

private def includeStatement (p : Parts) : Reader Node := do
  let _ ← next
  let e ← p.sub .expression
  let ignore ← if ← atName "ignore" then pure (isName "missing" (← look)) else pure false
  if ignore then
    let _ ← next
    let _ ← next
  return .inclusion e ignore (← contextWords true)

private def importStatement (p : Parts) : Reader Node := do
  let _ ← next
  let e ← p.sub .expression
  let _ ← expectName "as"
  let (n, _) ← nameTarget
  return .importAs e n (← contextWords false)

private def contextHere : Reader (Option Bool) := do
  if ((← atName "with") || (← atName "without")) && isName "context" (← look) then
    let t ← next
    let _ ← next
    return some (isName "with" t)
  else return none

private def importedNames : Nat → List (String × String) →
    Reader (List (String × String) × Bool)
  | 0, names => return (names, false)
  | fuel + 1, names => do
    if !names.isEmpty then let _ ← expectOp ","
    match (← current).kind with
    | .name _ =>
      match ← contextHere with
      | some c => return (names, c)
      | none =>
        let (n, line) ← nameTarget
        if n.startsWith "_" then
          failAt line "names starting with an underline can not be imported"
        let own ← if ← skipName "as" then Prod.fst <$> nameTarget else pure n
        let names := names ++ [(n, own)]
        match ← contextHere with
        | some c => return (names, c)
        | none => if ← atOp "," then importedNames fuel names else return (names, false)
    | _ => mismatch "name"

private def fromStatement (p : Parts) : Reader Node := do
  let t ← next
  let e ← p.sub .expression
  let _ ← expectName "import"
  let (names, c) ← importedNames ((← get).source.tokens.size + 1) []
  return .importNames e names c t.line

private def signature (p : Parts) : Reader (List Parameter) := do
  let _ ← expectOp "("
  let params ← repeated (fun (params : List Parameter) => do
    if ← atOp ")" then return none
    if !params.isEmpty then let _ ← expectOp ","
    let (n, _) ← nameTarget
    if ← skipOp "=" then return some (params ++ [⟨n, some (← p.sub .expression)⟩])
    else if params.any fun q => q.default.isSome then
      fail "non-default argument follows default argument"
    else return some (params ++ [⟨n, none⟩])) []
  let _ ← expectOp ")"
  return params

private def callStatement (p : Parts) : Reader Node := do
  let t ← next
  let params ← if ← atOp "(" then signature p else pure []
  let e ← p.sub .expression
  match e with
  | .call .. => return .callBlock params e (← body p ["endcall"] true) t.line
  | _ => failAt t.line "expected call"

private def filterStatement (p : Parts) : Reader Node := do
  let _ ← next
  let first ← filterHere p.sub none
  let f ← filters p.sub (some first)
  return .filterBlock (f.getD first) (← body p ["endfilter"] true)

private def macroStatement (p : Parts) : Reader Node := do
  let t ← next
  let (n, _) ← nameTarget
  let params ← signature p
  return .define n params (← body p ["endmacro"] true) t.line

private def printStatement (p : Parts) : Reader (List Node) := do
  let _ ← next
  repeated (fun (nodes : List Node) => do
    if ← atBlockEnd then return none
    if !nodes.isEmpty then let _ ← expectOp ","
    return some (nodes ++ [.print (← p.sub .expression)])) []

private def single (r : Reader Node) : Reader (List Node) := do return [← r]

private def statementOf (p : Parts) (name : String) : Option (Reader (List Node)) :=
  match name with
  | "for" => some (single (forStatement p))
  | "if" => some (do
      let _ ← next
      single (ifCases p ((← get).source.tokens.size + 1) []))
  | "block" => some (single (blockStatement p))
  | "extends" => some (do
      let t ← next
      return [.inherit (← p.sub .expression) t.line])
  | "print" => some (printStatement p)
  | "macro" => some (single (macroStatement p))
  | "include" => some (single (includeStatement p))
  | "from" => some (single (fromStatement p))
  | "import" => some (single (importStatement p))
  | "set" => some (single (setStatement p))
  | "with" => some (single (withStatement p))
  | "autoescape" => some (do
      let _ ← next
      let flag ← p.sub .expression
      return [.escaping flag (← body p ["endautoescape"] true)])
  | "call" => some (single (callStatement p))
  | "filter" => some (single (filterStatement p))
  | "capture" => some (do
      let _ ← next
      let n ← p.sub .expression
      return [.capture n (← body p ["endcapture"] true)])
  | _ => none

private def statement (p : Parts) : Reader (List Node) := do
  let t ← current
  match t.kind with
  | .name n =>
    match statementOf p n with
    | some r =>
      modify fun s => { s with tags := n :: s.tags }
      let nodes ← r
      modify fun s => { s with tags := s.tags.tail }
      return nodes
    | none => failOpen (some n) (← get).ends t.line
  | _ => failAt t.line "tag name expected"

private def endsHere (ends : Option (List String)) : Reader Bool := do
  match ends, (← current).kind with
  | some names, .name n => return names.contains n
  | _, _ => return false

private def nodeLoop (p : Parts) (ends : Option (List String)) : Nat → Body → Reader Body
  | 0, nodes => return nodes
  | fuel + 1, nodes => do
    match (← current).kind with
    | .eof => return nodes
    | .data s =>
      let _ ← next
      nodeLoop p ends fuel (nodes ++ [.text s])
    | .printBegin =>
      let _ ← next
      let e ← tuple { item := p.sub .expression }
      match (← current).kind with
      | .printEnd => let _ ← next
      | _ => mismatch (describeKind .printEnd)
      nodeLoop p ends fuel (nodes ++ [.print e])
    | .blockBegin =>
      let _ ← next
      if ← endsHere ends then return nodes
      let more ← statement p
      expectBlockEnd
      nodeLoop p ends fuel (nodes ++ more)
    | _ => fail "internal parsing error"

private def nodes (sub : Phrase) : Nat → Option (List String) → Reader Body
  | 0, _ => fail "template is nested too deeply"
  | fuel + 1, ends => do
    modify fun s => { s with ends := ends.toList ++ s.ends }
    let ns ← nodeLoop ⟨sub, nodes sub fuel⟩ ends ((← get).source.tokens.size + 1) []
    if ends.isSome then modify fun s => { s with ends := s.ends.tail }
    return ns

end Grammar

/-- Reads a template. -/
def Body.read (source : String) : Reading Body :=
  let ts := tokenize source
  let sub := Grammar.phrase (12 * ts.tokens.size + 60)
  match (do Grammar.reach 0; Grammar.nodes sub (ts.tokens.size + 1) none).run ⟨ts, 0, [], []⟩ with
  | .ok (nodes, _) => .ok nodes
  | .error f => .error f

end Stencil.Template
