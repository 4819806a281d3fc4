import Stencil.Yaml.Node

/-!
Reading the one document of a stream as a node. Collections are read item by item; an anchor
names a node from where it begins.
-/
namespace Stencil.Yaml
open Stencil.Text

/-- An anchored node; nothing while it is being read. -/
private structure Anchored where
  name : String
  start : Mark
  isMapping : Bool
  node : Option Node

private structure Reading where
  stream : Stream
  handles : List (String × String) := []
  anchors : List Anchored := []

private abbrev Read := StateT Reading (Except Fault)

private def peek : Read Token := do
  let r ← get
  let (t, s) ← r.stream.peek
  set { r with stream := s }
  return t

private def take : Read Token := do
  let r ← get
  let (t, s) ← r.stream.next
  set { r with stream := s }
  return t

private def at? (kinds : List TokenKind) : Read Bool := do
  return kinds.contains (← peek).kind

private def isDirective : TokenKind → Bool
  | .directive _ => true
  | _ => false

private def isScalar : TokenKind → Bool
  | .scalar .. => true
  | _ => false

private def fail {α : Type} (problem : String) (place : Mark) : Read α :=
  StateT.lift (faultAt problem place)

private def failIn {α : Type} (context : String) (start : Mark) (problem : String)
    (place : Mark) : Read α :=
  StateT.lift (faultIn context start problem place)

/-! Directives. -/

private def standardHandles : List (String × String) := [("!", "!"), ("!!", coreTag "")]

private def directives : Nat → Bool → List (String × String) → Read (List (String × String))
  | 0, _, handles => pure handles
  | fuel + 1, versioned, handles => do
    let t ← peek
    match t.kind with
    | .directive d =>
      let _ ← take
      match d with
      | .version major _ =>
        if versioned then fail "found duplicate YAML directive" t.start
        else if major != 1 then
          fail "found incompatible YAML document (version 1.* is required)" t.start
        else directives fuel true handles
      | .tag handle start =>
        if (handles.lookup handle).isSome then
          fail ("duplicate tag handle " ++ quoted handle) t.start
        else directives fuel versioned (handles ++ [(handle, start)])
      | .other _ => directives fuel versioned handles
    | _ => return handles

/-- Directives and the mark that starts a document. -/
private def explicitStart (fuel : Nat) : Read Unit := do
  let handles ← directives fuel false []
  modify fun r => { r with handles := handles ++ standardHandles }
  let t ← peek
  if t.kind == .documentStart then
    let _ ← take
  else fail ("expected '<document start>', but found " ++ t.kind.shown) t.start

/-! Nodes. -/

/-- What may stand in front of a node. -/
private structure Properties where
  anchor : Option String := none
  tag : Option String := none
  start : Option Mark := none

private def withHandle (p : Properties) (handle : Option String) (suffix : String)
    (place : Mark) : Read Properties := do
  match handle with
  | none => return { p with tag := some suffix }
  | some h =>
    match (← get).handles.lookup h with
    | some text => return { p with tag := some (text ++ suffix) }
    | none =>
      failIn "while parsing a node" (p.start.getD place)
        ("found undefined tag handle " ++ quoted h) place

private def anchorName? : TokenKind → Option String
  | .anchor name => some name
  | _ => none

private def takeAnchor (p : Properties) : Read Properties := do
  let t ← peek
  match anchorName? t.kind with
  | some name =>
    let _ ← take
    return { p with anchor := some name, start := p.start.or (some t.start) }
  | none => return p

/-- An anchor and a tag, in either order; the handle is looked up behind both. -/
private def properties : Read Properties := do
  let p ← takeAnchor {}
  let t ← peek
  match t.kind with
  | .tag handle suffix =>
    let _ ← take
    let p := { p with start := p.start.or (some t.start) }
    let p ← if p.anchor.isSome then pure p else takeAnchor p
    withHandle p handle suffix t.start
  | _ => return p

private def emptyScalar (m : Mark) : Node := .scalar (plainTag "") "" m

/-- Announces the anchor of a node that begins. -/
private def announce (p : Properties) (start : Mark) (isMapping : Bool) : Read Unit := do
  match p.anchor with
  | none => return ()
  | some name =>
    modify fun r => { r with anchors := ⟨name, start, isMapping, none⟩ :: r.anchors }

/-- Refuses an anchor that is taken. -/
private def checkAnchor (p : Properties) (start : Mark) : Read Unit := do
  match p.anchor with
  | none => return ()
  | some name =>
    match (← get).anchors.find? fun a => a.name == name with
    | some a =>
      failIn ("found duplicate anchor " ++ quoted name ++ "; first occurrence") a.start
        "second occurrence" start
    | none => return ()

private def complete (p : Properties) (n : Node) : Read Node := do
  match p.anchor with
  | none => return n
  | some name =>
    modify fun r => { r with anchors := r.anchors.map fun a =>
      if a.name == name then { a with node := some n } else a }
    return n

private def aliased (name : String) (place : Mark) : Read Node := do
  match (← get).anchors.find? fun a => a.name == name with
  | none => fail ("found undefined alias " ++ quoted name) place
  | some a => return a.node.getD (.self a.isMapping a.start)

private def tagOr (p : Properties) (standard : String) : String :=
  match p.tag with
  | none | some "!" => coreTag standard
  | some t => t

private def scalarTag (p : Properties) (text : String) (plain : Bool) : String :=
  match p.tag with
  | none => if plain then plainTag text else coreTag "str"
  | some "!" => plainTag text
  | some t => t

/-- Where a node may stand. -/
private structure Setting where
  inBlock : Bool
  /-- Items at the column of their key make a sequence. -/
  indentless : Bool := false

private def blockSetting : Setting := ⟨true, false⟩
private def entrySetting : Setting := ⟨true, true⟩
private def flowSetting : Setting := ⟨false, false⟩

/-- What an open collection is, for complaints. -/
private def unended {α : Type} (context : String) (start : Mark) (expected : String)
    (found : Token) : Read α :=
  failIn context start ("expected " ++ expected ++ found.kind.shown) found.start

mutual

private def nodeAt : Nat → Setting → Read Node
  | 0, _ => do fail "" (← peek).start
  | fuel + 1, place => do
    let t ← peek
    match t.kind with
    | .reference name =>
      let _ ← take
      aliased name t.start
    | _ =>
      let p ← properties
      let t ← peek
      let start := p.start.getD t.start
      let sequence (items : Read (List Node)) : Read Node := do
        checkAnchor p start
        announce p start false
        complete p (.sequence (tagOr p "seq") (← items) start)
      let mapping (entries : Read (List (Node × Node))) : Read Node := do
        checkAnchor p start
        announce p start true
        complete p (.mapping (tagOr p "map") (← entries) start)
      let scalar (text : String) (plain : Bool) : Read Node := do
        checkAnchor p start
        announce p start false
        complete p (.scalar (scalarTag p text plain) text start)
      match t.kind with
      | .scalar text plain =>
        let _ ← take
        scalar text plain
      | .flowSequenceStart => sequence do
          let open_ ← take
          flowItems fuel open_.start true
      | .flowMappingStart => mapping do
          let open_ ← take
          flowEntries fuel open_.start true
      | kind =>
        if kind == .blockItem && place.indentless then sequence (looseItems fuel)
        else if kind == .blockSequenceStart && place.inBlock then sequence do
          let open_ ← take
          blockItems fuel open_.start
        else if kind == .blockMappingStart && place.inBlock then mapping do
          let open_ ← take
          blockEntries fuel open_.start
        else if p.anchor.isSome || p.tag.isSome then
          scalar "" (p.tag.isNone)
        else
          failIn ("while parsing a " ++ (if place.inBlock then "block" else "flow") ++ " node")
            start ("expected the node content, but found " ++ t.kind.shown) t.start

/-- A node, or an empty scalar when one of some tokens follows. -/
private def nodeUnless : Nat → Setting → List TokenKind → Mark → Read Node
  | 0, _, _, m => pure (emptyScalar m)
  | fuel + 1, place, ends, m => do
    if ← at? ends then return emptyScalar m
    nodeAt fuel place

private def blockItems : Nat → Mark → Read (List Node)
  | 0, _ => pure []
  | fuel + 1, start => do
    let t ← peek
    if t.kind == .blockItem then
      let _ ← take
      let n ← nodeUnless fuel blockSetting [.blockItem, .blockEnd] t.stop
      return n :: (← blockItems fuel start)
    else if t.kind == .blockEnd then
      let _ ← take
      return []
    else unended "while parsing a block collection" start "<block end>, but found " t

private def looseItems : Nat → Read (List Node)
  | 0 => pure []
  | fuel + 1 => do
    let t ← peek
    if t.kind == .blockItem then
      let _ ← take
      let n ← nodeUnless fuel blockSetting [.blockItem, .key, .value, .blockEnd] t.stop
      return n :: (← looseItems fuel)
    else return []

private def blockEntries : Nat → Mark → Read (List (Node × Node))
  | 0, _ => pure []
  | fuel + 1, start => do
    let t ← peek
    if t.kind == .key then
      let _ ← take
      let k ← nodeUnless fuel entrySetting [.key, .value, .blockEnd] t.stop
      let v ← blockValue fuel
      return (k, v) :: (← blockEntries fuel start)
    else if t.kind == .blockEnd then
      let _ ← take
      return []
    else unended "while parsing a block mapping" start "<block end>, but found " t

private def blockValue : Nat → Read Node
  | 0 => do return emptyScalar (← peek).start
  | fuel + 1 => do
    let t ← peek
    if t.kind == .value then
      let _ ← take
      nodeUnless fuel entrySetting [.key, .value, .blockEnd] t.stop
    else return emptyScalar t.start

private def flowItems : Nat → Mark → Bool → Read (List Node)
  | 0, _, _ => pure []
  | fuel + 1, start, first => do
    if ← at? [.flowSequenceEnd] then
      let _ ← take
      return []
    if !first then
      let t ← take
      if t.kind != .flowItem then
        unended "while parsing a flow sequence" start "',' or ']', but got " t
    let t ← peek
    if t.kind == .flowSequenceEnd then
      let _ ← take
      return []
    else if t.kind == .key then
      let _ ← take
      let k ← nodeUnless fuel flowSetting [.value, .flowItem, .flowSequenceEnd] t.stop
      let v ← flowValue fuel [.flowItem, .flowSequenceEnd]
      return .mapping (coreTag "map") [(k, v)] t.start :: (← flowItems fuel start false)
    else
      let n ← nodeAt fuel flowSetting
      return n :: (← flowItems fuel start false)

private def flowValue : Nat → List TokenKind → Read Node
  | 0, _ => do return emptyScalar (← peek).start
  | fuel + 1, ends => do
    let t ← peek
    if t.kind == .value then
      let _ ← take
      nodeUnless fuel flowSetting ends t.stop
    else return emptyScalar t.start

private def flowEntries : Nat → Mark → Bool → Read (List (Node × Node))
  | 0, _, _ => pure []
  | fuel + 1, start, first => do
    if ← at? [.flowMappingEnd] then
      let _ ← take
      return []
    if !first then
      let t ← take
      if t.kind != .flowItem then
        unended "while parsing a flow mapping" start "',' or '\x7d', but got " t
    let t ← peek
    if t.kind == .flowMappingEnd then
      let _ ← take
      return []
    else if t.kind == .key then
      let _ ← take
      let k ← nodeUnless fuel flowSetting [.value, .flowItem, .flowMappingEnd] t.stop
      let v ← flowValue fuel [.flowItem, .flowMappingEnd]
      return (k, v) :: (← flowEntries fuel start false)
    else
      let k ← nodeAt fuel flowSetting
      let v := emptyScalar (← peek).start
      return (k, v) :: (← flowEntries fuel start false)

end

/-! The document. -/

private def root (fuel : Nat) : Read (Option Node) := do
  let _ ← take
  let t ← peek
  if isDirective t.kind || t.kind == .documentStart then
    explicitStart fuel
    if ← at? [.documentStart, .documentEnd, .streamEnd] then
      return some (emptyScalar (← peek).start)
    if isDirective (← peek).kind then return some (emptyScalar (← peek).start)
    some <$> nodeAt fuel blockSetting
  else if t.kind == .streamEnd then return none
  else
    modify fun r => { r with handles := standardHandles }
    some <$> nodeAt fuel blockSetting

private def dropEnds : Nat → Read Unit
  | 0 => pure ()
  | fuel + 1 => do
    if ← at? [.documentEnd] then
      let _ ← take
      dropEnds fuel

/-- Refuses a second document. -/
private def ended (fuel : Nat) (first : Node) : Read Unit := do
  dropEnds fuel
  let t ← peek
  if t.kind != .streamEnd then
    explicitStart fuel
    failIn "expected a single document in the stream" first.start "but found another document"
      t.start

/-- The node of the one document; nothing in an empty stream. -/
def Node.read (text : String) : Except Fault (Option Node) :=
  let cs := text.toList
  match cs.find? fun c => !isAllowed c with
  | some c => .error (.character c (cs.takeWhile isAllowed).length)
  | none =>
    let fuel := 8 * cs.length + 32
    let all : Read (Option Node) := do
      let n ← root fuel
      match n with
      | some n => ended fuel n
      | none => pure ()
      return n
    all.run' { stream := { cursor := { rest := cs } } }

end Stencil.Yaml
