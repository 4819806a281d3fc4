/-!
Compressed content. It is a sequence of blocks of bits, each stored as it is or written in two
codes: one for bytes and lengths, and one for distances. A length and a distance repeat what came
before. The words of a code are numbered by their lengths, shorter ones first.
-/
namespace Stencil.Files.Inflate

/-- What is wrong with compressed content. -/
inductive Flaw where
  | cut
  | blockKind | storedLength | codeCount | lengthCode | repetition | noEnd | literalCode
  | distanceCode | literal | distance | tooFar
  deriving DecidableEq, Repr

def Flaw.text : Flaw → String
  | .cut => "incomplete or truncated stream"
  | .blockKind => "invalid block type"
  | .storedLength => "invalid stored block lengths"
  | .codeCount => "too many length or distance symbols"
  | .lengthCode => "invalid code lengths set"
  | .repetition => "invalid bit length repeat"
  | .noEnd => "invalid code -- missing end-of-block"
  | .literalCode => "invalid literal/lengths set"
  | .distanceCode => "invalid distances set"
  | .literal => "invalid literal/length code"
  | .distance => "invalid distance code"
  | .tooFar => "invalid distance too far back"

def Flaw.message (f : Flaw) : String :=
  "Error " ++ (if f == .cut then "-5" else "-3") ++ " while decompressing data: " ++ f.text

/-- The bits of bytes, the lowest of each byte first. -/
def bitsOf (content : List UInt8) : List Bool :=
  content.flatMap fun b => (List.range 8).map fun i => b.toNat.testBit i

abbrev Reader := StateT (List Bool) (Except Flaw)

namespace Reader

def bit : Reader Bool := do
  match ← get with
  | [] => throw .cut
  | b :: rest =>
    set rest
    return b

/-- A number of so many bits, the lowest first. -/
def number : Nat → Reader Nat
  | 0 => return 0
  | width + 1 => do
    let b ← bit
    return b.toNat + 2 * (← number width)

/-- Goes on at the start of a byte. -/
def align : Reader Unit := modify fun bits => bits.drop (bits.length % 8)

end Reader

open Reader (bit number align)

/-! Codes. -/

/-- A code: how many words there are of each length from one on, and what they stand for, in the
order of the words. -/
structure Code where
  counts : List Nat
  symbols : List Nat
  deriving DecidableEq, Repr

/-- The longest word of a code. -/
def maxLength : Nat := 15

namespace Code

/-- The code in which every symbol has a word of a given length; with length zero it has none. -/
def ofLengths (lengths : List Nat) : Code :=
  let ofLength (n : Nat) : List Nat :=
    (lengths.zipIdx.filter fun e => e.1 == n).map Prod.snd
  let words := (List.range maxLength).map fun i => ofLength (i + 1)
  ⟨words.map List.length, words.flatten⟩

/-- How many words of the last length are left; nothing when there are too many words. -/
private def spare : Nat → List Nat → Option Nat
  | left, [] => some left
  | left, n :: rest => if 2 * left < n then none else spare (2 * left - n) rest

/-- Whether the words cover all bits. A code of one word may leave the other bit open. -/
def isWhole (c : Code) (mayLeave : Bool) : Bool :=
  match spare 1 c.counts with
  | none => false
  | some left => left == 0 || c.symbols.isEmpty || (mayLeave && (c.counts.drop 1).all (· == 0))

/-- Reads a word bit by bit: `word` is what was read so far, and `first` is the first word of that
length. -/
private def symbolFrom : List Nat → List Nat → Nat → Nat → Reader (Option Nat)
  | [], _, _, _ => return none
  | n :: rest, symbols, word, first => do
    let word := 2 * word + (← bit).toNat
    let first := 2 * first
    if word < first + n then return symbols[word - first]?
    else symbolFrom rest (symbols.drop n) word (first + n)

/-- The symbol of the next word. -/
def symbol (c : Code) : Reader (Option Nat) := symbolFrom c.counts c.symbols 0 0

end Code

/-- The codes for bytes and lengths, and for distances. -/
structure Codes where
  literals : Code
  distances : Code

def fixedCodes : Codes :=
  ⟨.ofLengths (List.replicate 144 8 ++ List.replicate 112 9 ++ List.replicate 24 7 ++
      List.replicate 8 8),
    .ofLengths (List.replicate 32 5)⟩

/-- The order in which the lengths of the words for lengths are given. -/
private def lengthOrder : List Nat :=
  [16, 17, 18, 0, 8, 7, 9, 6, 10, 5, 11, 4, 12, 3, 13, 2, 14, 1, 15]

private def numbers (width : Nat) : Nat → Reader (List Nat)
  | 0 => return []
  | count + 1 => do
    let n ← number width
    return n :: (← numbers width count)

/-- The lengths of words, the last first. -/
private def lengthsOf (c : Code) (wanted : Nat) : Nat → List Nat → Reader (List Nat)
  | 0, _ => throw .repetition
  | fuel + 1, done => do
    if done.length == wanted then return done
    let again (value count : Nat) : Reader (List Nat) :=
      if done.length + count > wanted then throw .repetition
      else lengthsOf c wanted fuel (List.replicate count value ++ done)
    match ← c.symbol, done with
    | none, _ => throw .noEnd
    | some 16, [] => throw .repetition
    | some 16, last :: _ => again last (3 + (← number 2))
    | some 17, _ => again 0 (3 + (← number 3))
    | some 18, _ => again 0 (11 + (← number 7))
    | some n, _ => again n 1

/-- The codes that a block describes. -/
def ownCodes : Reader Codes := do
  let literals := 257 + (← number 5)
  let distances := 1 + (← number 5)
  let given := 4 + (← number 4)
  if literals > 286 || distances > 30 then throw .codeCount
  let widths := lengthOrder.zip (← numbers 3 given)
  let lengthCode := Code.ofLengths ((List.range 19).map fun s => (widths.lookup s).getD 0)
  if !lengthCode.isWhole false then throw .lengthCode
  let total := literals + distances
  let lengths := (← lengthsOf lengthCode total (total + 1) []).reverse
  if lengths.getD 256 0 == 0 then throw .noEnd
  let codes : Codes := ⟨.ofLengths (lengths.take literals), .ofLengths (lengths.drop literals)⟩
  if !codes.literals.isWhole true then throw .literalCode
  if !codes.distances.isWhole true then throw .distanceCode
  return codes

/-! Blocks. -/

/-- The least length or distance that each symbol stands for, with the number of bits that tell
how much more it is. -/
private def lengthBases : List (Nat × Nat) :=
  [(3, 0), (4, 0), (5, 0), (6, 0), (7, 0), (8, 0), (9, 0), (10, 0), (11, 1), (13, 1), (15, 1),
    (17, 1), (19, 2), (23, 2), (27, 2), (31, 2), (35, 3), (43, 3), (51, 3), (59, 3), (67, 4),
    (83, 4), (99, 4), (115, 4), (131, 5), (163, 5), (195, 5), (227, 5), (258, 0)]

private def distanceBases : List (Nat × Nat) :=
  [(1, 0), (2, 0), (3, 0), (4, 0), (5, 1), (7, 1), (9, 2), (13, 2), (17, 3), (25, 3), (33, 4),
    (49, 4), (65, 5), (97, 5), (129, 6), (193, 6), (257, 7), (385, 7), (513, 8), (769, 8),
    (1025, 9), (1537, 9), (2049, 10), (3073, 10), (4097, 11), (6145, 11), (8193, 12),
    (12289, 12), (16385, 13), (24577, 13)]

private def measure (bases : List (Nat × Nat)) (flaw : Flaw) (symbol : Option Nat) :
    Reader Nat := do
  match symbol.bind fun s => bases[s]? with
  | none => throw flaw
  | some (least, width) => return least + (← number width)

/-- Repeats so many bytes from a distance back. -/
def copyBack (distance : Nat) : Nat → Array UInt8 → Array UInt8
  | 0, out => out
  | count + 1, out => copyBack distance count (out.push (out.getD (out.size - distance) 0))

private def coded (codes : Codes) : Nat → Array UInt8 → Reader (Array UInt8)
  | 0, _ => throw .cut
  | fuel + 1, out => do
    match ← codes.literals.symbol with
    | none => throw .literal
    | some symbol =>
      if symbol < 256 then coded codes fuel (out.push (UInt8.ofNat symbol))
      else if symbol == 256 then return out
      else
        let length ← measure lengthBases .literal (some (symbol - 257))
        let distance ← measure distanceBases .distance (← codes.distances.symbol)
        if distance > out.size then throw .tooFar
        coded codes fuel (copyBack distance length out)

private def stored (out : Array UInt8) : Reader (Array UInt8) := do
  align
  let size ← number 16
  let check ← number 16
  if size + check != 0xFFFF then throw .storedLength
  return out ++ ((← numbers 8 size).map UInt8.ofNat).toArray

private def blocks : Nat → Array UInt8 → Reader (Array UInt8)
  | 0, _ => throw .cut
  | fuel + 1, out => do
    let last ← bit
    let kind ← number 2
    let bound := (← get).length + 1
    let out ← match kind with
      | 0 => stored out
      | 1 => coded fixedCodes bound out
      | 2 => coded (← ownCodes) bound out
      | _ => throw .blockKind
    if last then return out else blocks fuel out

/-- What compressed content stands for; what follows the last block does not matter. -/
def decode (content : List UInt8) : Except Flaw (List UInt8) := do
  let bits := bitsOf content
  return ((← (blocks (bits.length + 1) #[]).run bits).1).toList

end Stencil.Files.Inflate
