import Stencil.Text.CharName

/-!
Backslash escapes of quoted texts: control characters by letter, characters by octal,
hexadecimal or full code or by name. An unknown escape stays as it is written.
-/
namespace Stencil.Text

def octalDigit? (c : Char) : Option Nat :=
  if '0' ≤ c && c ≤ '7' then some (c.toNat - 48) else none

/-- Up to three octal digits. -/
def takeOctal (cs : List Char) : Nat × List Char :=
  let digits := (cs.take 3).takeWhile fun c => (octalDigit? c).isSome
  (digits.foldl (fun n c => n * 8 + (octalDigit? c).getD 0) 0, cs.drop digits.length)

/-- Exactly `width` hexadecimal digits. -/
def takeHex? (width : Nat) (cs : List Char) : Option (Nat × List Char) :=
  let digits := (cs.take width).takeWhile fun c => (hexValue? c).isSome
  if digits.length == width then
    some (digits.foldl (fun n c => n * 16 + (hexValue? c).getD 0) 0, cs.drop width)
  else none

/-- The character that a letter stands for behind a backslash. -/
def letterEscape? (c : Char) : Option Char :=
  match c with
  | '\\' => some '\\'
  | '\'' => some '\''
  | '"' => some '"'
  | 'a' => some '\x07'
  | 'b' => some '\x08'
  | 'f' => some '\x0c'
  | 'n' => some '\n'
  | 'r' => some '\r'
  | 't' => some '\t'
  | 'v' => some '\x0b'
  | _ => none

/-- An escape that cannot be resolved: the bytes it takes and what is wrong. -/
structure EscapeError where
  first : Nat
  last : Nat
  reason : String
  deriving DecidableEq, Repr

def EscapeError.message (e : EscapeError) : String :=
  "'unicodeescape' codec can't decode bytes in position " ++ ofNat e.first ++ "-" ++
    ofNat e.last ++ ": " ++ e.reason

/-- How many bytes a character counts: others than ASCII are first written by their code. -/
private def byteCount (c : Char) : Nat := if c.toNat < 128 then 1 else 10

private def bytesOf (cs : List Char) : Nat := cs.foldl (fun n c => n + byteCount c) 0

private def resolveLoop : Nat → Nat → List Char → List Char → Except EscapeError (List Char)
  | 0, _, _, out => .ok out.reverse
  | _, _, [], out => .ok out.reverse
  | fuel + 1, pos, '\\' :: c :: rest, out =>
    if c == '\n' then resolveLoop fuel (pos + 2) rest out
    else match letterEscape? c with
      | some r => resolveLoop fuel (pos + 2) rest (r :: out)
      | none =>
        if (octalDigit? c).isSome then
          let (n, after) := takeOctal (c :: rest)
          resolveLoop fuel (pos + 1 + ((c :: rest).length - after.length)) after
            (Char.ofNat n :: out)
        else
          let hex (width : Nat) (name : String) :=
            match takeHex? width rest with
            | some (n, after) =>
              if n > 0x10FFFF then .error ⟨pos, pos + 1 + width, "illegal Unicode character"⟩
              else resolveLoop fuel (pos + 2 + width) after (Char.ofNat n :: out)
            | none =>
              let got := ((rest.take width).takeWhile fun c => (hexValue? c).isSome).length
              .error ⟨pos, pos + 1 + got, "truncated " ++ name ++ " escape"⟩
          if c == 'x' then hex 2 "\\xXX"
          else if c == 'u' then hex 4 "\\uXXXX"
          else if c == 'U' then hex 8 "\\UXXXXXXXX"
          else if c == 'N' then
            let malformed (last : Nat) : Except EscapeError (List Char) :=
              .error ⟨pos, last, "malformed \\N character escape"⟩
            match rest with
            | '\x7b' :: more =>
              let name := more.takeWhile (· != '\x7d')
              let size := bytesOf name
              if name.length == more.length then malformed (pos + 2 + size)
              else if name.isEmpty then malformed (pos + 2)
              else match namedCharacter? name with
                | some r =>
                  resolveLoop fuel (pos + 4 + size) (more.drop (name.length + 1)) (r :: out)
                | none => .error ⟨pos, pos + 3 + size, "unknown Unicode character name"⟩
            | _ => malformed (pos + 1)
          else
            let size := if c.toNat < 128 then 2 else 6 + byteCount c
            resolveLoop fuel (pos + size) rest (c :: '\\' :: out)
  | fuel + 1, pos, c :: rest, out =>
    if c == '\\' && rest.isEmpty then .error ⟨pos, pos, "\\ at end of string"⟩
    else resolveLoop fuel (pos + byteCount c) rest (c :: out)

/-- Resolves the escapes of a text. -/
def resolveEscapes (cs : List Char) : Except EscapeError (List Char) :=
  resolveLoop (cs.length + 1) 0 cs []

end Stencil.Text
