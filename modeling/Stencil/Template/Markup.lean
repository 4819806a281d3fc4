import Stencil.Template.Value.Braces
import Stencil.Text.Entity

/-!
Markup: texts whose special characters are written as entities. A text is protected before it is
put into markup; markup stays as it is.
-/
namespace Stencil.Template
open Stencil.Text

namespace Markup

private def entity (c : Char) : List Char :=
  if c == '&' then "&amp;".toList
  else if c == '<' then "&lt;".toList
  else if c == '>' then "&gt;".toList
  else if c == '"' then "&#34;".toList
  else if c == '\'' then "&#39;".toList
  else [c]

/-- Writes special characters as entities. -/
def protectChars (cs : List Char) : List Char := cs.flatMap entity

def protect (s : String) : String := .ofList (protectChars s.toList)

/-- The text of a value as it stands inside markup. -/
def textOf : Value → Outcome String
  | .markup s => .ok s
  | v => v.text.map protect

/-- Writes entities as the characters they stand for. -/
def unprotect (cs : List Char) : List Char := readEntities cs.length cs

private def dropComments : Nat → List Char → List Char
  | 0, cs => cs
  | fuel + 1, cs =>
    match cutAt? "<!--".toList cs with
    | none => cs
    | some (before, rest) =>
      match cutAt? "-->".toList ('-' :: '-' :: rest) with
      | none => cs
      | some (_, after) => dropComments fuel (before ++ after)

private def dropTags : Nat → List Char → List Char
  | 0, cs => cs
  | fuel + 1, cs =>
    match cutAt? ['<'] cs with
    | none => cs
    | some (before, rest) =>
      match cutAt? ['>'] rest with
      | none => cs
      | some (_, after) => dropTags fuel (before ++ after)

/-- Without comments and tags; runs of white space become single blanks. -/
def stripTags (s : String) : String :=
  let cs := dropTags (s.length + 1) (dropComments (s.length + 1) s.toList)
  .ofList (unprotect (joinWith " " (words (.ofList cs))).toList)

end Markup
end Stencil.Template
