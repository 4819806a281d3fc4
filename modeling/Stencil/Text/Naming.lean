import Stencil.Text.CaseMap
import Stencil.Text.Words

/-!
Spellings of a name: snake case, pascal case, camel case, slugs and the loose form in which a
class and a file are compared. All work on any text and leave characters they do not know.
-/
namespace Stencil.Naming
open Stencil.Text

/-- Characters that separate the words of a pascal-case source. -/
def isSeparator (c : Char) : Bool := c == '-' || c == '_' || isBlank c

/-- Puts an underscore before each capital that begins a lower-case run and has a character
before it. -/
def splitCapitalised : List Char → List Char
  | c :: u :: l :: rest =>
    if c != '\n' && u.isUpper && l.isLower then
      c :: '_' :: u :: l :: rest.takeWhile Char.isLower ++
        splitCapitalised (rest.dropWhile Char.isLower)
    else c :: splitCapitalised (u :: l :: rest)
  | cs => cs
termination_by cs => cs.length
decreasing_by
  · have := (List.dropWhile_sublist Char.isLower (l := rest)).length_le
    simp; omega
  · simp

/-- Puts an underscore between a small letter or digit and the capital after it. -/
def splitHumps : List Char → List Char
  | c :: u :: rest =>
    if (c.isLower || c.isDigit) && u.isUpper then c :: '_' :: splitHumps (u :: rest)
    else c :: splitHumps (u :: rest)
  | cs => cs

/-- White space and hyphens, for which snake case has underscores. -/
def isGap (c : Char) : Bool := c == '-' || isBlank c

/-- Turns each run of hyphens and white space into one underscore. -/
def joinGaps (cs : List Char) : List Char := markRuns isGap '_' cs

def snakeChars (cs : List Char) : List Char :=
  lowerChars (joinGaps (splitHumps (splitCapitalised cs)))

/-- Words joined by underscores, in lower case. -/
def snakeCase (s : String) : String := .ofList (snakeChars s.toList)

def capitalised : List Char → List Char
  | [] => []
  | c :: rest => upperChar c ++ rest

def pascalChars (cs : List Char) : List Char :=
  (runsOutside isSeparator cs).flatMap capitalised

/-- Words joined without a mark, each with a capital. -/
def pascalCase (s : String) : String := .ofList (pascalChars s.toList)

def camelChars (cs : List Char) : List Char :=
  match pascalChars cs with
  | [] => []
  | c :: rest => lowerChar c ++ rest

/-- Pascal case with a small first letter. -/
def camelCase (s : String) : String := .ofList (camelChars s.toList)

/-- The characters a slug keeps. -/
def isSlugChar (c : Char) : Bool := c.isLower || c.isDigit

/-- White space at the ends goes first, then each run of what a slug does not keep becomes a hyphen,
and last the hyphens at the ends go. -/
def slugChars (cs : List Char) : List Char :=
  trimBy (· == '-') (markRuns (fun c => !isSlugChar c) '-' (trimBy isBlank (lowerChars cs)))

/-- Lower case with hyphens in the place of all but letters and digits. -/
def slugify (s : String) : String := .ofList (slugChars s.toList)

/-- Lower case without underscores and hyphens: how class names and file stems are compared. -/
def looseForm (s : String) : String :=
  .ofList ((lowerChars s.toList).filter fun c => c != '_' && c != '-')

end Stencil.Naming
