import Stencil.Decimal.Printer
import Stencil.Text.Words

/-!
Plain values: what documents, settings and attributes of user classes hold. A value has a text,
which is what it prints as, and a listing, which is how it appears inside other values.
-/
namespace Stencil
open Stencil.Text

inductive Plain where
  | none
  | bool (b : Bool)
  | int (n : Int)
  | float (x : Float)
  | str (s : String)
  | bytes (content : List UInt8)
  /-- A value that is only shown, such as a date, by its text and its listing. -/
  | shown (text listing : String)
  | list (items : List Plain)
  | tuple (items : List Plain)
  | set (items : List Plain)
  | dict (entries : List (Plain × Plain))
  /-- A user class, by its name. -/
  | class (name : String)
  /-- A value that nothing asks the content of, by the name of its kind. -/
  | other (kind : String)

instance : Inhabited Plain := ⟨.none⟩

namespace Plain

/-- The name of the kind of a value, for complaints. -/
def kindName : Plain → String
  | none => "NoneType"
  | bool _ => "bool"
  | int _ => "int"
  | float _ => "float"
  | str _ => "str"
  | bytes _ => "bytes"
  | shown _ listing => .ofList (listing.toList.takeWhile (· != '('))
  | list _ => "list"
  | tuple _ => "tuple"
  | set _ => "set"
  | dict _ => "dict"
  | .class _ => "type"
  | other kind => kind

mutual

def listing : Plain → String
  | none => "None"
  | bool b => if b then "True" else "False"
  | int n => ofInt n
  | float x => Decimal.text x
  | str s => quoted s
  | bytes content => quotedBytes content
  | shown _ listing => listing
  | list items => "[" ++ joinWith ", " (listings items) ++ "]"
  | tuple [item] => "(" ++ listing item ++ ",)"
  | tuple items => "(" ++ joinWith ", " (listings items) ++ ")"
  | set [] => "set()"
  | set items => "\x7b" ++ joinWith ", " (listings items) ++ "\x7d"
  | dict entries => "\x7b" ++ joinWith ", " (entryListings entries) ++ "\x7d"
  | .class name => "<class " ++ quoted name ++ ">"
  | other kind => "<" ++ kind ++ " object>"

def listings : List Plain → List String
  | [] => []
  | v :: rest => listing v :: listings rest

def entryListings : List (Plain × Plain) → List String
  | [] => []
  | (k, v) :: rest => (listing k ++ ": " ++ listing v) :: entryListings rest

end

def text : Plain → String
  | str s => s
  | shown text _ => text
  | v => v.listing

/-- Whether a value counts as true. -/
def truth : Plain → Bool
  | none => false
  | bool b => b
  | int n => n != 0
  | float x => x != 0.0
  | str s => s != ""
  | bytes content => !content.isEmpty
  | list items | tuple items | set items => !items.isEmpty
  | dict entries => !entries.isEmpty
  | _ => true

/-- The value under a text key. -/
def valueOf? (entries : List (Plain × Plain)) (key : String) : Option Plain :=
  (entries.find? fun
    | (.str k, _) => k == key
    | _ => false).map Prod.snd

end Plain
/-!
Looking into plain values whose shape is not known. A value of the wrong kind is a fault that
names the kind.
-/

/-- A value of a kind that does not allow what is asked of it. -/
inductive ShapeFault where
  /-- It has no named fields. -/
  | noFields (kind : String)
  /-- It has no items. -/
  | noItems (kind : String)
  /-- It is no part of a path. -/
  | noPath (kind : String)
  deriving DecidableEq, Repr

def ShapeFault.message : ShapeFault → String
  | .noFields kind => quoted kind ++ " object has no attribute 'get'"
  | .noItems kind => quoted kind ++ " object is not iterable"
  | .noPath kind => "unsupported operand type(s) for /: 'PosixPath' and " ++ quoted kind

namespace Plain

/-- The field of a table, or a default when the table lacks it. -/
def fieldOr (v : Plain) (name : String) (default : Plain) : Except ShapeFault Plain :=
  match v with
  | dict entries => .ok ((valueOf? entries name).getD default)
  | v => .error (.noFields v.kindName)

/-- A field of nested tables; missing tables are empty. -/
def nestedFieldOr (v : Plain) (names : List String) (default : Plain) : Except ShapeFault Plain :=
  match names with
  | [] => .ok v
  | [name] => v.fieldOr name default
  | name :: rest => do (← v.fieldOr name (dict [])).nestedFieldOr rest default

/-- The items of a value: those of a list, the characters of a text, the keys of a table. -/
def itemsOf : Plain → Except ShapeFault (List Plain)
  | list items | tuple items | set items => .ok items
  | str s => .ok (s.toList.map fun c => str (.singleton c))
  | dict entries => .ok (entries.map Prod.fst)
  | v => .error (.noItems v.kindName)

/-- A value taken as a name or a path. -/
def pathText : Plain → Except ShapeFault String
  | str s => .ok s
  | v => .error (.noPath v.kindName)

end Plain
/-!
Days and times of day as plain values. A time of day is shown to the second, and to the
microsecond when there is a fraction; an offset from the common time follows a sign.
-/

structure Day where
  year : Nat
  month : Nat
  day : Nat
  deriving DecidableEq, Repr

structure Clock where
  hour : Nat
  minute : Nat
  second : Nat
  micros : Nat
  deriving DecidableEq, Repr

private def two (n : Nat) : String := .ofList (digitsBase 10 2 n)

namespace Day

def isLeap (year : Nat) : Bool := year % 4 == 0 && (year % 100 != 0 || year % 400 == 0)

def lengthOfMonth (year month : Nat) : Nat :=
  match month with
  | 2 => if isLeap year then 29 else 28
  | 4 | 6 | 9 | 11 => 30
  | _ => 31

/-- Why there is no such day. -/
def fault? (d : Day) : Option String :=
  if d.year == 0 || 9999 < d.year then some ("year " ++ ofNat d.year ++ " is out of range")
  else if d.month == 0 || 12 < d.month then some "month must be in 1..12"
  else if d.day == 0 || lengthOfMonth d.year d.month < d.day then
    some "day is out of range for month"
  else none

def text (d : Day) : String :=
  .ofList (digitsBase 10 4 d.year) ++ "-" ++ two d.month ++ "-" ++ two d.day

def parts (d : Day) : List Nat := [d.year, d.month, d.day]

end Day

namespace Clock

/-- Why there is no such time of day. -/
def fault? (c : Clock) : Option String :=
  if 23 < c.hour then some "hour must be in 0..23"
  else if 59 < c.minute then some "minute must be in 0..59"
  else if 59 < c.second then some "second must be in 0..59"
  else none

def text (c : Clock) : String :=
  two c.hour ++ ":" ++ two c.minute ++ ":" ++ two c.second ++
    (if c.micros == 0 then "" else "." ++ .ofList (digitsBase 10 6 c.micros))

/-- The parts of a time of day; zeros at the end are left out. -/
def parts (c : Clock) : List Nat :=
  [c.hour, c.minute] ++
    (if c.micros != 0 then [c.second, c.micros] else if c.second != 0 then [c.second] else [])

end Clock

private def madeOf (name : String) (parts : List Nat) (more : List String) : String :=
  "datetime." ++ name ++ "(" ++ joinWith ", " (parts.map ofNat ++ more) ++ ")"

/-- An offset in minutes, behind its sign. -/
private def offsetText (minutes : Int) : String :=
  (if minutes < 0 then "-" else "+") ++ two (minutes.natAbs / 60) ++ ":" ++
    two (minutes.natAbs % 60)

/-- A length of time in minutes: whole days, which may be negative, and the seconds after them. -/
def durationListing (minutes : Int) : String :=
  let days := minutes.fdiv 1440
  let seconds := minutes.fmod 1440 * 60
  let parts := (if days == 0 then [] else ["days=" ++ ofInt days]) ++
    (if seconds == 0 then [] else ["seconds=" ++ ofInt seconds])
  "datetime.timedelta(" ++ (if parts.isEmpty then "0" else joinWith ", " parts) ++ ")"

private def offsetListing (minutes : Int) : String :=
  if minutes == 0 then "tzinfo=datetime.timezone.utc"
  else "tzinfo=datetime.timezone(" ++ durationListing minutes ++ ")"

namespace Plain

def ofDay (d : Day) : Plain := .shown d.text (madeOf "date" d.parts [])

def ofClock (c : Clock) : Plain := .shown c.text (madeOf "time" c.parts [])

/-- A day and a time on it, with an offset in minutes when it is known. -/
def ofInstant (d : Day) (c : Clock) (offset : Option Int) : Plain :=
  .shown (d.text ++ " " ++ c.text ++ (offset.elim "" offsetText))
    (madeOf "datetime" (d.parts ++ c.parts) (offset.elim [] fun m => [offsetListing m]))

end Plain
end Stencil
