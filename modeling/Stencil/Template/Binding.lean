import Stencil.Template.Value

/-!
Passing arguments to functions. A function's parameters take positional arguments in order and
named ones by name; what does not fit is told in the order unexpected name, name given twice, too
many, missing.
-/
namespace Stencil.Template
open Stencil.Text

/-- The arguments of a call. -/
structure Actuals where
  positional : List Value := []
  named : List (String × Value) := []

namespace Actuals

def ofList (vs : List Value) : Actuals := ⟨vs, []⟩

/-- With one more argument in front. -/
def push (v : Value) (a : Actuals) : Actuals := { a with positional := v :: a.positional }

end Actuals

/-- The parameters of a function, by their names. -/
structure Formals where
  required : List String := []
  optional : List String := []
  /-- Whether further positional arguments are taken. -/
  rest : Bool := false
  namedOnly : List String := []
  /-- Whether any other names are taken. -/
  restNamed : Bool := false

/-- Arguments by parameter, in the order of the parameters, and what is left over. -/
structure Given (α : Type) where
  values : List (String × α)
  rest : List α := []
  named : List (String × α) := []

abbrev Bound := Given Value

namespace Bound

def get? (b : Bound) (name : String) : Option Value := b.values.lookup name

def get (b : Bound) (name : String) (default : Value) : Value := (b.get? name).getD default

end Bound

private def plural (n : Nat) : String := if n == 1 then "" else "s"

/-! Functions that take their arguments by position alone; `shown` names one in complaints. -/

namespace Actuals

def refuseNamed (shown : String) (a : Actuals) : Outcome Unit :=
  if a.named.isEmpty then .ok () else typeError (shown ++ "() takes no keyword arguments")

def refuseAll (shown : String) (a : Actuals) : Outcome Unit := do
  a.refuseNamed shown
  if !a.positional.isEmpty then
    typeError (shown ++ "() takes no arguments (" ++ ofNat a.positional.length ++ " given)")

/-- The only argument. -/
def single (shown : String) (a : Actuals) : Outcome Value := do
  a.refuseNamed shown
  match a.positional with
  | [v] => return v
  | vs =>
    typeError (shown ++ "() takes exactly one argument (" ++ ofNat vs.length ++ " given)")

/-- So many arguments at least and at most. -/
def between (shown name : String) (least most : Nat) (a : Actuals) : Outcome (List Value) := do
  a.refuseNamed shown
  let n := a.positional.length
  let expected (bound : String) (count : Nat) : Outcome (List Value) :=
    typeError (name ++ " expected " ++ bound ++ ofNat count ++ " argument" ++ plural count ++
      ", got " ++ ofNat n)
  if least == most && n != least then expected "" least
  else if n < least then expected "at least " least
  else if n > most then expected "at most " most
  else return a.positional

/-- Like `between`, for functions that are shown with brackets behind their name. -/
def betweenShown (shown : String) (least most : Nat) (a : Actuals) : Outcome (List Value) := do
  let n := a.positional.length
  let takes (bound : String) (count : Nat) : Outcome (List Value) :=
    typeError (shown ++ "() takes " ++ bound ++ ofNat count ++ " argument" ++ plural count ++
      " (" ++ ofNat n ++ " given)")
  if n < least then takes "at least " least
  else if n > most then takes "at most " most
  else return a.positional

/-- The arguments for parameters that may also be given by name. -/
def byName (shown : String) (params : List String) (a : Actuals) :
    Outcome (List (Option Value)) := do
  let n := a.positional.length + a.named.length
  if n > params.length then
    typeError (shown ++ "() takes at most " ++ ofNat params.length ++ " argument" ++
      plural params.length ++ " (" ++ ofNat n ++ " given)")
  match a.named.find? fun e => !params.contains e.1 with
  | some (k, _) => typeError (quoted k ++ " is an invalid keyword argument for " ++ shown ++ "()")
  | none => pure ()
  return params.mapIdx fun i p => (a.positional[i]?).or (a.named.lookup p)

end Actuals

/-- Names joined for a sentence. -/
def nameList : List String → String
  | [] => ""
  | [a] => quoted a
  | [a, b] => quoted a ++ " and " ++ quoted b
  | names => joinWith ", " (names.dropLast.map quoted) ++ ", and " ++
      quoted (names.getLast?.getD "")

namespace Formals

def positional (f : Formals) : List String := f.required ++ f.optional

private def tooMany (f : Formals) (shown : String) (given namedOnlyGiven : Nat) : String :=
  let least := f.required.length
  let most := f.positional.length
  let takes := if f.optional.isEmpty then
      ofNat most ++ " positional argument" ++ plural most
    else "from " ++ ofNat least ++ " to " ++ ofNat most ++ " positional arguments"
  let were := if namedOnlyGiven == 0 then
      ofNat given ++ (if given == 1 then " was given" else " were given")
    else ofNat given ++ " positional argument" ++ plural given ++ " (and " ++
      ofNat namedOnlyGiven ++ " keyword-only argument" ++ plural namedOnlyGiven ++ ") were given"
  shown ++ "() takes " ++ takes ++ " but " ++ were

/-- The complaint about required parameters without an argument. -/
def missingText (shown kind : String) (names : List String) : String :=
  shown ++ "() missing " ++ ofNat names.length ++ " required " ++ kind ++ " argument" ++
    plural names.length ++ ": " ++ nameList names

private def giveNamed {α : Type} (f : Formals) (shown : String) (taken : List (String × α)) :
    List (String × α) → List (String × α) →
      Except String (List (String × α) × List (String × α))
  | [], others => .ok (taken, others)
  | (name, v) :: rest, others =>
    if f.positional.contains name || f.namedOnly.contains name then
      if (taken.lookup name).isSome then
        .error (shown ++ "() got multiple values for argument " ++ quoted name)
      else giveNamed f shown (taken ++ [(name, v)]) rest others
    else if f.restNamed then giveNamed f shown taken rest (others ++ [(name, v)])
    else .error (shown ++ "() got an unexpected keyword argument " ++ quoted name)

/-- Gives arguments of any kind to parameters. `shown` names the function in complaints. -/
def give {α : Type} (f : Formals) (shown : String) (positional : List α)
    (named : List (String × α)) : Except String (Given α) := do
  let taken := f.positional.zip positional
  let (taken, others) ← giveNamed f shown taken named []
  let extra := positional.drop f.positional.length
  if !extra.isEmpty && !f.rest then
    let byName := (f.namedOnly.filter fun n => (taken.lookup n).isSome).length
    throw (tooMany f shown positional.length byName)
  let missing := f.required.filter fun n => (taken.lookup n).isNone
  if !missing.isEmpty then throw (missingText shown "positional" missing)
  return ⟨taken, extra, others⟩

/-- Gives the arguments of a call to parameters. -/
def bind (f : Formals) (shown : String) (a : Actuals) : Outcome Bound :=
  match f.give shown a.positional a.named with
  | .error m => typeError m
  | .ok g => .ok g

end Formals

/-- Binds arguments to a user function; its defaults fill in. -/
def UserFunction.bind (f : UserFunction) (a : Actuals) : Outcome (List Value) := do
  let a := match f.bound with
    | some c => a.push (.class c)
    | none => a
  let required := f.params.filter fun p => p.2.isNone
  let optional := f.params.filter fun p => p.2.isSome
  let formals : Formals := ⟨required.map Prod.fst, optional.map Prod.fst, false, [], false⟩
  let b ← formals.bind f.shown a
  return f.params.map fun (name, default) =>
    b.get name ((default.map Value.ofPlain).getD .none)

end Stencil.Template

/-!
The filters that every template knows: their names, and how they take arguments. Some filters take
what they run in as a hidden first argument, which complaints about arguments count.
-/
namespace Stencil.Template.Filter

structure Signature where
  /-- The name in complaints. -/
  shown : String
  formals : Formals
  /-- Whether a hidden argument comes first. -/
  hidden : Bool := false

private def sig (shown : String) (required optional : List String) : Signature :=
  ⟨shown, { required := required, optional := optional }, false⟩

private def within (shown hidden : String) (required optional : List String) : Signature :=
  ⟨shown, { required := hidden :: required, optional := optional }, true⟩

private def openEnded (shown : String) (required : List String) (hidden : Bool) : Signature :=
  ⟨shown, { required := required, rest := true, restNamed := true }, hidden⟩

/-- The one name of a filter that has several. -/
def canonical (name : String) : String :=
  match name with
  | "count" => "length"
  | "d" => "default"
  | "e" => "escape"
  | name => name

private def table : List (String × Signature) :=
  [("abs", sig "abs" ["x"] []),
    ("length", sig "len" ["obj"] []),
    ("attr", within "do_attr" "environment" ["obj", "name"] []),
    ("batch", sig "do_batch" ["value", "linecount"] ["fill_with"]),
    ("capitalize", sig "do_capitalize" ["s"] []),
    ("center", sig "do_center" ["value"] ["width"]),
    ("default", sig "do_default" ["value"] ["default_value", "boolean"]),
    ("dictsort", sig "do_dictsort" ["value"] ["case_sensitive", "by", "reverse"]),
    ("escape", sig "escape" ["s"] []),
    ("filesizeformat", sig "do_filesizeformat" ["value"] ["binary"]),
    ("first", within "sync_do_first" "environment" ["seq"] []),
    ("float", sig "do_float" ["value"] ["default"]),
    ("forceescape", sig "do_forceescape" ["value"] []),
    ("format", openEnded "do_format" ["value"] false),
    ("groupby", within "sync_do_groupby" "environment" ["value", "attribute"]
      ["default", "case_sensitive"]),
    ("indent", sig "do_indent" ["s"] ["width", "first", "blank"]),
    ("int", sig "do_int" ["value"] ["default", "base"]),
    ("join", within "sync_do_join" "eval_ctx" ["value"] ["d", "attribute"]),
    ("items", sig "do_items" ["value"] []),
    ("last", within "do_last" "environment" ["seq"] []),
    ("list", sig "sync_do_list" ["value"] []),
    ("lower", sig "do_lower" ["s"] []),
    ("map", openEnded "sync_do_map" ["context", "value"] true),
    ("min", within "do_min" "environment" ["value"] ["case_sensitive", "attribute"]),
    ("max", within "do_max" "environment" ["value"] ["case_sensitive", "attribute"]),
    ("pprint", sig "do_pprint" ["value"] []),
    ("random", within "do_random" "context" ["seq"] []),
    ("reject", openEnded "sync_do_reject" ["context", "value"] true),
    ("rejectattr", openEnded "sync_do_rejectattr" ["context", "value"] true),
    ("replace", within "do_replace" "eval_ctx" ["s", "old", "new"] ["count"]),
    ("reverse", sig "do_reverse" ["value"] []),
    ("round", sig "do_round" ["value"] ["precision", "method"]),
    ("safe", sig "do_mark_safe" ["value"] []),
    ("select", openEnded "sync_do_select" ["context", "value"] true),
    ("selectattr", openEnded "sync_do_selectattr" ["context", "value"] true),
    ("slice", sig "sync_do_slice" ["value", "slices"] ["fill_with"]),
    ("sort", within "do_sort" "environment" ["value"] ["reverse", "case_sensitive", "attribute"]),
    ("string", sig "soft_str" ["s"] []),
    ("striptags", sig "do_striptags" ["value"] []),
    ("sum", within "sync_do_sum" "environment" ["iterable"] ["attribute", "start"]),
    ("title", sig "do_title" ["s"] []),
    ("tojson", within "do_tojson" "eval_ctx" ["value"] ["indent"]),
    ("trim", sig "do_trim" ["value"] ["chars"]),
    ("truncate", within "do_truncate" "env" ["s"] ["length", "killwords", "end", "leeway"]),
    ("unique", within "sync_do_unique" "environment" ["value"] ["case_sensitive", "attribute"]),
    ("upper", sig "do_upper" ["s"] []),
    ("urlencode", sig "do_urlencode" ["value"] []),
    ("urlize", within "do_urlize" "eval_ctx" ["value"]
      ["trim_url_limit", "nofollow", "target", "rel", "extra_schemes"]),
    ("wordcount", sig "do_wordcount" ["s"] []),
    ("wordwrap", within "do_wordwrap" "environment" ["s"]
      ["width", "break_long_words", "wrapstring", "break_on_hyphens"]),
    ("xmlattr", within "do_xmlattr" "eval_ctx" ["d"] ["autospace"]),
    ("slugify", sig "_slugify_filter" ["value"] []),
    ("pascal_case", sig "_pascal_case_filter" ["value"] []),
    ("snake_case", sig "_snake_case_filter" ["value"] []),
    ("camel_case", sig "_camel_case_filter" ["value"] [])]

def signature? (name : String) : Option Signature := table.lookup (canonical name)

/-- Whether templates with these filters of their own know a filter. -/
def isKnown (own : List (String × Value)) (name : String) : Bool :=
  (own.lookup name).isSome || (signature? name).isSome

end Stencil.Template.Filter
