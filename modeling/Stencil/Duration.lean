import Stencil.Decimal.Printer

/-!
Elapsed time as text: hours, minutes and seconds, of which the larger are left out when zero.
Seconds alone keep one place; beside minutes or hours they are whole.
-/
namespace Stencil.Duration
open Stencil.Text

/-- A span of time cut into hours, minutes and the rest in seconds, a fraction. -/
structure Clock where
  hours : Nat
  minutes : Nat
  seconds : Nat
  unit : Nat
  deriving DecidableEq, Repr

/-- Cuts `num / den` seconds. -/
def Clock.ofRatio (num den : Nat) : Clock :=
  ⟨num / (3600 * den), num / (60 * den) % 60, num % (60 * den), den⟩

def Clock.text (c : Clock) : String :=
  let hours := if c.hours > 0 then [ofNat c.hours ++ "h"] else []
  let minutes := if c.minutes > 0 then [ofNat c.minutes ++ "m"] else []
  let seconds := if c.hours > 0 || c.minutes > 0
    then ofNat (c.seconds / c.unit) ++ "s"
    else String.ofList (Decimal.fixedRatio 1 c.seconds c.unit) ++ "s"
  joinWith " " (hours ++ minutes ++ [seconds])

/-- The text of `num / den` seconds; a negative span counts as none. -/
def ofRatio (num : Int) (den : Nat) : String :=
  if num < 0 then "0.0s" else (Clock.ofRatio num.toNat den).text

/-- Whole hours of a number of seconds, counted with the precision of the number. -/
private def wholeHours (num den : Nat) : Nat :=
  let rounded (n d : Nat) : Nat × Nat :=
    match Decimal.dyadic? (Decimal.nearest n d) with
    | some x => x.ratio
    | none => (n, d)
  let (n, d) := rounded (num - num % (3600 * den)) den
  let (n, d) := rounded n (3600 * d)
  n / d

/-- The text of a number of seconds; nothing when it is no number or infinite. -/
def ofFloat? (x : Float) : Option String :=
  if x < 0 then some "0.0s"
  else (Decimal.dyadic? x).map fun d =>
    let (num, den) := d.ratio
    { Clock.ofRatio num den with hours := wholeHours num den }.text

end Stencil.Duration
