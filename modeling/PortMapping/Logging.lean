import PortMapping.Configuration.Basic
import PortMapping.Log
import PortMapping.Text.Numeral

/-!
# What is logged, and how

The least grave level that is logged comes from the environment if that names
one, else from the settings, else it is `info`.  Names of levels may be in any
case, and a level may be a number from one, the gravest, to five.  The first
policy installed stays in force.
-/

namespace PortMapping

/-- The layout of log lines. -/
inductive Layout where
  | full
  | compact
  | json
  deriving DecidableEq, Repr

namespace Layout

/-- The layout with a name; every other name means the full one. -/
def named (name : String) : Layout :=
  if name = "json" then .json else if name = "compact" then .compact else .full

end Layout

namespace Level

/-- Whether two texts agree up to the case of ASCII letters. -/
def sameWord (left right : List Char) : Bool :=
  left.map Char.toLower = right.map Char.toLower

/-- The level with a name in any case. -/
def named? (name : List Char) : Option Level :=
  all.find? fun level => sameWord level.name.toList name

/-- Numbers that may stand for a level: any padding, below 2⁶⁴. -/
def rankRule : Text.NumeralRule where
  base := 10
  longest := none
  paddable := true
  bound := 18446744073709551616

/-- The number that a whole text writes, possibly after a plus sign. -/
def number? (text : List Char) : Option Nat :=
  let digits :=
    match text with
    | '+' :: rest => rest
    | _ => text
  match rankRule.read digits with
  | some (value, []) => some value
  | _ => none

/-- The level with a rank. -/
def ranked? (rank : Nat) : Option Level := all.find? fun level => level.rank = rank

/-- The level that a setting names. -/
def parse? (text : String) : Option Level :=
  match (number? text.toList).bind ranked? with
  | some level => some level
  | none => named? text.toList

end Level

/-- Which records are printed, and how. -/
structure LogPolicy where
  /-- The least grave level printed; none to print nothing. -/
  threshold : Option Level
  layout : Layout
  deriving DecidableEq, Repr

namespace LogPolicy

/-- The threshold that the environment names.  No text at all lets errors
through, `off` or zero lets nothing through, and neither does a word that names
no level, since it stands for another program's messages. -/
def environmentThreshold (text : String) : Option Level :=
  if text.isEmpty then some .error else Level.parse? text

/-- The policy for settings and an environment, either of which may be missing. -/
def choose (settings : Option LogSettings) (environment : Option String) : LogPolicy :=
  let settings := settings.getD {}
  { threshold :=
      match environment with
      | some text => environmentThreshold text
      | none => some ((Level.parse? settings.level).getD .info)
    layout := Layout.named settings.format }

/-- Install a policy unless there is one already. -/
def install (installed : Option LogPolicy) (policy : LogPolicy) : LogPolicy :=
  installed.getD policy

/-- Whether records of a level are printed. -/
def admits (policy : LogPolicy) (level : Level) : Bool :=
  match policy.threshold with
  | none => false
  | some threshold => level.rank ≤ threshold.rank

/-- The records that are printed. -/
def printed (policy : LogPolicy) (log : List LogRecord) : List LogRecord :=
  log.filter fun record => policy.admits record.level

end LogPolicy

end PortMapping
