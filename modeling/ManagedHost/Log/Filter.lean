import ManagedHost.Log
import ManagedHost.Text.Blank

/-!
Which lines of the log are shown. A filter is a list of rules between commas, each a level for all
lines or for those of a part of the program; the rule with the longest name that fits decides, and
where no rule fits nothing is shown. A filter without rules shows errors only.
-/

namespace ManagedHost

/-- How much is shown of the lines whose part of the program has a name that starts in a certain
way. -/
structure LogRule where
  target : String
  /-- The least severe level that is shown, or none for nothing. -/
  level : Option LogLevel
deriving DecidableEq

abbrev LogFilter := List LogRule

namespace LogFilter

def levels : List (String × Option LogLevel) :=
  [("off", none), ("error", some .error), ("warn", some .warn), ("info", some .info),
    ("debug", some .debug), ("trace", some .trace), ("0", none), ("1", some .error),
    ("2", some .warn), ("3", some .info), ("4", some .debug), ("5", some .trace)]

/-- The level that a rule names, in any letter case. -/
def levelOf? (text : String) : Option (Option LogLevel) := levels.lookup text.toLower

def isTargetChar (c : Char) : Bool := c.isAlphanum || c == '_' || c == ':' || c == '-'

def targetOf? (text : String) : Option String :=
  if text.isEmpty || !text.toList.all isTargetChar then none else some text

def ruleOf? (text : String) : Option LogRule :=
  match levelOf? text with
  | some level => some ⟨"", level⟩
  | none =>
    let name := String.ofList (text.toList.takeWhile (· ≠ '='))
    match text.toList.dropWhile (· ≠ '=') with
    | [] => (targetOf? name).map (⟨·, some .trace⟩)
    | _ :: level => do
      let target ← targetOf? name
      if level.isEmpty then return ⟨target, some .trace⟩
      else return ⟨target, ← levelOf? (String.ofList level)⟩

/-- The filter that a text describes, if every rule in it can be read. -/
def ofText? (text : String) : Option LogFilter := do
  let rules ← ((text.splitOn ",").filter (· ≠ "")).mapM ruleOf?
  return if rules.isEmpty then [⟨"", some .error⟩] else rules

/-- The filter that shows all lines down to a level. -/
def ofLevel (level : LogLevel) : LogFilter := [⟨"", some level⟩]

/-- The rule for a part of the program: among those that fit, the last of those with the longest
name. -/
def ruleFor? (filter : LogFilter) (target : String) : Option LogRule :=
  (filter.filter fun rule => target.startsWith rule.target).foldl
    (fun best rule =>
      match best with
      | some chosen => if chosen.target.length ≤ rule.target.length then some rule else best
      | none => some rule) none

def shows (filter : LogFilter) (line : LogLine) : Bool :=
  match (filter.ruleFor? line.source.target).bind (·.level) with
  | some threshold => line.visibleAt threshold
  | none => false

end LogFilter

end ManagedHost
