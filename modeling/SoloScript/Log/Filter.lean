import SoloScript.Log.Event
import SoloScript.Text.Substring

/-!
# Which events are shown

A filter is a list of directives, separated by commas.  A directive is a level, a target, or both
with an equals sign between them; it admits the events whose target starts with its own, up to its
level.  Of the directives that apply to an event, the one with the longest target decides.
-/

namespace SoloScript.Log

/-- The target of all events of a run. -/
def target : String := "quiet_bundler"

/-- How many levels are shown, from errors on: none up to all five. -/
def Level.rank : Level → Nat
  | .error => 1
  | .warn => 2
  | .info => 3

/-- The rank that a word stands for, in either case. -/
def rank? (word : String) : Option Nat :=
  let names := ["off", "error", "warn", "info", "debug", "trace"]
  match names.findIdx? (· = word.map Char.toLower) with
  | some rank => some rank
  | none => ["0", "1", "2", "3", "4", "5"].findIdx? (· = word)

/-- A directive; one for spans admits no event. -/
structure Directive where
  target : String
  rank : Nat
  forSpans : Bool
deriving DecidableEq, Repr

namespace Directive

def mayStart (c : Char) : Bool := c.isAlphanum || c = '-' || c = ':' || c = '_' || c = '['

def ofText? (text : String) : Option Directive :=
  let chars := text.trimAscii.toString.toList
  if (chars.head?.map mayStart).getD true then
    let target := String.ofList (chars.takeWhile (· ≠ '='))
    let forSpans := '[' ∈ target.toList
    match chars.dropWhile (· ≠ '=') with
    | [] =>
      match rank? target with
      | some rank => some ⟨"", rank, false⟩
      | none => some ⟨target, 5, forSpans⟩
    | _ :: level =>
      if level = [] then some ⟨target, 5, forSpans⟩
      else (rank? (String.ofList level)).map (⟨target, ·, forSpans⟩)
  else none

end Directive

abbrev Filter := List Directive

namespace Filter

/-- Everything up to a level. -/
def upTo (level : Level) : Filter := [⟨"", level.rank, false⟩]

/-- The filter of a text; an empty one shows errors only. -/
def ofText? (text : String) : Option Filter :=
  let words := (Text.pieces ',' text.toList).filter (· ≠ [])
  if words = [] then some (upTo .error) else words.mapM (Directive.ofText? ∘ String.ofList)

/-- The directive that decides on events of a target, if one applies. -/
def deciding? (filter : Filter) (target : String) : Option Directive :=
  let applying := filter.filter fun d ↦ !d.forSpans && d.target.toList.isPrefixOf target.toList
  applying.foldl (fun best d ↦ match best with
    | none => some d
    | some other => if d.target.length < other.target.length then some other else some d) none

def admits (filter : Filter) (event : Event) : Bool :=
  match filter.deciding? target with
  | none => false
  | some directive => event.level.rank ≤ directive.rank

end Filter

end SoloScript.Log
