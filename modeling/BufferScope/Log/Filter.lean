/-
Filters for logs, given as rules with commas between them. Of the rules that are about an event the
most specific decides; rules that ask for a span also show what happens in it.
-/
import BufferScope.Log.Rule

namespace BufferScope

structure LogFilter where
  rules : List FilterRule
  deriving DecidableEq, Repr

namespace LogFilter

/-- The filter that shows all targets up to a level. -/
def upTo (level : Level) : LogFilter := ⟨[{ verbosity := level.verbosity }]⟩

/-- The rule that decides among some: the most specific, and of equally specific ones the last. -/
def deciding (rules : List FilterRule) : Option FilterRule :=
  rules.foldl (fun best r => match best with
    | none => some r
    | some b => if b.isAtMost r then some r else some b) none

/-- Whether the deciding rule among some shows a level. -/
def decides (rules : List FilterRule) (level : Level) : Bool :=
  (deciding rules).any fun r => level.verbosity ≤ r.verbosity

/-- Whether an event is shown. -/
def shows (f : LogFilter) (e : Event) : Bool :=
  (f.rules.any fun r => e.spans.any r.coversInside && e.level.verbosity ≤ r.verbosity)
    || decides (f.rules.filter (·.covers e)) e.level

/-- Whether a span is shown with the events in it. Spans count as information. -/
def showsSpan (f : LogFilter) (s : Span) : Bool :=
  f.rules.any (·.coversInside s)
    || decides (f.rules.filter fun r => r.isForEvents && r.coversTarget s.target) .info

/-! ## Reading -/

/-- The filter in a text. Without rules it shows errors only. -/
def read (text : String) : Option LogFilter := do
  let rules ← ((text.splitOn ",").filter (· ≠ "")).mapM FilterRule.read
  return if rules.isEmpty then upTo .error else ⟨rules⟩

/-- The filter in a setting, if it holds one, and else the filter for all targets up to `level`. -/
def ofSetting (setting : Option String) (level : Level) : LogFilter := (setting.bind read).getD (upTo level)

end LogFilter

end BufferScope
