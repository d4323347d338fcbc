/-
Logged events as lines of text: the time, the level, the spans, the target, the message, and the
fields.
-/
import BufferScope.Decimal.Text
import BufferScope.Log.Filter
import BufferScope.Text.Quoted

namespace BufferScope

/-- The name of a level, as wide as the longest. -/
def Level.label : Level → String
  | .error => "ERROR"
  | .warn => " WARN"
  | .info => " INFO"
  | .debug => "DEBUG"
  | .trace => "TRACE"

def FieldValue.text : FieldValue → String
  | .count n => toString n
  | .real x => Decimal.marked.text x
  | .plain text => text
  | .quoted text => text

/-- A value as lines show it. -/
def FieldValue.lineText : FieldValue → String
  | .quoted text => Text.quoted text
  | v => v.text

/-- An event as a line. Spans that the filter hides are left out. -/
def Event.line (e : Event) (filter : LogFilter) (time : String) : String :=
  let spans := (e.spans.filter filter.showsSpan).map fun span => span.name ++ ": "
  let fields := e.fields.map fun field => " " ++ field.name ++ "=" ++ field.value.lineText
  time ++ " " ++ e.level.label ++ " " ++ String.join spans ++ e.target ++ ": " ++ e.message ++ String.join fields

/-- The lines of a log that a filter shows. -/
def logLines (entries : List LogEntry) (filter : LogFilter) (time : String) : List String :=
  entries.filterMap fun
    | .entered _ => none
    | .event e => if filter.shows e then some (e.line filter time) else none

end BufferScope
