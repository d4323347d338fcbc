/-
Rules about what a log shows, and their texts. A rule is a level, a target, or a target with a level;
it may ask for a span by name and for fields, in brackets before the level.
-/
import BufferScope.Decimal.Reading
import BufferScope.Log
import BufferScope.Text.Alphanumeric
import BufferScope.Text.Blank
import BufferScope.Text.Pattern

namespace BufferScope

/-- A field that a rule asks for. -/
structure FieldCondition where
  name : String
  /-- Whether the rule also asks for a value. -/
  hasValue : Bool := false
  deriving DecidableEq, Repr

/-- How much is shown of what a rule is about. -/
structure FilterRule where
  /-- What targets begin with. -/
  target : Option String := none
  /-- The name of a span. -/
  span : Option String := none
  fields : List FieldCondition := []
  /-- The greatest verbosity that is shown. -/
  verbosity : Nat := Level.trace.verbosity
  deriving DecidableEq, Repr

namespace FilterRule

/-- Whether a rule is about a target. -/
def coversTarget (r : FilterRule) (target : String) : Bool := r.target.all fun start => target.startsWith start

/-- Whether a rule decides on events wherever they happen. -/
def isForEvents (r : FilterRule) : Bool := r.span.isNone && r.fields.all fun field => !field.hasValue

/-- Whether a rule decides on spans and what happens in them. -/
def isForSpans (r : FilterRule) : Bool := r.span.isSome || !r.fields.isEmpty

def fieldNames (r : FilterRule) : List String := r.fields.map FieldCondition.name

/-- Whether a rule is about an event. The message counts as a field. -/
def covers (r : FilterRule) (e : Event) : Bool :=
  r.isForEvents && r.coversTarget e.target
    && r.fieldNames.all fun name => name = "message" || e.fields.any fun field => field.name = name

/-- Whether a rule is about a span and what happens in it. Spans have no fields. -/
def coversInside (r : FilterRule) (s : Span) : Bool :=
  r.isForSpans && r.coversTarget s.target && r.span.all (· = s.name) && r.fields.isEmpty

/-- The number of bytes of the target; none is less than any. -/
def targetSize (r : FilterRule) : Nat :=
  match r.target with
  | none => 0
  | some target => target.utf8ByteSize + 1

/-- Whether `a` is as specific as `b` at most: by the size of the target, then by the number of fields,
then by their names. -/
def isAtMost (a b : FilterRule) : Bool :=
  if a.targetSize ≠ b.targetSize then a.targetSize < b.targetSize
  else if a.fields.length ≠ b.fields.length then a.fields.length < b.fields.length
  else !decide (b.fieldNames < a.fieldNames)

/-! ## Reading -/

/-- The verbosity that a level's name or number stands for. -/
def verbosityNamed (name : String) : Option Nat :=
  match name.toLower with
  | "off" => some 0
  | "error" => some Level.error.verbosity
  | "warn" => some Level.warn.verbosity
  | "info" => some Level.info.verbosity
  | "debug" => some Level.debug.verbosity
  | "trace" => some Level.trace.verbosity
  | _ =>
    let digits := match name.toList with
      | '+' :: digits => digits
      | digits => digits
    let n := Decimal.natOfDigits digits
    if digits ≠ [] && digits.all Char.isDigit && n ≤ Level.trace.verbosity then some n else none

/-- A field with a value: a truth value, a number, or a pattern. -/
def readField (text : String) : Option FieldCondition :=
  match text.splitOn "=" with
  | name :: value :: _ =>
    if (Decimal.read? value).isSome || Text.isPattern value then some ⟨name, true⟩ else none
  | _ => if text = "" then none else some ⟨text, false⟩

/-- The part of a rule that is being read, and the byte at which it began. -/
inductive Part where
  | start
  | levelOrTarget (first : Nat)
  | span (first : Nat)
  | field (first : Nat)
  | fieldEnd
  | spanEnd
  | level (first : Nat)
  deriving DecidableEq, Repr

/-- Characters with the bytes at which they stand, the first of them at byte `i`. -/
def withPlaces (i : Nat) : List Char → List (Nat × Char)
  | [] => []
  | c :: rest => (i, c) :: withPlaces (i + c.utf8Size) rest

/-- The part of a text from one byte to before another. -/
def cut (text : String) (first stop : Nat) : String :=
  String.ofList (((withPlaces 0 text.toList).filter fun (i, _) => first ≤ i && i < stop).map (·.2))

/-- Whether a rule may begin with a character, apart from a bracket. -/
def mayBegin (c : Char) : Bool := c = '-' || c = ':' || c = '_' || Text.isAlphanumeric c

/-- Reads on by the character `c` at byte `i`. -/
def readOn (text : String) : Part × FilterRule → Nat × Char → Option (Part × FilterRule)
  | (.start, r), (i, c) =>
    if c = '[' then some (.span (i + 1), r)
    else if mayBegin c then some (.levelOrTarget i, r)
    else none
  | (.levelOrTarget first, r), (i, c) =>
    if c = '=' then some (.level (i + 1), { r with target := some (cut text first i) })
    else if c = '[' then some (.span (i + 1), { r with target := some (cut text first i) })
    else some (.levelOrTarget first, r)
  | (.span first, r), (i, c) =>
    let name := cut text first i
    if c = ']' then some (.spanEnd, { r with span := some name })
    else if c = '\x7b' then some (.field (i + 1), { r with span := if name = "" then none else some name })
    else some (.span first, r)
  | (.field first, r), (i, c) =>
    if c = '\x7d' then
      (readField (cut text first i)).map fun field => (.fieldEnd, { r with fields := r.fields ++ [field] })
    else some (.field first, r)
  | (.fieldEnd, r), (_, c) => if c = ']' then some (.spanEnd, r) else none
  | (.spanEnd, r), (i, c) => if c = '=' then some (.level (i + 1), r) else none
  | (.level first, r), _ => some (.level first, r)

/-- The rule whose text has been read to its end. What is no level is a target, which is shown in full
like one that is given no level. -/
def finish (text : String) : Part × FilterRule → Option FilterRule
  | (.levelOrTarget first, r) =>
    let word := cut text first text.utf8ByteSize
    match verbosityNamed word with
    | some verbosity => some { r with verbosity }
    | none => some { r with target := some word }
  | (.level first, r) =>
    let name := cut text first text.utf8ByteSize
    if name = "" then some r else (verbosityNamed name).map fun verbosity => { r with verbosity }
  | (.spanEnd, r) => some r
  | _ => none

/-- The rule in a text. It is read without the blanks around it, but its parts are cut at the same bytes
from the text with the blanks. -/
def read (text : String) : Option FilterRule := do
  let state ← (withPlaces 0 (Text.trimmed text.toList)).foldlM (readOn text) (.start, {})
  finish text state

end FilterRule

end BufferScope
