/-
Logged events as data: the levels, the fields, and the `Logged` computations that carry the
entries written on the way to their value, in order.
-/
namespace BufferScope

/-! ## Entries -/

/-- How important an event is. -/
inductive Level where
  | error | warn | info | debug | trace
  deriving DecidableEq, Repr

/-- The number of levels up to this one: an event is shown when its verbosity is allowed. -/
def Level.verbosity : Level → Nat
  | .error => 1
  | .warn => 2
  | .info => 3
  | .debug => 4
  | .trace => 5

/-- A named value of an event. -/
inductive FieldValue where
  | count (n : Nat)
  | real (x : Float)
  /-- Text that is shown as it is. -/
  | plain (text : String)
  /-- Text that is quoted where it is shown. -/
  | quoted (text : String)

structure EventField where
  name : String
  value : FieldValue

/-- A stretch of a run that has a name, such as the loading of a file. -/
structure Span where
  name : String
  target : String
  deriving DecidableEq, Repr

/-- A logged event. `spans` are the stretches it happened in, outermost first. -/
structure Event where
  level : Level
  target : String
  message : String
  fields : List EventField := []
  spans : List Span := []

/-- An entry of a log. -/
inductive LogEntry where
  | entered (span : Span)
  | event (event : Event)

/-! ## Computations with a log -/

/-- A value together with the entries logged on the way to it. -/
structure Logged (α : Type) where
  value : α
  entries : List LogEntry

namespace Logged

variable {α β : Type}

protected def pure (a : α) : Logged α := ⟨a, []⟩

protected def bind (x : Logged α) (f : α → Logged β) : Logged β :=
  ⟨(f x.value).value, x.entries ++ (f x.value).entries⟩

instance : Monad Logged where
  pure := Logged.pure
  bind := Logged.bind

@[simp] theorem value_pure (a : α) : (pure a : Logged α).value = a := rfl

@[simp] theorem entries_pure (a : α) : (pure a : Logged α).entries = [] := rfl

@[simp] theorem value_bind (x : Logged α) (f : α → Logged β) : (x >>= f).value = (f x.value).value := rfl

@[simp] theorem entries_bind (x : Logged α) (f : α → Logged β) :
    (x >>= f).entries = x.entries ++ (f x.value).entries := rfl

instance : LawfulMonad Logged :=
  LawfulMonad.mk' Logged
    (fun x => by
      show (⟨x.value, x.entries ++ []⟩ : Logged _) = x
      rw [List.append_nil])
    (fun _ _ => rfl)
    (fun x f g => by
      show (⟨_, _⟩ : Logged _) = ⟨_, _⟩
      exact congrArg _ (List.append_assoc ..))

end Logged

/-- Logs one event. -/
def log (level : Level) (target message : String) (fields : List EventField := []) : Logged Unit :=
  ⟨(), [.event { level, target, message, fields }]⟩

/-- The entry as it looks from outside an enclosing span. -/
def LogEntry.within (span : Span) : LogEntry → LogEntry
  | .entered inner => .entered inner
  | .event e => .event { e with spans := span :: e.spans }

/-- Runs `x` inside a span. -/
def Logged.within {α : Type} (span : Span) (x : Logged α) : Logged α :=
  ⟨x.value, .entered span :: x.entries.map (LogEntry.within span)⟩

end BufferScope
