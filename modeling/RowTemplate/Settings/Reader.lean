import RowTemplate.Settings.Basic
import RowTemplate.Settings.Line

/-! # Reading settings

A settings file assigns `int_fallback` and `timestamp`, and then, in a section
of its own, the reserved names. Nothing else may occur in it, and nothing twice.
-/

namespace RowTemplate.Settings

/-- Settings of which some are still to be read; the section of reserved names has begun when
there is a table of them. -/
structure Draft where
  fallback : Option IntFallback
  timestamp : Option Moment
  reserved : Option (Table String)

namespace Draft

/-- Nothing is read. -/
def empty : Draft := ⟨none, none, none⟩

/-- The draft with one assignment more. -/
def assign? (d : Draft) (key value : String) : Option Draft :=
  match d.reserved with
  | some t =>
    if (t.find? key).isSome then none else some { d with reserved := some (t.insert key value) }
  | none =>
    match key with
    | "int_fallback" => do
      guard d.fallback.isNone
      return { d with fallback := some (← IntFallback.ofName? value) }
    | "timestamp" => do
      guard d.timestamp.isNone
      return { d with timestamp := some (← Moment.readTimestamp? value) }
    | _ => none

/-- The draft with one line more. -/
def step? (d : Draft) : Line → Option Draft
  | .empty => some d
  | .beginSection "reserved" =>
    if d.reserved.isNone then some { d with reserved := some .empty } else none
  | .beginSection _ => none
  | .assign key value => d.assign? key value

/-- The settings, with the usual choice where none was made. -/
def toSettings (d : Draft) : Settings where
  fallback := d.fallback.getD .zero
  timestamp := d.timestamp
  reserved := d.reserved.getD .empty

end Draft

/-- The settings that a file describes. -/
def read? (text : String) : Option Settings := do
  let lines ← (lines text.toList).mapM Line.ofChars?
  return (← lines.foldlM Draft.step? .empty).toSettings

end RowTemplate.Settings
