/-
The written form of an instant is its text, in bytes as in documents.
-/
import SigningOrder.Format
import SigningOrder.Instant.Text

namespace SigningOrder

namespace Instant

/-- An instant that its text names: a day in the range of years, and a
nanosecond part below one second, or below two in the last second of a
minute. -/
def Representable (t : Instant) : Prop :=
  inYearRange (Date.ofDays t.days) = true ∧
    (t.nanos < nanosPerSecond ∨
      t.nanos < 2 * nanosPerSecond ∧ t.secondOfDay % 60 = 59)

/-- The instant of a text, as part of reading a document. -/
def ofText (s : String) : Except ReadError Instant :=
  match read? s with
  | some t => .ok t
  | none => .error .malformed

/-- The written form of an instant. -/
def format : Format Instant :=
  Format.text.convert ofText text Representable

end Instant

end SigningOrder
