import DriverTelemetry.Cycle
import DriverTelemetry.LogFilter
import DriverTelemetry.Session.Perform
import DriverTelemetry.Settings.Loading
import DriverTelemetry.Proofs.Transparency
import DriverTelemetry.Proofs.Clients
import DriverTelemetry.Proofs.Marks
import DriverTelemetry.Proofs.Mirror
import DriverTelemetry.Proofs.Registration
import DriverTelemetry.Proofs.Cursors
import DriverTelemetry.Proofs.FirstBindings
import DriverTelemetry.Proofs.OwnSpans
import DriverTelemetry.Proofs.Tracing
import DriverTelemetry.Proofs.SpanStream
import DriverTelemetry.Proofs.LogStream
import DriverTelemetry.Proofs.Enclosure
import DriverTelemetry.Proofs.ClosedConnections
import DriverTelemetry.Proofs.Layering
import DriverTelemetry.Proofs.Skips
import DriverTelemetry.Proofs.RoundTrips
import DriverTelemetry.Proofs.Transactions
import DriverTelemetry.Proofs.Routes
import DriverTelemetry.Proofs.Columns
import DriverTelemetry.Proofs.ResultColumns
import DriverTelemetry.Proofs.FailedRegistrations
import DriverTelemetry.Proofs.RegistrationNames
import DriverTelemetry.Proofs.Calendar
import DriverTelemetry.Proofs.Numerals
import DriverTelemetry.Proofs.WrittenMoments
import DriverTelemetry.Proofs.Latency
import DriverTelemetry.Proofs.Exclusion
import DriverTelemetry.Proofs.QuotedTexts
import DriverTelemetry.Proofs.DisplayedArguments
import DriverTelemetry.Proofs.ArgumentReports
import DriverTelemetry.Proofs.ArgumentForms
import DriverTelemetry.Proofs.ByteOrder
import DriverTelemetry.Proofs.DriverListing
