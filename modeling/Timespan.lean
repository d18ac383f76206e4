import Timespan.Interchange.Activity
import Timespan.Interchange.Schedule
import Timespan.Worksheet
import Timespan.Proofs.Calendar.DateOrder
import Timespan.Proofs.Calendar.Instant
import Timespan.Proofs.Text.Digits
import Timespan.Proofs.Timestamp.Grammar
import Timespan.Proofs.Timestamp.Meaning
import Timespan.Proofs.Timestamp.Language
import Timespan.Proofs.Timestamp.Written
import Timespan.Proofs.Interval.RoundTrip
import Timespan.Proofs.Timestamp.Canonical
import Timespan.Proofs.Interval.Canonical
import Timespan.Proofs.Interval.TextOrder
import Timespan.Proofs.Interval.Operations
import Timespan.Proofs.Interval.Instants
import Timespan.Proofs.Timestamp.Unambiguous
import Timespan.Proofs.Interval.Unambiguous
import Timespan.Proofs.Interval.Gap
import Timespan.Proofs.Interval.Equivalence
import Timespan.Proofs.Interval.Containment
import Timespan.Proofs.Interval.Order
import Timespan.Proofs.Interval.Merge
import Timespan.Proofs.Timestamp.KeptFields
import Timespan.Proofs.Timestamp.Refusal
import Timespan.Proofs.Interval.Blame
import Timespan.Proofs.Interchange.Checks
import Timespan.Proofs.Text.Hex
import Timespan.Proofs.Json.Strings
import Timespan.Proofs.Json.Numbers
import Timespan.Proofs.Json.RoundTrip
import Timespan.Proofs.Interchange.RoundTrip
import Timespan.Proofs.Event.Conversion
import Timespan.Proofs.Interval.Succession
import Timespan.Proofs.Event.Relay
import Timespan.Proofs.Event.Equivalence
import Timespan.Proofs.Interval.Accounting
import Timespan.Proofs.Interval.Grouping
import Timespan.Proofs.Interval.Inclusion
import Timespan.Proofs.Interval.Symmetry
import Timespan.Proofs.Worksheet.Closure
import Timespan.Proofs.Interval.Sorting
import Timespan.Proofs.Json.Pairs
import Timespan.Proofs.Json.Guarded
import Timespan.Proofs.Text.Quoted
import Timespan.Proofs.Interchange.Wording
import Timespan.Proofs.Timestamp.DayNumbers
import Timespan.Proofs.Interchange.Sources
