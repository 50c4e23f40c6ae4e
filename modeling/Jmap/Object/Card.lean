import Jmap.Json.Record

/-!
Contact cards and calendar events. Apart from their id they are passed through
as they are.
-/

namespace Jmap

open Json

structure ContactCard where
  id : Option String
  properties : Dict Json
deriving DecidableEq, Inhabited

namespace ContactCard

abbrev slots : List Slot := [.optional "id" String]

instance : Wire ContactCard :=
  .openRecord "ContactCard" slots
    (fun (id, ()) properties => { id, properties })
    (fun card => ((card.id, ()), card.properties))

end ContactCard

structure CalendarEvent where
  id : Option String
  properties : Dict Json
deriving DecidableEq, Inhabited

namespace CalendarEvent

abbrev slots : List Slot := [.optional "id" String]

instance : Wire CalendarEvent :=
  .openRecord "CalendarEvent" slots
    (fun (id, ()) properties => { id, properties })
    (fun event => ((event.id, ()), event.properties))

end CalendarEvent

end Jmap
