import Jmap.Date.Wire
import Jmap.Json.Record

namespace Jmap

open Json

structure Comparator where
  property : String
  isAscending : Bool
  collation : Option String
deriving DecidableEq, Inhabited

namespace Comparator

def descending (property : String) : Comparator := ⟨property, false, none⟩

abbrev slots : List Slot :=
  [.required "property" String, .required "isAscending" Bool, .optionalByName "collation" String]

instance : Wire Comparator :=
  .record "Comparator" slots
    (fun (property, isAscending, collation, ()) => { property, isAscending, collation })
    (fun comparator =>
      (comparator.property, comparator.isAscending, comparator.collation, ()))

end Comparator

structure EmailFilter where
  inMailbox : Option String := none
  inMailboxOtherThan : Option (List String) := none
  before : Option Instant := none
  after : Option Instant := none
  hasKeyword : Option String := none
  notKeyword : Option String := none
  hasAttachment : Option Bool := none
  text : Option String := none
  sender : Option String := none
  recipient : Option String := none
  subject : Option String := none
  body : Option String := none
deriving DecidableEq, Inhabited

namespace EmailFilter

abbrev slots : List Slot :=
  [.optionalByName "inMailbox" String, .optionalByName "inMailboxOtherThan" (List String),
    .optionalByName "before" Instant, .optionalByName "after" Instant,
    .optionalByName "hasKeyword" String, .optionalByName "notKeyword" String,
    .optionalByName "hasAttachment" Bool, .optionalByName "text" String,
    .optionalByName "from" String, .optionalByName "to" String,
    .optionalByName "subject" String, .optionalByName "body" String]

instance : Wire EmailFilter :=
  .record "EmailFilterCondition" slots
    (fun (inMailbox, inMailboxOtherThan, before, after, hasKeyword, notKeyword, hasAttachment,
        text, sender, recipient, subject, body, ()) =>
      { inMailbox, inMailboxOtherThan, before, after, hasKeyword, notKeyword, hasAttachment,
        text, sender, recipient, subject, body })
    (fun filter =>
      (filter.inMailbox, filter.inMailboxOtherThan, filter.before, filter.after,
        filter.hasKeyword, filter.notKeyword, filter.hasAttachment, filter.text, filter.sender,
        filter.recipient, filter.subject, filter.body, ()))

end EmailFilter

structure MailboxFilter where
  parentId : Option String := none
  name : Option String := none
  role : Option String := none
  hasAnyRole : Option Bool := none
  isSubscribed : Option Bool := none
deriving DecidableEq, Inhabited

namespace MailboxFilter

abbrev slots : List Slot :=
  [.optionalByName "parentId" String, .optionalByName "name" String,
    .optionalByName "role" String, .optionalByName "hasAnyRole" Bool,
    .optionalByName "isSubscribed" Bool]

instance : Wire MailboxFilter :=
  .record "MailboxFilterCondition" slots
    (fun (parentId, name, role, hasAnyRole, isSubscribed, ()) =>
      { parentId, name, role, hasAnyRole, isSubscribed })
    (fun filter =>
      (filter.parentId, filter.name, filter.role, filter.hasAnyRole, filter.isSubscribed, ()))

end MailboxFilter

end Jmap
