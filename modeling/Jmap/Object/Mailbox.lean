import Jmap.Json.Record

namespace Jmap

open Json

structure MailboxRights where
  mayReadItems : Bool := false
  mayAddItems : Bool := false
  mayRemoveItems : Bool := false
  maySetSeen : Bool := false
  maySetKeywords : Bool := false
  mayCreateChild : Bool := false
  mayRename : Bool := false
  mayDelete : Bool := false
  maySubmit : Bool := false
deriving DecidableEq, Inhabited

namespace MailboxRights

abbrev slots : List Slot :=
  [.defaulted "mayReadItems" Bool false, .defaulted "mayAddItems" Bool false,
    .defaulted "mayRemoveItems" Bool false, .defaulted "maySetSeen" Bool false,
    .defaulted "maySetKeywords" Bool false, .defaulted "mayCreateChild" Bool false,
    .defaulted "mayRename" Bool false, .defaulted "mayDelete" Bool false,
    .defaulted "maySubmit" Bool false]

instance : Wire MailboxRights :=
  .record "MailboxRights" slots
    (fun (mayReadItems, mayAddItems, mayRemoveItems, maySetSeen, maySetKeywords, mayCreateChild,
        mayRename, mayDelete, maySubmit, ()) =>
      { mayReadItems, mayAddItems, mayRemoveItems, maySetSeen, maySetKeywords, mayCreateChild,
        mayRename, mayDelete, maySubmit })
    (fun rights =>
      (rights.mayReadItems, rights.mayAddItems, rights.mayRemoveItems, rights.maySetSeen,
        rights.maySetKeywords, rights.mayCreateChild, rights.mayRename, rights.mayDelete,
        rights.maySubmit, ()))

end MailboxRights

structure Mailbox where
  id : String
  name : String
  parentId : Option String
  role : Option String
  sortOrder : UInt32
  totalEmails : UInt64
  unreadEmails : UInt64
  totalThreads : UInt64
  unreadThreads : UInt64
  myRights : MailboxRights
  isSubscribed : Bool
deriving DecidableEq, Inhabited

namespace Mailbox

abbrev slots : List Slot :=
  [.required "id" String, .required "name" String, .nullable "parentId" String,
    .nullable "role" String, .defaulted "sortOrder" UInt32 0, .defaulted "totalEmails" UInt64 0,
    .defaulted "unreadEmails" UInt64 0, .defaulted "totalThreads" UInt64 0,
    .defaulted "unreadThreads" UInt64 0, .defaulted "myRights" MailboxRights {},
    .defaulted "isSubscribed" Bool false]

instance : Wire Mailbox :=
  .record "Mailbox" slots
    (fun (id, name, parentId, role, sortOrder, totalEmails, unreadEmails, totalThreads,
        unreadThreads, myRights, isSubscribed, ()) =>
      { id, name, parentId, role, sortOrder, totalEmails, unreadEmails, totalThreads,
        unreadThreads, myRights, isSubscribed })
    (fun mailbox =>
      (mailbox.id, mailbox.name, mailbox.parentId, mailbox.role, mailbox.sortOrder,
        mailbox.totalEmails, mailbox.unreadEmails, mailbox.totalThreads, mailbox.unreadThreads,
        mailbox.myRights, mailbox.isSubscribed, ()))

end Mailbox

end Jmap
