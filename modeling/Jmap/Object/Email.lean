import Jmap.Date.Wire
import Jmap.Json.Record

namespace Jmap

open Json

structure EmailAddress where
  email : String
  name : Option String
deriving DecidableEq, Inhabited

namespace EmailAddress

abbrev slots : List Slot := [.required "email" String, .optionalByName "name" String]

instance : Wire EmailAddress :=
  .record "EmailAddress" slots
    (fun (email, name, ()) => { email, name })
    (fun address => (address.email, address.name, ()))

end EmailAddress

structure EmailBodyValue where
  value : String
  isEncodingProblem : Bool
  isTruncated : Bool
deriving DecidableEq, Inhabited

namespace EmailBodyValue

abbrev slots : List Slot :=
  [.required "value" String, .defaulted "isEncodingProblem" Bool false,
    .defaulted "isTruncated" Bool false]

instance : Wire EmailBodyValue :=
  .record "EmailBodyValue" slots
    (fun (value, isEncodingProblem, isTruncated, ()) =>
      { value, isEncodingProblem, isTruncated })
    (fun body => (body.value, body.isEncodingProblem, body.isTruncated, ()))

end EmailBodyValue

structure BodyPart where
  partId : Option String
  blobId : Option String
  size : Option UInt64
  name : Option String
  mediaType : String
  charset : Option String
  disposition : Option String
  cid : Option String
deriving DecidableEq, Inhabited

namespace BodyPart

abbrev slots : List Slot :=
  [.nullable "partId" String, .optional "blobId" String, .optional "size" UInt64,
    .optional "name" String, .defaulted "type" String "", .optional "charset" String,
    .optional "disposition" String, .optional "cid" String]

instance : Wire BodyPart :=
  .record "BodyPart" slots
    (fun (partId, blobId, size, name, mediaType, charset, disposition, cid, ()) =>
      { partId, blobId, size, name, mediaType, charset, disposition, cid })
    (fun part =>
      (part.partId, part.blobId, part.size, part.name, part.mediaType, part.charset,
        part.disposition, part.cid, ()))

end BodyPart

structure Email where
  id : Option String
  blobId : Option String
  threadId : Option String
  mailboxIds : Dict Bool
  keywords : Dict Bool
  size : Option UInt64
  receivedAt : Option Instant
  messageId : Option (List String)
  inReplyTo : Option (List String)
  sender : Option (List EmailAddress)
  recipients : Option (List EmailAddress)
  cc : Option (List EmailAddress)
  bcc : Option (List EmailAddress)
  replyTo : Option (List EmailAddress)
  subject : Option String
  sentAt : Option OffsetTime
  hasAttachment : Option Bool
  preview : Option String
  bodyValues : Dict EmailBodyValue
  textBody : Option (List BodyPart)
  htmlBody : Option (List BodyPart)
  attachments : Option (List BodyPart)
deriving DecidableEq, Inhabited

namespace Email

abbrev slots : List Slot :=
  [.optional "id" String, .optional "blobId" String, .optional "threadId" String,
    .omittedIfEmpty "mailboxIds" Bool, .omittedIfEmpty "keywords" Bool,
    .optional "size" UInt64, .optional "receivedAt" Instant,
    .optional "messageId" (List String), .optional "inReplyTo" (List String),
    .optional "from" (List EmailAddress), .optional "to" (List EmailAddress),
    .optional "cc" (List EmailAddress), .optional "bcc" (List EmailAddress),
    .optional "replyTo" (List EmailAddress), .optional "subject" String,
    .optional "sentAt" OffsetTime, .optional "hasAttachment" Bool, .optional "preview" String,
    .omittedIfEmpty "bodyValues" EmailBodyValue, .optional "textBody" (List BodyPart),
    .optional "htmlBody" (List BodyPart), .optional "attachments" (List BodyPart)]

instance : Wire Email :=
  .record "Email" slots
    (fun (id, blobId, threadId, mailboxIds, keywords, size, receivedAt, messageId, inReplyTo,
        sender, recipients, cc, bcc, replyTo, subject, sentAt, hasAttachment, preview, bodyValues,
        textBody, htmlBody, attachments, ()) =>
      { id, blobId, threadId, mailboxIds, keywords, size, receivedAt, messageId, inReplyTo,
        sender, recipients, cc, bcc, replyTo, subject, sentAt, hasAttachment, preview, bodyValues,
        textBody, htmlBody, attachments })
    (fun email =>
      (email.id, email.blobId, email.threadId, email.mailboxIds, email.keywords, email.size,
        email.receivedAt, email.messageId, email.inReplyTo, email.sender, email.recipients,
        email.cc,
        email.bcc, email.replyTo, email.subject, email.sentAt, email.hasAttachment,
        email.preview, email.bodyValues, email.textBody, email.htmlBody, email.attachments, ()))

end Email

structure Thread where
  id : String
  emailIds : List String
deriving DecidableEq, Inhabited

namespace Thread

abbrev slots : List Slot := [.required "id" String, .defaulted "emailIds" (List String) []]

instance : Wire Thread :=
  .record "Thread" slots
    (fun (id, emailIds, ()) => { id, emailIds })
    (fun thread => (thread.id, thread.emailIds, ()))

end Thread

end Jmap
