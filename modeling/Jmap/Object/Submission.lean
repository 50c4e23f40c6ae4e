import Jmap.Object.Email

namespace Jmap

open Json

structure Identity where
  id : String
  name : String
  email : String
  replyTo : Option (List EmailAddress)
  bcc : Option (List EmailAddress)
  textSignature : Option String
  htmlSignature : Option String
  mayDelete : Bool
deriving DecidableEq, Inhabited

namespace Identity

abbrev slots : List Slot :=
  [.required "id" String, .defaulted "name" String "", .required "email" String,
    .nullable "replyTo" (List EmailAddress), .nullable "bcc" (List EmailAddress),
    .nullable "textSignature" String, .nullable "htmlSignature" String,
    .defaulted "mayDelete" Bool false]

instance : Wire Identity :=
  .record "Identity" slots
    (fun (id, name, email, replyTo, bcc, textSignature, htmlSignature, mayDelete, ()) =>
      { id, name, email, replyTo, bcc, textSignature, htmlSignature, mayDelete })
    (fun identity =>
      (identity.id, identity.name, identity.email, identity.replyTo, identity.bcc,
        identity.textSignature, identity.htmlSignature, identity.mayDelete, ()))

end Identity

structure SmtpAddress where
  email : String
  parameters : Option (Dict Json)
deriving DecidableEq, Inhabited

namespace SmtpAddress

abbrev slots : List Slot := [.required "email" String, .optional "parameters" (Dict Json)]

instance : Wire SmtpAddress :=
  .record "SmtpAddress" slots
    (fun (email, parameters, ()) => { email, parameters })
    (fun address => (address.email, address.parameters, ()))

end SmtpAddress

structure Envelope where
  mailFrom : SmtpAddress
  rcptTo : List SmtpAddress
deriving DecidableEq, Inhabited

namespace Envelope

abbrev slots : List Slot :=
  [.required "mailFrom" SmtpAddress, .required "rcptTo" (List SmtpAddress)]

instance : Wire Envelope :=
  .record "Envelope" slots
    (fun (mailFrom, rcptTo, ()) => { mailFrom, rcptTo })
    (fun envelope => (envelope.mailFrom, envelope.rcptTo, ()))

end Envelope

structure EmailSubmission where
  id : Option String
  identityId : Option String
  emailId : Option String
  threadId : Option String
  envelope : Option Envelope
  sendAt : Option Instant
  undoStatus : Option String
deriving DecidableEq, Inhabited

namespace EmailSubmission

abbrev slots : List Slot :=
  [.optional "id" String, .optional "identityId" String, .optional "emailId" String,
    .optional "threadId" String, .optional "envelope" Envelope, .optional "sendAt" Instant,
    .optional "undoStatus" String]

instance : Wire EmailSubmission :=
  .record "EmailSubmission" slots
    (fun (id, identityId, emailId, threadId, envelope, sendAt, undoStatus, ()) =>
      { id, identityId, emailId, threadId, envelope, sendAt, undoStatus })
    (fun submission =>
      (submission.id, submission.identityId, submission.emailId, submission.threadId,
        submission.envelope, submission.sendAt, submission.undoStatus, ()))

end EmailSubmission

structure VacationResponse where
  id : Option String
  isEnabled : Bool
  fromDate : Option Instant
  toDate : Option Instant
  subject : Option String
  textBody : Option String
  htmlBody : Option String
deriving DecidableEq, Inhabited

namespace VacationResponse

abbrev slots : List Slot :=
  [.optional "id" String, .defaulted "isEnabled" Bool false, .nullable "fromDate" Instant,
    .nullable "toDate" Instant, .nullable "subject" String, .nullable "textBody" String,
    .nullable "htmlBody" String]

instance : Wire VacationResponse :=
  .record "VacationResponse" slots
    (fun (id, isEnabled, fromDate, toDate, subject, textBody, htmlBody, ()) =>
      { id, isEnabled, fromDate, toDate, subject, textBody, htmlBody })
    (fun vacation =>
      (vacation.id, vacation.isEnabled, vacation.fromDate, vacation.toDate, vacation.subject,
        vacation.textBody, vacation.htmlBody, ()))

end VacationResponse

end Jmap
