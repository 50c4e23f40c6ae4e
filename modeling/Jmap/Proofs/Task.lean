import Jmap.Client
import Jmap.Operation.Submission
import Jmap.Proofs.Survey

namespace Jmap

open Json Batch

inductive Task : Type → Type 1
  | survey {α : Type} (question : Survey α) (accounts : List String) : Task (Dict α)
  | getMailboxes (account : String) (ids : Option (List String)) : Task Mailboxes
  | getEmails (account : String) (ids : List String) (options : BodyOptions) : Task Emails
  | getAllEmailsInMailbox (account mailboxId : String) (offset : UInt64) (limit : Option UInt64)
      (options : BodyOptions) : Task EmailPage
  | getEmailsSince (account sinceState : String) (maxChanges : Option UInt64)
      (options : BodyOptions) : Task EmailChanges
  | createEmail (account : String) (email : Email) (replaced : Option String) : Task Email
  | updateEmails (account : String) (updates : Dict (Dict Json)) : Task (SetSummary Email)
  | deleteEmails (account : String) (ids : List String) : Task (SetSummary Email)
  | importEmail (account : String) (message : EmailImport) : Task Email
  | submitEmail (account identityId emailId : String) (move : Option MoveMail) :
      Task SubmittedEmail
  | getThreads (account : String) (ids : List String) : Task Threads
  | getIdentities (account : String) : Task Identities
  | getVacationResponse (account : String) : Task (Option VacationResponse)
  | setVacationResponse (account : String) (vacation : VacationResponse) : Task VacationResponse
  | getContactCards (account : String) (ids : Option (List String)) : Task ContactCards
  | createContactCard (account : String) (card : ContactCard) : Task CreatedContactCard
  | deleteContactCards (account : String) (ids : List String) : Task DeletedContactCards
  | parseCalendarBlob (account : String) (blobIds : List String) : Task ParsedCalendar
  | uploadBlob (account : String) (data : Utf8.Bytes) (contentType : String) : Task UploadedBlob
  | getBlob (account id : String) : Task BlobResult

namespace Task

variable {α : Type}

def operation (session : Session) : {α : Type} → Task α → Operation α
  | _, .survey question accounts => question.operation session accounts
  | _, .getMailboxes account ids => .getMailboxes session account ids
  | _, .getEmails account ids options => .getEmails session account ids options
  | _, .getAllEmailsInMailbox account mailboxId offset limit options =>
    .getAllEmailsInMailbox session account mailboxId offset limit options
  | _, .getEmailsSince account sinceState maxChanges options =>
    .getEmailsSince session account sinceState maxChanges options
  | _, .createEmail account email replaced => .createEmail session account email replaced
  | _, .updateEmails account updates => .updateEmails session account updates
  | _, .deleteEmails account ids => .deleteEmails session account ids
  | _, .importEmail account message => .importEmail session account message
  | _, .submitEmail account identityId emailId move =>
    .submitEmail session account identityId emailId move
  | _, .getThreads account ids => .getThreads session account ids
  | _, .getIdentities account => .getIdentities session account
  | _, .getVacationResponse account => .getVacationResponse session account
  | _, .setVacationResponse account vacation => .setVacationResponse session account vacation
  | _, .getContactCards account ids => .getContactCards session account ids
  | _, .createContactCard account card => .createContactCard session account card
  | _, .deleteContactCards account ids => .deleteContactCards session account ids
  | _, .parseCalendarBlob account blobIds => .parseCalendarBlob session account blobIds
  | _, .uploadBlob account data contentType => .uploadBlob session account data contentType
  | _, .getBlob account id => .getBlob session account id

/-- How many calls a task takes; a survey takes the same number for each distinct account. -/
def count (session : Session) : {α : Type} → Task α → Nat
  | _, .survey question accounts =>
    question.suffixes.length * (question.resolved session accounts).eraseDups.length
  | _, .getEmailsSince .. => 3
  | _, .getAllEmailsInMailbox .. | _, .submitEmail .. | _, .setVacationResponse ..
  | _, .createContactCard .. | _, .uploadBlob .. => 2
  | _, .getMailboxes .. | _, .getEmails .. | _, .createEmail .. | _, .updateEmails ..
  | _, .deleteEmails .. | _, .importEmail .. | _, .getThreads .. | _, .getIdentities ..
  | _, .getVacationResponse .. | _, .getContactCards .. | _, .deleteContactCards ..
  | _, .parseCalendarBlob .. | _, .getBlob .. => 1

end Task

namespace Task

variable {α : Type}

theorem length_invocations (task : Task α) (session : Session) :
    (task.operation session).invocations.length = task.count session := by
  cases task with
  | survey question accounts => exact question.length_invocations session accounts
  | _ => rfl

theorem valid (task : Task α) (session : Session) :
    Valid { invocations := (task.operation session).invocations } := by
  cases task with
  | survey question accounts => exact question.valid session accounts
  | getEmails account ids options =>
    exact valid_one (plain_cons.2 ⟨by simp [plainKey?], Operation.plain_arguments options⟩)
  | getAllEmailsInMailbox account mailboxId offset limit options =>
    have distinct : ["0", "1"].Nodup := by decide
    exact valid_of_allReference (List.cons_ne_nil _ _) distinct Operation.allReference_page
  | getEmailsSince account sinceState maxChanges options =>
    have distinct : ["0", "1", "2"].Nodup := by decide
    refine valid_of_allReference (List.cons_ne_nil _ _) distinct (allReference_cons.2
      ⟨references_of_plain ?_, allReference_pair ?_ ?_⟩)
    · cases maxChanges <;> simp [Plain, plainKey?]
    · exact Operation.references_emailGet ⟨_, List.mem_cons_self, rfl, rfl⟩ ⟨"created", rfl⟩
    · exact Operation.references_emailGet ⟨_, List.mem_cons_self, rfl, rfl⟩ ⟨"updated", rfl⟩
  | createEmail account email replaced =>
    cases replaced <;> exact valid_one (by simp [Plain, plainKey?])
  | submitEmail account identityId emailId move =>
    refine valid_two rfl rfl ?_ ?_
    all_goals exact references_of_plain (by simp [Plain, plainKey?])
  | setVacationResponse account vacation =>
    refine valid_two rfl rfl ?_ ?_
    all_goals exact references_of_plain (by simp [Plain, plainKey?])
  | createContactCard account card =>
    refine valid_two rfl rfl (references_of_plain (by simp [Plain, plainKey?])) ?_
    exact references_ids ⟨_, List.mem_singleton_self _, rfl, rfl⟩ ⟨"created/c/id", rfl⟩
  | uploadBlob account data contentType =>
    refine valid_two rfl rfl ?_ ?_
    all_goals exact references_of_plain (by simp [Plain, plainKey?])
  | _ => exact valid_one (by simp [Plain, plainKey?])

end Task

/-! Only the number of calls can stand in the way. -/

namespace Operation

variable {α : Type} {operation : Operation α} {session : Session}

theorem request_of_exceeded (nonempty : operation.invocations ≠ []) {most : UInt64}
    (bound : session.maxCallsInRequest = some most)
    (more : most.toNat < operation.invocations.length) :
    operation.request session = .error (.tooManyCalls operation.invocations.length most) := by
  have some : operation.invocations.isEmpty = false := by simpa using nonempty
  simp [request, build, some, bound, more]

theorem request_of_valid (valid : Valid { invocations := operation.invocations })
    (within : ∀ most, session.maxCallsInRequest = some most →
      operation.invocations.length ≤ most.toNat) :
    operation.request session = .ok
      { capabilities := capabilities operation.invocations
        invocations := operation.invocations
        createdIds := none } :=
  build_of_valid ⟨valid.nonempty, within, valid.distinct, valid.references⟩

theorem request_eq_error_iff (valid : Valid { invocations := operation.invocations })
    {error : JmapError} : operation.request session = .error error ↔
      ∃ most, session.maxCallsInRequest = some most ∧
        most.toNat < operation.invocations.length ∧
        error = .tooManyCalls operation.invocations.length most := by
  constructor
  · intro refused
    by_cases exceeded : ∃ most, session.maxCallsInRequest = some most ∧
        most.toNat < operation.invocations.length
    · obtain ⟨most, bound, more⟩ := exceeded
      have known := request_of_exceeded valid.nonempty bound more
      exact ⟨most, bound, more, Except.error.inj (refused.symm.trans known)⟩
    · have within (most : UInt64) (bound : session.maxCallsInRequest = some most) :
          operation.invocations.length ≤ most.toNat :=
        Nat.not_lt.1 (fun more => exceeded ⟨most, bound, more⟩)
      cases refused.symm.trans (request_of_valid valid within)
  · rintro ⟨most, bound, more, rfl⟩
    exact request_of_exceeded valid.nonempty bound more

end Operation

namespace Task

variable {α : Type}

/-- A task is carried out as a proper batch of calls, as long as the session allows that many.
If it does not, nothing is sent. -/
theorem calls_valid (task : Task α) (session : Session) :
    Valid { invocations := (task.operation session).invocations } ∧
    (task.operation session).invocations.length = task.count session ∧
    (∀ request, (task.operation session).request session = .ok request →
      request.invocations = (task.operation session).invocations) ∧
    (∀ error, (task.operation session).request session = .error error ↔
      ∃ most, session.maxCallsInRequest = some most ∧ most.toNat < task.count session ∧
        error = .tooManyCalls (task.count session) most) ∧
    ∀ {World : Type} (client : Client World) (world : World) (error : JmapError),
      (task.operation session).request session = .error error →
        client.perform session (task.operation session) world = (.error error, world) := by
  refine ⟨task.valid session, task.length_invocations session, ?_, ?_, ?_⟩
  · intro request built
    obtain ⟨-, rfl⟩ := build_eq_ok_iff.1 built
    rfl
  · intro error
    rw [Operation.request_eq_error_iff (task.valid session), task.length_invocations]
  · intro World client world error refused
    rw [Client.perform, refused]

end Task

end Jmap
