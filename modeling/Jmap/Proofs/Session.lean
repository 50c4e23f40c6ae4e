import Jmap.Proofs.DefaultAccount

/-!
Sessions made from documents, and the accounts that they name. A document makes a session unless
it has one of seven problems, and then the first of these is told. Whatever a caller asks a session
for, an account is named.
-/

namespace Jmap

open Json

namespace SessionProblem

def inOrder : List SessionProblem :=
  [.missingUsername, .missingApiUrl, .invalidApiUrl, .missingUploadUrl, .missingDownloadUrl,
    .missingMailAccount, .malformedCoreCapability]

def Before (problem other : SessionProblem) : Prop := inOrder.idxOf problem < inOrder.idxOf other

instance (problem other : SessionProblem) : Decidable (problem.Before other) :=
  inferInstanceAs (Decidable (_ < _))

theorem before_or_eq (problem other : SessionProblem) :
    problem.Before other ∨ problem = other ∨ other.Before problem := by
  cases problem <;> cases other <;> decide

end SessionProblem

namespace SessionDocument

variable {document : SessionDocument} {problem other : SessionProblem} {capability : Capability}

structure Complete (document : SessionDocument) : Prop where
  username : document.username ≠ ""
  apiUrl : document.apiUrl ≠ ""
  parses : ∃ url, Url.parse document.apiUrl = .ok url
  uploadUrl : document.uploadUrl ≠ ""
  downloadUrl : document.downloadUrl ≠ ""
  mail : ∃ account, document.primaryAccounts.find? Capability.mail.urn = some account ∧ account ≠ ""
  core : ∀ value, document.capabilities.find? Capability.core.urn = some value →
    ∃ limits, read? CoreCapability value = .ok limits

def Has (document : SessionDocument) : SessionProblem → Prop
  | .missingUsername => document.username = ""
  | .missingApiUrl => document.apiUrl = ""
  | .invalidApiUrl => ∀ url, Url.parse document.apiUrl ≠ .ok url
  | .missingUploadUrl => document.uploadUrl = ""
  | .missingDownloadUrl => document.downloadUrl = ""
  | .missingMailAccount => ∀ account,
    document.primaryAccounts.find? Capability.mail.urn = some account → account = ""
  | .malformedCoreCapability => ∃ value,
    document.capabilities.find? Capability.core.urn = some value ∧
      ∀ limits, read? CoreCapability value ≠ .ok limits

structure First (document : SessionDocument) (problem : SessionProblem) : Prop where
  has : document.Has problem
  earlier : ∀ other : SessionProblem, other.Before problem → ¬document.Has other

theorem complete_iff : document.Complete ↔ ∀ problem, ¬document.Has problem := by
  constructor
  · intro complete problem has
    cases problem with
    | missingUsername => exact complete.username has
    | missingApiUrl => exact complete.apiUrl has
    | invalidApiUrl =>
      obtain ⟨url, parsed⟩ := complete.parses
      exact has url parsed
    | missingUploadUrl => exact complete.uploadUrl has
    | missingDownloadUrl => exact complete.downloadUrl has
    | missingMailAccount =>
      obtain ⟨account, found, named⟩ := complete.mail
      exact named (has account found)
    | malformedCoreCapability =>
      obtain ⟨value, found, malformed⟩ := has
      obtain ⟨limits, wasRead⟩ := complete.core value found
      exact malformed limits wasRead
  · intro sound
    refine ⟨sound .missingUsername, sound .missingApiUrl, ?_, sound .missingUploadUrl,
      sound .missingDownloadUrl, ?_, ?_⟩
    · simpa [Has] using sound .invalidApiUrl
    · simpa [Has] using sound .missingMailAccount
    · simpa [Has] using sound .malformedCoreCapability

theorem First.unique (first : document.First problem) (also : document.First other) :
    problem = other := by
  rcases problem.before_or_eq other with before | same | after
  · exact absurd first.has (also.earlier problem before)
  · exact same
  · exact absurd also.has (first.earlier other after)

theorem exists_first (has : document.Has problem) : ∃ first, document.First first := by
  induction place : SessionProblem.inOrder.idxOf problem using Nat.strongRecOn
    generalizing problem with
  | _ place ih =>
    by_cases earlier : ∃ other : SessionProblem, other.Before problem ∧ document.Has other
    · obtain ⟨other, before, otherHas⟩ := earlier
      exact ih _ (place ▸ before) otherHas rfl
    · exact ⟨problem, has, fun other before otherHas => earlier ⟨other, before, otherHas⟩⟩

theorem complete_or_first (document : SessionDocument) :
    document.Complete ∨ ∃ problem, document.First problem := by
  by_cases complete : document.Complete
  · exact .inl complete
  · rw [complete_iff, Classical.not_forall] at complete
    obtain ⟨problem, has⟩ := complete
    exact .inr (exists_first (Classical.not_not.1 has))

theorem First.ofDocument (first : document.First problem) :
    Session.ofDocument document = .error problem := by
  obtain ⟨has, earlier⟩ := first
  have username (passed : SessionProblem.missingUsername.Before problem) :
      document.username ≠ "" := earlier _ passed
  have apiUrl (passed : SessionProblem.missingApiUrl.Before problem) :
      document.apiUrl ≠ "" := earlier _ passed
  have parses (passed : SessionProblem.invalidApiUrl.Before problem) :
      ∃ url, Url.parse document.apiUrl = .ok url := by
    simpa [Has] using earlier _ passed
  have uploadUrl (passed : SessionProblem.missingUploadUrl.Before problem) :
      document.uploadUrl ≠ "" := earlier _ passed
  have downloadUrl (passed : SessionProblem.missingDownloadUrl.Before problem) :
      document.downloadUrl ≠ "" := earlier _ passed
  cases problem with
  | missingUsername =>
    have empty : document.username = "" := has
    simp [Session.ofDocument, bind, Except.bind, empty]
  | missingApiUrl =>
    have empty : document.apiUrl = "" := has
    simp [Session.ofDocument, bind, Except.bind, username (by decide), empty]
  | invalidApiUrl =>
    cases parsed : Url.parse document.apiUrl with
    | ok url => exact absurd parsed (has url)
    | error problem =>
      simp [Session.ofDocument, bind, Except.bind, username (by decide), apiUrl (by decide), parsed]
  | missingUploadUrl =>
    obtain ⟨url, parsed⟩ := parses (by decide)
    have empty : document.uploadUrl = "" := has
    simp [Session.ofDocument, bind, Except.bind, username (by decide), apiUrl (by decide), parsed,
      empty]
  | missingDownloadUrl =>
    obtain ⟨url, parsed⟩ := parses (by decide)
    have empty : document.downloadUrl = "" := has
    simp [Session.ofDocument, bind, Except.bind, username (by decide), apiUrl (by decide), parsed,
      uploadUrl (by decide), empty]
  | missingMailAccount =>
    obtain ⟨url, parsed⟩ := parses (by decide)
    have unnamed :
        (document.primaryAccounts.find? Capability.mail.urn).filter (· != "") = none := by
      simpa [Option.filter_eq_none_iff, Has] using has
    simp [Session.ofDocument, bind, Except.bind, username (by decide), apiUrl (by decide), parsed,
      uploadUrl (by decide), downloadUrl (by decide), unnamed]
  | malformedCoreCapability =>
    obtain ⟨url, parsed⟩ := parses (by decide)
    obtain ⟨account, found, named⟩ :
        ∃ account, document.primaryAccounts.find? Capability.mail.urn = some account ∧
          account ≠ "" := by
      simpa [Has] using earlier .missingMailAccount (by decide)
    have mail : (document.primaryAccounts.find? Capability.mail.urn).filter (· != "") =
        some account := by
      simp [found, named]
    obtain ⟨value, stated, malformed⟩ := has
    cases wasRead : read? CoreCapability value with
    | ok limits => exact absurd wasRead (malformed limits)
    | error problem =>
      simp [Session.ofDocument, bind, Except.bind, username (by decide), apiUrl (by decide),
        parsed, uploadUrl (by decide), downloadUrl (by decide), mail, stated, wasRead]

/-- The session of a complete document; what is not taken over as it is comes from the URL, the
primary accounts and the capabilities. -/
def sessionWith (document : SessionDocument) (apiUrl : Url) (mailAccount : String)
    (core : CoreCapability) : Session where
  username := document.username
  apiUrl := apiUrl
  uploadTemplate := document.uploadUrl
  downloadTemplate := document.downloadUrl
  eventSourceUrl := document.eventSourceUrl
  mailAccount := mailAccount
  primaryAccounts := document.primaryAccounts
  accounts := document.accounts
  core := core
  state := document.state

theorem Complete.ofDocument (complete : document.Complete) :
    ∃ apiUrl account core,
      (document.primaryAccounts.find? Capability.mail.urn).filter (· != "") = some account ∧
        Session.ofDocument document = .ok (document.sessionWith apiUrl account core) := by
  obtain ⟨url, parsed⟩ := complete.parses
  obtain ⟨account, found, named⟩ := complete.mail
  have mail : (document.primaryAccounts.find? Capability.mail.urn).filter (· != "") =
      some account := by
    simp [found, named]
  cases stated : document.capabilities.find? Capability.core.urn with
  | none =>
    refine ⟨url, account, {}, mail, ?_⟩
    simp [Session.ofDocument, bind, Except.bind, complete.username, complete.apiUrl, parsed,
      complete.uploadUrl, complete.downloadUrl, mail, stated, sessionWith]
  | some value =>
    obtain ⟨limits, wasRead⟩ := complete.core value stated
    refine ⟨url, account, limits, mail, ?_⟩
    simp [Session.ofDocument, bind, Except.bind, complete.username, complete.apiUrl, parsed,
      complete.uploadUrl, complete.downloadUrl, mail, stated, wasRead, sessionWith]

theorem complete_of_ofDocument {session : Session}
    (made : Session.ofDocument document = .ok session) : document.Complete := by
  rcases document.complete_or_first with complete | ⟨problem, first⟩
  · exact complete
  · rw [first.ofDocument] at made
    cases made

theorem ofDocument_isOk_iff :
    (∃ session, Session.ofDocument document = .ok session) ↔ document.Complete := by
  refine ⟨fun ⟨session, made⟩ => complete_of_ofDocument made, fun complete => ?_⟩
  obtain ⟨apiUrl, account, core, -, made⟩ := complete.ofDocument
  exact ⟨_, made⟩

theorem ofDocument_eq_error_iff :
    Session.ofDocument document = .error problem ↔ document.First problem := by
  refine ⟨fun refused => ?_, First.ofDocument⟩
  rcases document.complete_or_first with complete | ⟨other, first⟩
  · obtain ⟨apiUrl, account, core, -, made⟩ := complete.ofDocument
    rw [made] at refused
    cases refused
  · rw [first.ofDocument] at refused
    cases refused
    exact first

/-- The account that a document provides for a capability: the primary account of the capability,
else that for mail. -/
inductive Provides (document : SessionDocument) (capability : Capability) : String → Prop
  | own {account : String}
      (primary : document.primaryAccounts.find? capability.urn = some account)
      (named : account ≠ "") : Provides document capability account
  | mail {account : String}
      (absent : ∀ account, document.primaryAccounts.find? capability.urn = some account →
        account = "")
      (primary : document.primaryAccounts.find? Capability.mail.urn = some account)
      (named : account ≠ "") : Provides document capability account

theorem Provides.named {account : String} (provides : document.Provides capability account) :
    account ≠ "" := by
  cases provides with
  | own primary named => exact named
  | mail absent primary named => exact named

end SessionDocument

namespace Session

variable {document : SessionDocument} {session : Session} {capability : Capability} {name : String}

theorem eq_of_ofDocument (made : ofDocument document = .ok session) :
    ∃ apiUrl account core,
      (document.primaryAccounts.find? Capability.mail.urn).filter (· != "") = some account ∧
        session = document.sessionWith apiUrl account core := by
  obtain ⟨apiUrl, account, core, mail, same⟩ :=
    (SessionDocument.complete_of_ofDocument made).ofDocument
  exact ⟨apiUrl, account, core, mail, Except.ok.inj (made.symm.trans same)⟩

theorem username_of_ofDocument (made : ofDocument document = .ok session) :
    session.username = document.username := by
  obtain ⟨apiUrl, account, core, -, rfl⟩ := eq_of_ofDocument made
  rfl

theorem accounts_of_ofDocument (made : ofDocument document = .ok session) :
    session.primaryAccounts = document.primaryAccounts ∧
      (document.primaryAccounts.find? Capability.mail.urn).filter (· != "") =
        some session.mailAccount := by
  obtain ⟨apiUrl, account, core, mail, rfl⟩ := eq_of_ofDocument made
  exact ⟨rfl, mail⟩

theorem account_of_named (named : ¬NamesDefault name) : session.account capability name = name := by
  have own : namesAccount name = true := by simpa [namesAccount, NamesDefault] using named
  rw [account, own]
  rfl

theorem account_account : session.account capability (session.account capability name) =
    session.account capability name := by
  by_cases meant : NamesDefault name
  · rw [meant.account_eq]
    by_cases again : NamesDefault (session.account capability "")
    · exact again.account_eq session capability
    · exact account_of_named again
  · rw [account_of_named meant, account_of_named meant]

theorem provides_account (made : ofDocument document = .ok session) (meant : NamesDefault name) :
    document.Provides capability (session.account capability name) := by
  obtain ⟨same, mail⟩ := accounts_of_ofDocument made
  obtain ⟨primary, named⟩ := Option.filter_eq_some_iff.1 mail
  have named : session.mailAccount ≠ "" := by simpa using named
  rw [account, meant.namesAccount_eq, primaryAccount?, same]
  cases own : (document.primaryAccounts.find? capability.urn).filter (· != "") with
  | none => exact .mail (by simpa [Option.filter_eq_none_iff] using own) primary named
  | some account =>
    obtain ⟨found, named⟩ := Option.filter_eq_some_iff.1 own
    exact .own found (by simpa using named)

inductive Resolver where
  | mail
  | submission
  | blob
  | general (capability : Capability)

namespace Resolver

def subject : Resolver → Capability
  | .mail => .mail
  | .submission => .submission
  | .blob => .blob
  | .general capability => capability

def resolve (session : Session) : Resolver → String → String
  | .mail => session.resolveMail
  | .submission => session.resolveSubmission
  | .blob => session.resolveBlob
  | .general capability => session.account capability

theorem resolve_eq (made : ofDocument document = .ok session) (resolver : Resolver)
    (name : String) :
    resolver.resolve session name = session.account resolver.subject name := by
  cases resolver with
  | mail =>
    obtain ⟨same, mail⟩ := accounts_of_ofDocument made
    have primary : session.primaryAccount? .mail = some session.mailAccount := by
      rw [primaryAccount?, same, mail]
    rw [subject, account, primary]
    rfl
  | _ => rfl

end Resolver

/-- A document makes a session if it is complete, and otherwise its first problem is told. A
session names an account to whoever asks: the one that is asked for by name, else the one that the
document provides. To ask again by the name that was told changes nothing. -/
theorem accounts_named (document : SessionDocument) :
    ((∃ session, ofDocument document = .ok session) ↔ document.Complete) ∧
    (∀ problem, ofDocument document = .error problem ↔ document.First problem) ∧
    ∀ session, ofDocument document = .ok session → ∀ (resolver : Resolver) (name : String),
      resolver.resolve session name ≠ "" ∧
      (¬NamesDefault name → resolver.resolve session name = name) ∧
      (NamesDefault name →
        document.Provides resolver.subject (resolver.resolve session name)) ∧
      resolver.resolve session (resolver.resolve session name) = resolver.resolve session name := by
  refine ⟨SessionDocument.ofDocument_isOk_iff, fun _ => SessionDocument.ofDocument_eq_error_iff,
    fun session made resolver name => ?_⟩
  rw [resolver.resolve_eq made, resolver.resolve_eq made]
  refine ⟨?_, account_of_named, provides_account made, account_account⟩
  by_cases meant : NamesDefault name
  · exact (provides_account made meant).named
  · rw [account_of_named meant]
    exact fun empty => meant (.inl empty)

/-- The account for blobs goes by an asterisk here, and to ask for it by that name is to ask for
the default, which it is. The account for submissions has no name, so that for mail takes its
place. -/
theorem accounts_named_by_asterisk :
    ∃ (document : SessionDocument) (session : Session),
      ofDocument document = .ok session ∧ NamesDefault "*" ∧ ¬NamesDefault "k" ∧
      document.Provides .blob "*" ∧ session.resolveBlob "" = "*" ∧
      session.resolveBlob (session.resolveBlob "") = session.resolveBlob "" ∧
      document.Provides .submission "m" ∧ session.resolveSubmission "*" = "m" ∧
      session.resolveMail "k" = "k" := by
  let document : SessionDocument :=
    { (default : SessionDocument) with
      username := "u"
      apiUrl := "a:b"
      uploadUrl := "u"
      downloadUrl := "d"
      primaryAccounts := .ofList [(Capability.mail.urn, "m"), (Capability.submission.urn, ""),
        (Capability.blob.urn, "*")] }
  have checked : (ofDocument document).toOption.any (fun session =>
      session.resolveBlob "" = "*" ∧ session.resolveSubmission "*" = "m") = true := by
    decide +kernel
  obtain ⟨session, made, checked⟩ := any_toOption checked
  obtain ⟨blob, submission⟩ := of_decide_eq_true checked
  obtain ⟨-, -, named⟩ := accounts_named document
  have unnamed : ¬NamesDefault "k" := by simp [NamesDefault]
  obtain ⟨-, -, blobProvided, again⟩ := named session made .blob ""
  obtain ⟨-, -, submissionProvided, -⟩ := named session made .submission "*"
  obtain ⟨-, mail, -, -⟩ := named session made .mail "k"
  exact ⟨document, session, made, .inr rfl, unnamed, blob ▸ blobProvided (.inl rfl), blob, again,
    submission ▸ submissionProvided (.inr rfl), submission, mail unnamed⟩

end Session

end Jmap
