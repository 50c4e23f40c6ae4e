import Jmap.Client
import Jmap.Proofs.Json.Wire
import Jmap.Proofs.Survey

namespace Jmap

def NamesDefault (account : String) : Prop := account = "" ∨ account = "*"

namespace NamesDefault

variable {account : String}

theorem namesAccount_eq (meant : NamesDefault account) : Session.namesAccount account = false := by
  rcases meant with rfl | rfl <;> rfl

theorem account_eq (meant : NamesDefault account) (session : Session) (capability : Capability) :
    session.account capability account = session.account capability "" := by
  rw [Session.account, meant.namesAccount_eq]
  rfl

theorem resolveMail_eq (meant : NamesDefault account) (session : Session) :
    session.resolveMail account = session.mailAccount := by
  rw [Session.resolveMail, meant.namesAccount_eq]
  rfl

end NamesDefault

theorem eraseDups_eq_singleton {accounts : List String} {only : String}
    (nonempty : accounts ≠ []) (all : ∀ account ∈ accounts, account = only) :
    accounts.eraseDups = [only] := by
  cases accounts with
  | nil => exact absurd rfl nonempty
  | cons account accounts =>
    rw [List.forall_mem_cons] at all
    obtain ⟨rfl, others⟩ := all
    have nothing : accounts.filter (fun other => !other == account) = [] := by
      refine List.filter_eq_nil_iff.2 (fun other member => ?_)
      simp [others other member]
    rw [List.eraseDups_cons, nothing]
    rfl

namespace Survey

variable {α : Type}

/-- Where quotas are asked for by name, the default account is that for mail. So for quotas it
has to be the default account for both. -/
def Settled (session : Session) : Survey α → Prop
  | .quotas => session.account .quota "" = session.mailAccount
  | _ => True

variable {survey : Survey α} {session : Session} {accounts others : List String}

theorem resolve_of_default {account : String} (meant : NamesDefault account) :
    survey.resolve session account = survey.resolve session "" := by
  cases survey with
  | cards filter sort position limit => exact meant.account_eq session .contacts
  | _ => exact meant.resolveMail_eq session

theorem settled_iff :
    survey.Settled session ↔ survey.resolve session "" = survey.primary session := by
  cases survey with
  | quotas => exact eq_comm
  | _ => exact ⟨fun _ => rfl, fun _ => trivial⟩

theorem resolved_of_default (nonempty : accounts ≠ [])
    (defaults : ∀ account ∈ accounts, NamesDefault account) :
    (survey.resolved session accounts).eraseDups = [survey.resolve session ""] := by
  have some : accounts.isEmpty = false := by simpa using nonempty
  rw [resolved, some]
  refine eraseDups_eq_singleton (by simpa using nonempty) (fun account member => ?_)
  obtain ⟨name, named, rfl⟩ := List.mem_map.1 member
  exact resolve_of_default (defaults name named)

theorem resolved_nil : (survey.resolved session []).eraseDups = [survey.primary session] := rfl

/-- How the accounts are named does not matter to a survey, only which ones are meant. -/
theorem operation_congr (same : (survey.resolved session accounts).eraseDups =
    (survey.resolved session others).eraseDups) :
    survey.operation session accounts = survey.operation session others := by
  obtain ⟨calls, part, made, -⟩ := survey.exists_forAccounts session
  rw [made, made, same]

theorem resolved_of_invocations (same : (survey.operation session accounts).invocations =
    (survey.operation session others).invocations) {account other : String}
    (one : (survey.resolved session accounts).eraseDups = [account])
    (another : (survey.resolved session others).eraseDups = [other]) : account = other := by
  obtain ⟨calls, part, made, shares⟩ := survey.exists_forAccounts session
  obtain ⟨suffix, suffixes, listed⟩ := List.exists_cons_of_ne_nil survey.suffixes_ne_nil
  rw [made, made, one, another] at same
  have tags := congrArg (List.map (·.tag)) same
  simp only [Operation.forAccounts, List.flatMap_singleton, shares.tags, listed,
    List.map_cons] at tags
  exact ((accountTag_inj rfl).1 (List.cons.inj tags).1).1

/-- To name the default account is to name none, except that quotas are asked of the account
for mail where they have an account of their own. -/
theorem default_agrees (survey : Survey α) (session : Session) (nonempty : accounts ≠ [])
    (defaults : ∀ account ∈ accounts, NamesDefault account) :
    (survey.Settled session →
      survey.operation session accounts = survey.operation session [] ∧
      (∀ {World : Type} (client : Client World) (world : World),
        client.perform session (survey.operation session accounts) world =
          client.perform session (survey.operation session []) world) ∧
      ∀ response results, (survey.operation session accounts).decode response = .ok results →
        results.keys = [survey.primary session]) ∧
    ((survey.operation session accounts).invocations =
      (survey.operation session []).invocations ↔ survey.Settled session) := by
  have named : (survey.resolved session accounts).eraseDups = [survey.resolve session ""] :=
    resolved_of_default nonempty defaults
  have agree (settled : survey.Settled session) :
      survey.operation session accounts = survey.operation session [] := by
    apply operation_congr
    rw [named, resolved_nil, settled_iff.1 settled]
  refine ⟨fun settled => ⟨agree settled, ?_, ?_⟩, ?_, ?_⟩
  · intro World client world
    rw [agree settled]
  · intro response results decoded
    obtain ⟨calls, part, made, -⟩ := survey.exists_forAccounts session
    rw [made, named, settled_iff.1 settled] at decoded
    exact List.perm_singleton.1 (Operation.decode_forAccounts (by simp) decoded).1
  · intro same
    exact settled_iff.2 (resolved_of_invocations same named resolved_nil)
  · intro settled
    rw [agree settled]

theorem default_agrees_for_contacts :
    ∃ (session : Session) (accounts : List String) (survey : Survey (List ContactCard))
      (response : Response) (results : Dict (List ContactCard)),
      accounts = ["", "*", "*"] ∧ session.mailAccount = "m" ∧ survey.primary session = "k" ∧
      survey.operation session accounts = survey.operation session [] ∧
      (survey.operation session accounts).decode response = .ok results ∧
      results.keys = ["k"] := by
  let session : Session :=
    { (default : Session) with
      mailAccount := "m"
      primaryAccounts := .ofList [(Capability.contacts.urn, "k"), (Capability.mail.urn, "m")] }
  let survey : Survey (List ContactCard) := .cards {} none 0 none
  let response : Response :=
    { entries := [⟨"ContactCard/get", "k:1", .result ⟨.cardGet, default⟩⟩]
      sessionState := default
      createdIds := none }
  have defaults : ∀ account ∈ ["", "*", "*"], NamesDefault account := by simp [NamesDefault]
  have primary : survey.primary session = "k" := by decide +kernel
  obtain ⟨agree, -⟩ := survey.default_agrees session (List.cons_ne_nil _ _) defaults
  obtain ⟨same, -, keys⟩ := agree trivial
  obtain ⟨results, decoded⟩ :
      ∃ results, (survey.operation session ["", "*", "*"]).decode response = .ok results := by
    rw [same]
    exact ⟨_, rfl⟩
  refine ⟨session, _, survey, response, results, rfl, rfl, primary, same, decoded, ?_⟩
  rw [keys response _ decoded, primary]

/-- A session with an account for quotas of its own: which account is asked depends on how the
default account is named. -/
theorem default_disagrees_for_quotas :
    ∃ (document : SessionDocument) (session : Session) (first second : Request),
      Session.ofDocument document = .ok session ∧
      NamesDefault "*" ∧
      (quotas.operation session []).request session = .ok first ∧
      (quotas.operation session ["*"]).request session = .ok second ∧
      first.accountIds = ["q"] ∧ second.accountIds = ["m"] ∧ first.render ≠ second.render := by
  let document : SessionDocument :=
    { (default : SessionDocument) with
      username := "u"
      apiUrl := "a:b"
      uploadUrl := "u"
      downloadUrl := "d"
      primaryAccounts := .ofList [(Capability.mail.urn, "m"), (Capability.quota.urn, "q")] }
  have checked : (Session.ofDocument document).toOption.any (fun session =>
      ((quotas.operation session []).request session).toOption.any (fun first =>
        ((quotas.operation session ["*"]).request session).toOption.any (fun second =>
          first.accountIds = ["q"] ∧ second.accountIds = ["m"] ∧
            first.render ≠ second.render))) = true := by
    decide +kernel
  obtain ⟨session, valid, checked⟩ := any_toOption checked
  obtain ⟨first, built, checked⟩ := any_toOption checked
  obtain ⟨second, otherBuilt, checked⟩ := any_toOption checked
  exact ⟨document, session, first, second, valid, .inr rfl, built, otherBuilt,
    of_decide_eq_true checked⟩

end Survey

end Jmap
