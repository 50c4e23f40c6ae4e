import Jmap.Operation.Card
import Jmap.Operation.Email
import Jmap.Operation.Mailbox
import Jmap.Operation.Quota
import Jmap.Proofs.Lookup
import Jmap.Proofs.References

namespace Jmap

open Json

/-- What can be asked of several accounts at once, by the type of the answer that one of
them gives. -/
inductive Survey : Type → Type
  | mailboxes : Survey (List Mailbox)
  | mailboxSearch (filter : MailboxFilter) : Survey (List Mailbox)
  | emails (filter : EmailFilter) (offset : UInt64) (limit : Option UInt64)
      (options : BodyOptions) : Survey EmailPage
  | quotas : Survey (List Quota)
  | bootstrap : Survey AccountBootstrap
  | cards (filter : CardFilter) (sort : Option (List Comparator)) (position : UInt64)
      (limit : Option UInt64) : Survey (List ContactCard)

namespace Survey

variable {α : Type}

def operation (session : Session) (accounts : List String) : Survey α → Operation (Dict α)
  | .mailboxes => .getAllMailboxes session accounts
  | .mailboxSearch filter => .searchMailboxes session accounts filter
  | .emails filter offset limit options =>
    .queryEmails session accounts filter offset limit options
  | .quotas => .getQuotas session accounts
  | .bootstrap => .getBootstrap session accounts
  | .cards filter sort position limit =>
    .queryContactCards session accounts filter sort position limit

def resolve (session : Session) : Survey α → String → String
  | .cards .. => session.account .contacts
  | _ => session.resolveMail

def primary (session : Session) : Survey α → String
  | .cards .. => session.account .contacts ""
  | .quotas => session.account .quota ""
  | _ => session.resolveMail ""

def resolved (session : Session) (accounts : List String) (survey : Survey α) : List String :=
  if accounts.isEmpty then [survey.primary session] else accounts.map (survey.resolve session)

def suffixes : Survey α → List String
  | .mailboxes => ["0"]
  | .mailboxSearch _ | .emails .. | .cards .. => ["0", "1"]
  | .quotas => ["Q"]
  | .bootstrap => ["I", "Q"]

def owns (survey : Survey α) (account : String) (entry : Entry) : Bool :=
  survey.suffixes.any (fun suffix => entry.tag == accountTag account suffix)

end Survey

theorem accountTag_inj {account other suffix tag : String} (same : suffix.length = tag.length) :
    accountTag account suffix = accountTag other tag ↔ account = other ∧ suffix = tag := by
  constructor
  · intro equal
    have lists :
        (account ++ ":").toList ++ suffix.toList = (other ++ ":").toList ++ tag.toList := by
      rw [← String.toList_append, ← String.toList_append]
      exact congrArg String.toList equal
    have lengths : suffix.toList.length = tag.toList.length := by
      rwa [String.length_toList, String.length_toList]
    obtain ⟨heads, tails⟩ := List.append_inj' lists lengths
    rw [String.toList_append, String.toList_append] at heads
    exact ⟨String.toList_inj.1 (List.append_cancel_right heads), String.toList_inj.1 tails⟩
  · rintro ⟨rfl, rfl⟩
    rfl

namespace Survey

variable {α : Type} {survey : Survey α} {account other : String} {entry : Entry}

theorem owns_eq_true_iff : survey.owns account entry = true ↔
    ∃ suffix ∈ survey.suffixes, entry.tag = accountTag account suffix := by
  simp [owns]

theorem length_of_mem_suffixes {suffix : String} (member : suffix ∈ survey.suffixes) :
    suffix.length = 1 := by
  have all : ∀ suffix ∈ survey.suffixes, suffix.length = 1 := by
    cases survey <;> simp [suffixes] <;> decide
  exact all suffix member

theorem suffixes_nodup : survey.suffixes.Nodup := by
  cases survey <;> simp [suffixes]

theorem eq_of_owns (own : survey.owns account entry = true)
    (also : survey.owns other entry = true) : account = other := by
  obtain ⟨suffix, member, first⟩ := owns_eq_true_iff.1 own
  obtain ⟨another, anotherMember, second⟩ := owns_eq_true_iff.1 also
  have same : suffix.length = another.length :=
    (length_of_mem_suffixes member).trans (length_of_mem_suffixes anotherMember).symm
  exact ((accountTag_inj same).1 (first.symm.trans second)).1

end Survey

theorem Response.get_congr {left right : Response} {method : Method} {tag : String}
    (same : left.matchOne method tag = right.matchOne method tag) :
    left.get method tag = right.get method tag := by
  rw [get, getAs, same]
  rfl

open Batch

namespace Operation

theorem plain_arguments (options : BodyOptions) : Plain options.arguments := by
  rw [BodyOptions.arguments]
  cases options.maxBodyValueBytes <;> simp [Plain, plainKey?]

theorem references_emailGet {earlier : List Invocation} {account tag resultOf path : String}
    {name : Method} {options : BodyOptions}
    (target : ∃ target ∈ earlier, target.tag = resultOf ∧ target.method = name)
    (rooted : ∃ rest, path = "/" ++ rest) :
    References earlier (emailGet account tag (idsOf resultOf name path) options) := by
  refine references_idsOf (plain_arguments options) ?_ target rooted
  rw [BodyOptions.arguments]
  cases options.maxBodyValueBytes <;> simp

theorem allReference_page {earlier : List Invocation} {account queryTag getTag : String}
    {filter : EmailFilter} {offset : UInt64} {limit : Option UInt64} {options : BodyOptions} :
    AllReference earlier (pageInvocations account queryTag getTag filter offset limit options) := by
  refine allReference_pair (references_of_plain ?_) ?_
  · by_cases first : offset = 0 <;> cases limit <;> simp [first, Plain, plainKey?]
  · exact references_emailGet ⟨_, List.mem_concat_self, rfl, rfl⟩ ⟨"ids/*", rfl⟩

variable {α : Type} {accounts : List String} {calls : String → List Invocation}
  {part : String → Response → Except JmapError α} {response : Response}

/-- Each account has calls of its own, and its part of the result is found under the tags of
these calls. -/
structure Shares (suffixes : List String) (calls : String → List Invocation)
    (part : String → Response → Except JmapError α) : Prop where
  tags : ∀ account, (calls account).map (·.tag) = suffixes.map (accountTag account)
  references : ∀ account earlier, AllReference earlier (calls account)
  separate : ∀ account (left right : Response),
    (∀ suffix ∈ suffixes, ∀ method, left.matchOne method (accountTag account suffix) =
      right.matchOne method (accountTag account suffix)) →
    part account left = part account right

theorem mapM_part {answers : List (String × α)}
    (decoded : accounts.mapM (fun account => do
      let value ← part account response
      .ok (account, value)) = .ok answers) :
    answers.map (·.1) = accounts ∧ ∀ answer ∈ answers, part answer.1 response = .ok answer.2 := by
  induction accounts generalizing answers with
  | nil =>
    cases decoded
    simp
  | cons account accounts ih =>
    rw [List.mapM_cons] at decoded
    obtain ⟨first, own, decoded⟩ := bind_eq_ok decoded
    obtain ⟨others, later, same⟩ := bind_eq_ok decoded
    obtain ⟨value, found, pair⟩ := bind_eq_ok own
    cases same
    cases pair
    obtain ⟨keys, values⟩ := ih later
    refine ⟨by rw [List.map_cons, keys], ?_⟩
    rw [List.forall_mem_cons]
    exact ⟨found, values⟩

theorem decode_forAccounts {results : Dict α} (distinct : accounts.Nodup)
    (decoded : (forAccounts accounts calls part).decode response = .ok results) :
    results.keys.Perm accounts ∧ ∀ account value, results.find? account = some value ↔
      account ∈ accounts ∧ part account response = .ok value := by
  obtain ⟨answers, listed, same⟩ := bind_eq_ok decoded
  cases same
  obtain ⟨keys, values⟩ := mapM_part listed
  have once : (answers.map (·.1)).Nodup := by rwa [keys]
  refine ⟨?_, fun account value => ?_⟩
  · rw [← keys]
    exact (Entries.perm_ofList once).map _
  rw [Dict.find?_ofList once]
  constructor
  · intro member
    refine ⟨?_, values _ member⟩
    rw [← keys]
    exact List.mem_map.2 ⟨_, member, rfl⟩
  · rintro ⟨asked, found⟩
    rw [← keys] at asked
    obtain ⟨⟨_, other⟩, member, rfl⟩ := List.mem_map.1 asked
    cases (values _ member).symm.trans found
    exact member

theorem decode_congr {other : Response}
    (same : ∀ account, part account other = part account response) :
    (forAccounts accounts calls part).decode other =
      (forAccounts accounts calls part).decode response := by
  simp only [forAccounts, same]

end Operation

namespace Survey

variable {α : Type} {survey : Survey α}

theorem mailAccounts_eq {session : Session} {accounts : List String}
    (mail : survey.resolve session = session.resolveMail)
    (first : survey.primary session = session.resolveMail "") :
    (survey.resolved session accounts).eraseDups = session.mailAccounts accounts := by
  rw [resolved, mail, first]
  cases accounts <;> rfl

theorem exists_forAccounts (survey : Survey α) (session : Session) :
    ∃ calls part, (∀ accounts, survey.operation session accounts =
        .forAccounts (survey.resolved session accounts).eraseDups calls part) ∧
      Operation.Shares survey.suffixes calls part := by
  have rename {survey : Survey α} {accounts asked : List String} {calls : String → List Invocation}
      {β : Type} {part : String → Response → Except JmapError β}
      (same : (survey.resolved session accounts).eraseDups = asked) :
      Operation.forAccounts asked calls part =
        .forAccounts (survey.resolved session accounts).eraseDups calls part := by
    rw [same]
  -- Quotas and cards pick their accounts in ways of their own, all others by `mailAccounts`.
  cases survey with
  | mailboxes =>
    refine ⟨_, _, fun accounts => rename (mailAccounts_eq rfl rfl), fun _ => rfl, ?_, ?_⟩
    · intro account earlier
      exact allReference_cons.2 ⟨references_of_plain plain_nil, allReference_nil⟩
    · intro account left right same
      rw [Response.get_congr (same "0" (by simp [suffixes]) _)]
  | mailboxSearch filter =>
    refine ⟨_, _, fun accounts => rename (mailAccounts_eq rfl rfl), fun _ => rfl, ?_, ?_⟩
    · intro account earlier
      refine allReference_pair (references_of_plain (by simp [Plain, plainKey?])) ?_
      exact references_ids ⟨_, List.mem_concat_self, rfl, rfl⟩ ⟨"ids", rfl⟩
    · intro account left right same
      rw [Response.get_congr (same "1" (by simp [suffixes]) _)]
  | emails filter offset limit options =>
    refine ⟨_, _, fun accounts => rename (mailAccounts_eq rfl rfl), fun _ => rfl, ?_, ?_⟩
    · exact fun account earlier => Operation.allReference_page
    · intro account left right same
      rw [Operation.decodePage, Response.get_congr (same "0" (by simp [suffixes]) _),
        Response.get_congr (same "1" (by simp [suffixes]) _)]
      rfl
  | quotas =>
    have asked (accounts : List String) : (quotas.resolved session accounts).eraseDups =
        if accounts.isEmpty then [session.account .quota ""]
        else session.mailAccounts accounts := by
      cases accounts <;> rfl
    refine ⟨_, _, fun accounts => rename (asked accounts), fun _ => rfl, ?_, ?_⟩
    · intro account earlier
      exact allReference_cons.2 ⟨references_of_plain plain_nil, allReference_nil⟩
    · intro account left right same
      rw [Response.get_congr (same "Q" (by simp [suffixes]) _)]
  | bootstrap =>
    refine ⟨_, _, fun accounts => rename (mailAccounts_eq rfl rfl), fun _ => rfl, ?_, ?_⟩
    · intro account earlier
      exact allReference_pair (references_of_plain plain_nil) (references_of_plain plain_nil)
    · intro account left right same
      rw [Response.get_congr (same "I" (by simp [suffixes]) _),
        Response.get_congr (same "Q" (by simp [suffixes]) _)]
  | cards filter sort position limit =>
    have asked (accounts : List String) :
        ((cards filter sort position limit).resolved session accounts).eraseDups =
          session.accountsFor .contacts accounts := by
      cases accounts <;> rfl
    refine ⟨_, _, fun accounts => rename (asked accounts), fun _ => rfl, ?_, ?_⟩
    · intro account earlier
      refine allReference_pair (references_of_plain ?_) ?_
      · by_cases first : position = 0 <;> cases limit <;> simp [first, Plain, plainKey?]
      · exact references_ids ⟨_, List.mem_concat_self, rfl, rfl⟩ ⟨"ids/*", rfl⟩
    · intro account left right same
      rw [Response.get_congr (same "1" (by simp [suffixes]) _)]

theorem exists_shares (survey : Survey α) (session : Session) (accounts : List String) :
    ∃ calls part, survey.operation session accounts =
        .forAccounts (survey.resolved session accounts).eraseDups calls part ∧
      Operation.Shares survey.suffixes calls part := by
  obtain ⟨calls, part, same, shares⟩ := survey.exists_forAccounts session
  exact ⟨calls, part, same accounts, shares⟩

end Survey

namespace Operation

variable {α : Type} {suffixes accounts : List String} {calls : String → List Invocation}
  {part : String → Response → Except JmapError α}

theorem Shares.length_calls (shares : Shares suffixes calls part) (account : String) :
    (calls account).length = suffixes.length := by
  have same := congrArg List.length (shares.tags account)
  rwa [List.length_map, List.length_map] at same

theorem Shares.length_flatMap (shares : Shares suffixes calls part) (accounts : List String) :
    (accounts.flatMap calls).length = suffixes.length * accounts.length := by
  induction accounts with
  | nil => rfl
  | cons account accounts ih =>
    rw [List.flatMap_cons, List.length_append, ih, shares.length_calls, List.length_cons,
      Nat.mul_succ, Nat.add_comm]

theorem Shares.allReference (shares : Shares suffixes calls part) (earlier : List Invocation) :
    AllReference earlier (accounts.flatMap calls) := by
  induction accounts generalizing earlier with
  | nil => exact allReference_nil
  | cons account accounts ih =>
    rw [List.flatMap_cons, allReference_append]
    exact ⟨shares.references account earlier, ih _⟩

theorem Shares.nodup_tags (shares : Shares suffixes calls part)
    (single : ∀ suffix ∈ suffixes, suffix.length = 1) (different : suffixes.Nodup)
    (distinct : accounts.Nodup) : ((accounts.flatMap calls).map (·.tag)).Nodup := by
  have inj {account other suffix tag : String} (member : suffix ∈ suffixes) (also : tag ∈ suffixes)
      (equal : accountTag account suffix = accountTag other tag) :=
    (accountTag_inj ((single suffix member).trans (single tag also).symm)).1 equal
  rw [List.map_flatMap]
  simp only [shares.tags]
  refine List.pairwise_flatMap.2 ⟨fun account _ => ?_, distinct.imp (fun apart => ?_)⟩
  · refine List.pairwise_map.2 (different.imp_of_mem (fun member also apart equal => ?_))
    exact apart (inj member also equal).2
  · intro tag member other also equal
    obtain ⟨suffix, suffixMember, rfl⟩ := List.mem_map.1 member
    obtain ⟨another, anotherMember, rfl⟩ := List.mem_map.1 also
    exact apart (inj suffixMember anotherMember equal).1

end Operation

namespace Survey

variable {α : Type} {survey : Survey α}

theorem exists_mem_resolved (survey : Survey α) (session : Session) (accounts : List String) :
    ∃ account, account ∈ survey.resolved session accounts := by
  cases accounts with
  | nil => exact ⟨_, List.mem_cons_self⟩
  | cons account accounts => exact ⟨_, List.mem_cons_self⟩

theorem suffixes_ne_nil : survey.suffixes ≠ [] := by
  cases survey <;> simp [suffixes]

theorem length_invocations (survey : Survey α) (session : Session) (accounts : List String) :
    (survey.operation session accounts).invocations.length =
      survey.suffixes.length * (survey.resolved session accounts).eraseDups.length := by
  obtain ⟨calls, part, same, shares⟩ := survey.exists_shares session accounts
  rw [same]
  exact shares.length_flatMap _

theorem valid (survey : Survey α) (session : Session) (accounts : List String) :
    Valid { invocations := (survey.operation session accounts).invocations } := by
  have once := (Distinct.firsts_eraseDups (survey.resolved session accounts)).once
  obtain ⟨calls, part, same, shares⟩ := survey.exists_shares session accounts
  rw [same]
  refine valid_of_allReference ?_ ?_ (shares.allReference [])
  · intro nothing
    obtain ⟨account, asked⟩ := survey.exists_mem_resolved session accounts
    have own : calls account = [] :=
      List.flatMap_eq_nil_iff.1 nothing account (List.mem_eraseDups.2 asked)
    have none := (shares.length_calls account).symm.trans (congrArg List.length own)
    exact suffixes_ne_nil (List.length_eq_zero_iff.1 none)
  · exact shares.nodup_tags (fun _ => length_of_mem_suffixes) suffixes_nodup once

variable {session : Session} {accounts : List String} {request : Request}
  {response other : Response}

theorem tagged_filter_owns {account suffix : String} (member : suffix ∈ survey.suffixes) :
    (response.entries.filter (survey.owns account)).filter
      (fun entry => entry.tag == accountTag account suffix) =
        response.tagged (accountTag account suffix) := by
  rw [List.filter_filter, Response.tagged]
  apply List.filter_congr
  intro entry _
  cases under : entry.tag == accountTag account suffix with
  | false => rfl
  | true => exact owns_eq_true_iff.2 ⟨suffix, member, eq_of_beq under⟩

theorem part_congr {calls : String → List Invocation} {account : String}
    {part : String → Response → Except JmapError α}
    (shares : Operation.Shares survey.suffixes calls part)
    (distinct : (response.entries.map Entry.key).Nodup)
    (same : (other.entries.filter (survey.owns account)).Perm
      (response.entries.filter (survey.owns account))) :
    part account other = part account response := by
  apply shares.separate
  intro suffix member method
  apply Response.matchOne_congr distinct
  rw [← tagged_filter_owns member, ← tagged_filter_owns member]
  exact same.filter _

theorem exists_owns {calls : String → List Invocation} {asked : List String}
    {part : String → Response → Except JmapError α}
    (shares : Operation.Shares survey.suffixes calls part)
    (answers : response.Answers request) (sent : request.invocations = asked.flatMap calls) :
    ∀ entry ∈ response.entries, ∃ account ∈ asked, survey.owns account entry = true := by
  intro entry member
  obtain ⟨invocation, called, sameTag, -⟩ := answers.matched entry member
  rw [sent] at called
  obtain ⟨account, accountAsked, ownCall⟩ := List.mem_flatMap.1 called
  have tagged : entry.tag ∈ survey.suffixes.map (accountTag account) := by
    rw [← shares.tags account, ← sameTag]
    exact List.mem_map.2 ⟨invocation, ownCall, rfl⟩
  obtain ⟨suffix, suffixMember, same⟩ := List.mem_map.1 tagged
  exact ⟨account, accountAsked, owns_eq_true_iff.2 ⟨suffix, suffixMember, same.symm⟩⟩

/-- Each entry of a response belongs to one of the accounts that have been asked. What is found
for an account comes from its own entries, in whatever order the entries stand, and is found
for each account that has been asked and no other. -/
theorem accounts_apart (survey : Survey α)
    (built : (survey.operation session accounts).request session = .ok request)
    (correlated : response.correlate request = .ok ()) :
    (∀ results, (survey.operation session accounts).decode response = .ok results →
      results.keys.Nodup ∧
      (∀ account, account ∈ results.keys ↔ account ∈ survey.resolved session accounts) ∧
      ∀ other others, (survey.operation session accounts).decode other = .ok others →
        ∀ account, (other.entries.filter (survey.owns account)).Perm
            (response.entries.filter (survey.owns account)) →
          others.find? account = results.find? account) ∧
    (∀ other : Response, other.entries.Perm response.entries →
      other.correlate request = .ok () ∧
      (survey.operation session accounts).decode other =
        (survey.operation session accounts).decode response) ∧
    (∀ entry ∈ response.entries, ∃ account ∈ survey.resolved session accounts,
      survey.owns account entry = true) ∧
    ∀ account another entry, survey.owns account entry = true →
      survey.owns another entry = true → account = another := by
  have once := (Distinct.firsts_eraseDups (survey.resolved session accounts)).once
  have answers := (Response.correlate_eq_ok_iff (Batch.distinct_of_build built)).1 correlated
  obtain ⟨calls, part, same, shares⟩ := survey.exists_shares session accounts
  rw [same] at built ⊢
  -- A value depends on its own part only, and the part on the entries under its own tags.
  refine ⟨fun results decoded => ?_, fun other reordered => ⟨?_, ?_⟩, fun entry member => ?_,
    fun account another entry => eq_of_owns⟩
  · obtain ⟨keys, values⟩ := Operation.decode_forAccounts once decoded
    refine ⟨keys.nodup_iff.2 once, fun account => keys.mem_iff.trans List.mem_eraseDups, ?_⟩
    intro other others otherDecoded account agree
    obtain ⟨-, otherValues⟩ := Operation.decode_forAccounts once otherDecoded
    apply Option.ext
    intro value
    rw [values, otherValues, part_congr shares answers.distinct agree]
  · exact (Response.correlate_eq_ok_iff (Batch.distinct_of_build built)).2 (answers.perm reordered)
  · exact Operation.decode_congr (fun account =>
      part_congr shares answers.distinct (reordered.filter _))
  · obtain ⟨-, rfl⟩ := Batch.build_eq_ok_iff.1 built
    obtain ⟨account, asked, own⟩ := exists_owns shares answers rfl entry member
    exact ⟨account, List.mem_eraseDups.1 asked, own⟩

/-- The tag for one account is the name of another. -/
theorem accounts_apart_of_colon :
    ∃ (request : Request) (response : Response) (results : Dict (List Mailbox)),
      (mailboxes.operation default ["a", "a:0", "a", "*"]).request default = .ok request ∧
      response.entries.map Entry.tag = [":0", "a:0:0", "a:0"] ∧
      response.correlate request = .ok () ∧
      (mailboxes.operation default ["a", "a:0", "a", "*"]).decode response = .ok results ∧
      results.keys.Nodup ∧ ∀ account, account ∈ results.keys ↔ account ∈ ["a", "a:0", "a", ""] := by
  let answer (tag : String) : Entry := ⟨"Mailbox/get", tag, .result ⟨.mailboxGet, default⟩⟩
  let response : Response :=
    { entries := [answer ":0", answer "a:0:0", answer "a:0"]
      sessionState := default
      createdIds := none }
  have built : (mailboxes.operation default ["a", "a:0", "a", "*"]).request default = .ok _ := rfl
  have decoded : (mailboxes.operation default ["a", "a:0", "a", "*"]).decode response = .ok _ := rfl
  have apart := (@accounts_apart _ _ _ _ response mailboxes built rfl).1 _ decoded
  exact ⟨_, response, _, built, rfl, rfl, decoded, apart.1, apart.2.1⟩

end Survey

end Jmap
