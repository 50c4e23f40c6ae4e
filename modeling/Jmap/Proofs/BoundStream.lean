import Jmap.Context.Stream
import Jmap.Proofs.Context

/-!
Bodies bound to contexts. Until the context stops, a bound body is polled as the body itself
would be; from then on the polls find one error and the end. Behind the end no poll is answered.
-/

namespace Jmap

namespace Poll

/-- What polls find from the end of a body on; `none` stands for a poll without an answer. -/
def closing : (count : Nat) → List (Option Poll)
  | 0 => []
  | count + 1 => some .ended :: List.replicate count none

def item? : Option Poll → Option BodyItem
  | some (.item value) => some value
  | _ => none

def items (found : List (Option Poll)) : List BodyItem := found.filterMap item?

variable {found : List (Option Poll)} {value : BodyItem}

@[simp] theorem items_item : items (some (.item value) :: found) = value :: items found := rfl

@[simp] theorem items_closing (count : Nat) : items (closing count) = [] := by
  cases count with
  | zero => rfl
  | succ count => exact List.filterMap_replicate_of_none rfl

theorem item_not_mem_closing {count : Nat} : some (.item value) ∉ closing count := by
  cases count <;> simp [closing]

end Poll

namespace Body

def polls (body : Body) : (position : Nat) → List Moment → List (Option Poll)
  | _, [] => []
  | position, now :: later =>
    match body.look position now with
    | .pending => some .pending :: polls body position later
    | .item value => some (.item value) :: polls body (position + 1) later
    | .ended => Poll.closing (later.length + 1)

def Brings (body : Body) (position : Nat) (values : List BodyItem) : Prop :=
  ∀ index value, values[index]? = some value →
    ∃ moment, body (position + index) = .item moment value

variable {body : Body} {position : Nat} {now : Moment} {value : BodyItem}

theorem brings_nil : body.Brings position [] := nofun

theorem Brings.cons {values : List BodyItem} {moment : Moment}
    (first : body position = .item moment value) (others : body.Brings (position + 1) values) :
    body.Brings position (value :: values) := by
  intro index other present
  cases index with
  | zero =>
    cases present
    exact ⟨moment, first⟩
  | succ index =>
    obtain ⟨moment, brought⟩ := others index other present
    exact ⟨moment, by rw [← brought, Nat.add_assoc, Nat.add_comm 1]⟩

theorem item_of_look (found : body.look position now = .item value) :
    ∃ moment, body position = .item moment value ∧ moment ≤ now := by
  unfold look at found
  split at found
  · rename_i moment other present
    split at found
    · rename_i come
      cases found
      exact ⟨moment, present, come⟩
    · cases found
  · split at found <;> cases found
  · cases found

theorem ended_of_look (found : body.look position now = .ended) :
    ∃ moment, body position = .ended moment ∧ moment ≤ now := by
  unfold look at found
  split at found
  · split at found <;> cases found
  · rename_i moment present
    split at found
    · rename_i come
      exact ⟨moment, present, come⟩
    · cases found
  · cases found

theorem brings_polls (body : Body) (position : Nat) (schedule : List Moment) :
    body.Brings position (Poll.items (body.polls position schedule)) := by
  induction schedule generalizing position with
  | nil => exact brings_nil
  | cons now later ih =>
    unfold polls
    split
    · exact ih position
    · rename_i value found
      obtain ⟨moment, present, -⟩ := item_of_look found
      exact (ih (position + 1)).cons present
    · rw [Poll.items_closing]
      exact brings_nil

/-- The end of a body is found behind all its items; polls before it are answered, those
behind it are not. -/
theorem ended_of_polls {schedule : List Moment}
    (found : some .ended ∈ body.polls position schedule) :
    ∃ before count moment, body.polls position schedule = before ++ Poll.closing (count + 1) ∧
      none ∉ before ∧ some .ended ∉ before ∧
      body (position + (Poll.items before).length) = .ended moment := by
  induction schedule generalizing position with
  | nil => cases found
  | cons now later ih =>
    unfold polls at found ⊢
    split at found
    · rename_i waits
      obtain ⟨before, count, moment, split, answered, new, finished⟩ := ih (by simpa using found)
      exact ⟨some .pending :: before, count, moment, congrArg (some .pending :: ·) split,
        by simp [answered], by simp [new], finished⟩
    · rename_i value present
      obtain ⟨before, count, moment, split, answered, new, finished⟩ := ih (by simpa using found)
      refine ⟨some (.item value) :: before, count, moment,
        congrArg (some (.item value) :: ·) split, by simp [answered], by simp [new], ?_⟩
      rw [← finished, Poll.items_item, List.length_cons, Nat.add_assoc, Nat.add_comm 1]
    · rename_i present
      obtain ⟨moment, finished, -⟩ := ended_of_look present
      exact ⟨[], later.length, moment, rfl, nofun, nofun, finished⟩

theorem answered_of_polls {schedule : List Moment}
    (unseen : some .ended ∉ body.polls position schedule) :
    none ∉ body.polls position schedule := by
  induction schedule generalizing position with
  | nil => nofun
  | cons now later ih =>
    unfold polls at unseen ⊢
    split at unseen
    · simpa using ih (by simpa using unseen)
    · simpa using ih (by simpa using unseen)
    · exact absurd List.mem_cons_self unseen

theorem polls_behind {schedule : List Moment} {before after : List (Option Poll)}
    (split : body.polls position schedule = before ++ some (.item value) :: after) :
    after = body.polls (position + (Poll.items before).length + 1)
      (schedule.drop (before.length + 1)) := by
  induction before generalizing position schedule with
  | nil =>
    cases schedule with
    | nil => cases split
    | cons now later =>
      unfold polls at split
      split at split
      · cases split
      · cases split
        rfl
      · cases split
  | cons answer before ih =>
    cases schedule with
    | nil => cases split
    | cons now later =>
      unfold polls at split
      split at split
      · obtain ⟨rfl, others⟩ := List.cons.inj split
        exact ih others
      · obtain ⟨rfl, others⟩ := List.cons.inj split
        rw [ih others, Poll.items_item, List.length_cons, Nat.add_assoc position 1,
          Nat.add_comm 1]
        rfl
      · have member : some (.item value) ∈ Poll.closing (later.length + 1) := by simp [split]
        exact absurd member Poll.item_not_mem_closing

end Body

namespace BoundStream

/-- What a poll may find, and what it leaves. Of two stops that have both come either may be
noticed. -/
inductive Polled (stream : BoundStream) (now : Moment) : Poll → BoundStream → Prop
  | poll {poll : Poll} {next : BoundStream} (answered : stream.poll? now = some (poll, next)) :
      Polled stream now poll next
  | race {stop : Stop} (going : stream.stage = .going)
      (stopped : stream.context.Stopped now stop) :
      Polled stream now (.item (.error stop.error)) { stream with stage := .stopped }

/-- Polls one after the other. One that has no answer leaves the stream as it is. -/
inductive Polls : BoundStream → List Moment → List (Option Poll) → BoundStream → Prop
  | nil (stream : BoundStream) : Polls stream [] [] stream
  | cons {stream next last : BoundStream} {now : Moment} {later : List Moment} {poll : Poll}
      {found : List (Option Poll)} (first : Polled stream now poll next)
      (others : Polls next later found last) :
      Polls stream (now :: later) (some poll :: found) last
  | lost {stream last : BoundStream} {now : Moment} {later : List Moment}
      {found : List (Option Poll)} (unanswered : stream.poll? now = none)
      (others : Polls stream later found last) : Polls stream (now :: later) (none :: found) last

variable {stream next last : BoundStream} {now : Moment} {schedule later : List Moment}
  {poll : Poll} {found : List (Option Poll)}

theorem le_of_readyAt? {moment : Moment} (ready : stream.readyAt? now = some moment) :
    now ≤ moment := by
  unfold readyAt? at ready
  cases stage : stream.stage with
  | going =>
    rw [stage] at ready
    obtain ⟨other, -, rfl⟩ := Option.map_eq_some_iff.1 ready
    exact Nat.le_max_left now other
  | stopped =>
    rw [stage] at ready
    exact Nat.le_of_eq (Option.some.inj ready)
  | closed =>
    rw [stage] at ready
    cases ready

theorem poll?_of_live (going : stream.stage = .going)
    (live : stream.context.stop? now = none) :
    stream.poll? now = some (stream.body.look stream.position now,
      stream.behind (stream.body.look stream.position now)) := by
  simp only [poll?, going, live]

theorem poll?_of_stop {stop : Stop} (going : stream.stage = .going)
    (stopped : stream.context.stop? now = some stop) :
    stream.poll? now = some (.item (.error stop.error), { stream with stage := .stopped }) := by
  simp only [poll?, going, stopped]

theorem poll?_of_stopped (stopped : stream.stage = .stopped) :
    stream.poll? now = some (.ended, { stream with stage := .closed }) := by
  simp only [poll?, stopped, behind]

theorem poll?_eq_none_iff : stream.poll? now = none ↔ stream.stage = .closed := by
  cases stage : stream.stage with
  | going =>
    cases stopped : stream.context.stop? now with
    | none => simp [poll?_of_live stage stopped]
    | some stop => simp [poll?_of_stop stage stopped]
  | stopped => simp [poll?_of_stopped stage]
  | closed => simp [poll?, stage]

theorem Polled.not_closed (polled : stream.Polled now poll next) : stream.stage ≠ .closed := by
  cases polled with
  | poll answered =>
    intro closed
    cases answered.symm.trans (poll?_eq_none_iff.2 closed)
  | race going => rw [going]; nofun

theorem Polled.of_stopped (polled : stream.Polled now poll next)
    (stopped : stream.stage = .stopped) :
    poll = .ended ∧ next = { stream with stage := .closed } := by
  cases polled with
  | poll answered =>
    cases (poll?_of_stopped stopped).symm.trans answered
    exact ⟨rfl, rfl⟩
  | race going => cases stopped.symm.trans going

theorem Polled.live (polled : stream.Polled now poll next) (going : stream.stage = .going)
    (live : stream.context.stop? now = none) :
    poll = stream.body.look stream.position now ∧ next = stream.behind poll := by
  cases polled with
  | poll answered =>
    cases (poll?_of_live going live).symm.trans answered
    exact ⟨rfl, rfl⟩
  | race _ stopped => exact absurd stopped (RequestContext.stop?_eq_none_iff.1 live _)

theorem Polled.halts (polled : stream.Polled now poll next) (going : stream.stage = .going)
    (stopped : stream.context.stop? now ≠ none) :
    ∃ stop, stream.context.Stopped now stop ∧ poll = .item (.error stop.error) ∧
      next = { stream with stage := .stopped } := by
  cases polled with
  | poll answered =>
    obtain ⟨stop, first⟩ := Option.ne_none_iff_exists'.1 stopped
    cases (poll?_of_stop going first).symm.trans answered
    exact ⟨stop, RequestContext.stopped_of_stop? first, rfl, rfl⟩
  | @race stop _ noticed => exact ⟨stop, noticed, rfl, rfl⟩

theorem Polls.of_closed (run : Polls stream schedule found last) (closed : stream.stage = .closed) :
    found = List.replicate schedule.length none ∧ last = stream := by
  induction run with
  | nil => exact ⟨rfl, rfl⟩
  | cons first => exact absurd closed first.not_closed
  | lost _ _ ih =>
    obtain ⟨same, kept⟩ := ih closed
    exact ⟨congrArg (none :: ·) same, kept⟩

theorem Polls.of_stopped (run : Polls stream schedule found last)
    (stopped : stream.stage = .stopped) : found = Poll.closing schedule.length := by
  cases run with
  | nil => rfl
  | cons first others =>
    obtain ⟨rfl, rfl⟩ := first.of_stopped stopped
    exact congrArg (some .ended :: ·) (others.of_closed rfl).1
  | lost unanswered => cases stopped.symm.trans (poll?_eq_none_iff.1 unanswered)

/-- What is found of a stream that has not ended once its context has stopped: one error, then
the end. -/
inductive Halts (context : RequestContext) : List Moment → List (Option Poll) → Prop
  | unseen : Halts context [] []
  | seen {now : Moment} {later : List Moment} {stop : Stop} (stopped : context.Stopped now stop) :
      Halts context (now :: later)
        (some (.item (.error stop.error)) :: Poll.closing later.length)

theorem Polls.of_late (run : Polls stream schedule found last) (going : stream.stage = .going)
    (late : ∀ now ∈ schedule, stream.context.stop? now ≠ none) :
    Halts stream.context schedule found := by
  cases run with
  | nil => exact .unseen
  | cons first others =>
    obtain ⟨stop, noticed, rfl, rfl⟩ := first.halts going (List.forall_mem_cons.1 late).1
    rw [others.of_stopped rfl]
    exact .seen noticed
  | lost unanswered => cases going.symm.trans (poll?_eq_none_iff.1 unanswered)

theorem Polls.split {early : List Moment} (run : Polls stream (early ++ later) found last) :
    ∃ before after middle, found = before ++ after ∧ Polls stream early before middle ∧
      Polls middle later after last := by
  induction early generalizing stream found with
  | nil => exact ⟨[], found, stream, rfl, .nil stream, run⟩
  | cons now early ih =>
    cases run with
    | cons first others =>
      obtain ⟨before, after, middle, rfl, front, back⟩ := ih others
      exact ⟨_ :: before, after, middle, rfl, .cons first front, back⟩
    | lost unanswered others =>
      obtain ⟨before, after, middle, rfl, front, back⟩ := ih others
      exact ⟨none :: before, after, middle, rfl, .lost unanswered front, back⟩

theorem Polls.of_live (run : Polls stream schedule found last) (going : stream.stage = .going)
    (live : ∀ now ∈ schedule, stream.context.stop? now = none) :
    found = stream.body.polls stream.position schedule ∧ last.context = stream.context ∧
      (some .ended ∈ found → last.stage = .closed) ∧
      (some .ended ∉ found → last.stage = .going) := by
  induction run with
  | nil => exact ⟨rfl, rfl, nofun, fun _ => going⟩
  | @cons stream next last now later poll found first others ih =>
    obtain ⟨alive, lives⟩ := List.forall_mem_cons.1 live
    obtain ⟨looked, rfl⟩ := first.live going alive
    rw [Body.polls, ← looked]
    cases poll with
    | pending =>
      obtain ⟨same, kept, stages⟩ := ih going lives
      exact ⟨congrArg (some .pending :: ·) same, kept, by simpa using stages⟩
    | item value =>
      obtain ⟨same, kept, stages⟩ := ih going lives
      exact ⟨congrArg (some (.item value) :: ·) same, kept, by simpa using stages⟩
    | ended =>
      obtain ⟨same, rfl⟩ := others.of_closed rfl
      exact ⟨congrArg (some .ended :: ·) same, rfl, fun _ => rfl, by simp⟩
  | lost unanswered => cases going.symm.trans (poll?_eq_none_iff.1 unanswered)

theorem exists_polls (stream : BoundStream) (schedule : List Moment) :
    ∃ found last, Polls stream schedule found last := by
  induction schedule generalizing stream with
  | nil => exact ⟨[], stream, .nil stream⟩
  | cons now later ih =>
    cases answer : stream.poll? now with
    | none =>
      obtain ⟨found, last, others⟩ := ih stream
      exact ⟨none :: found, last, .lost answer others⟩
    | some answered =>
      obtain ⟨found, last, others⟩ := ih answered.2
      exact ⟨some answered.1 :: found, last, .cons (.poll answer) others⟩

/-- To wait for items is to poll whenever there is something to be found; every such poll is
answered. -/
theorem exists_polls_take (count : Nat) (stream : BoundStream) (now : Moment) :
    ∃ schedule rest, (now :: schedule).Pairwise (· ≤ ·) ∧ Poll.items rest = [] ∧ none ∉ rest ∧
      Polls stream schedule ((stream.take count now).1.map (some <| .item ·) ++ rest)
        (stream.take count now).2.1 := by
  induction count generalizing stream now with
  | zero => exact ⟨[], [], List.pairwise_singleton _ _, rfl, nofun, .nil stream⟩
  | succ count ih =>
    unfold take
    cases ready : stream.readyAt? now with
    | none => exact ⟨[], [], List.pairwise_singleton _ _, rfl, nofun, .nil stream⟩
    | some moment =>
      have order := le_of_readyAt? ready
      dsimp only
      split
      · rename_i value next answered
        obtain ⟨schedule, rest, ordered, empty, told, others⟩ := ih next moment
        refine ⟨moment :: schedule, rest, List.pairwise_cons.2 ⟨?_, ordered⟩, empty, told,
          .cons (.poll answered) others⟩
        intro later member
        rcases List.mem_cons.1 member with rfl | member
        · exact order
        · exact Nat.le_trans order ((List.pairwise_cons.1 ordered).1 later member)
      · rename_i poll next other answered
        refine ⟨[moment], [some poll], by simpa using order, ?_, by simp,
          .cons (.poll answered) (.nil next)⟩
        cases poll with
        | item value => exact absurd rfl (other value)
        | _ => rfl
      · rename_i unanswered
        have closed := poll?_eq_none_iff.1 unanswered
        simp [readyAt?, closed] at ready

/-- What comes out of a body bound to a context by polls at the moments before a stop and at
those from the stop on. -/
structure Course (context : RequestContext) (body : Body) (live late : List Moment)
    (during ends : List (Option Poll)) : Prop where
  unchanged : during = body.polls 0 live
  items : body.Brings 0 (Poll.items during)
  /-- Errors of the body are items like all others. -/
  onward : ∀ before value after, during = before ++ some (.item value) :: after →
    after = body.polls ((Poll.items before).length + 1) (live.drop (before.length + 1))
  complete : some .ended ∈ during → ends = List.replicate late.length none ∧
    ∃ before count moment, during = before ++ Poll.closing (count + 1) ∧ none ∉ before ∧
      some .ended ∉ before ∧ body (Poll.items before).length = .ended moment
  stopped : some .ended ∉ during → none ∉ during ∧ Halts context late ends

/-- Polls of a body bound to a context, at any moments in order. -/
theorem bound_stream_course (context : RequestContext) (body : Body)
    (ordered : schedule.Pairwise (· ≤ ·)) :
    (∃ found last, Polls { context, body } schedule found last) ∧
    ∀ found last, Polls { context, body } schedule found last →
      ∃ live late during ends, schedule = live ++ late ∧ found = during ++ ends ∧
        (∀ now ∈ live, context.stop? now = none) ∧ (∀ now ∈ late, context.stop? now ≠ none) ∧
        Course context body live late during ends := by
  refine ⟨exists_polls _ schedule, fun found last run => ?_⟩
  -- The run falls into two where the context stops; the stream in the middle may have ended.
  obtain ⟨live, late, rfl, alive, stopped⟩ := context.exists_split ordered
  obtain ⟨during, ends, middle, rfl, front, back⟩ := run.split
  obtain ⟨same, kept, closed, going⟩ := front.of_live rfl alive
  have unchanged : during = body.polls 0 live := same
  refine ⟨live, late, during, ends, rfl, rfl, alive, stopped, unchanged, ?_, ?_, ?_, ?_⟩
  · rw [unchanged]
    exact Body.brings_polls body 0 live
  · intro before value after split
    have onward := Body.polls_behind (unchanged ▸ split)
    rwa [Nat.zero_add] at onward
  · intro finds
    obtain ⟨before, count, moment, split, answered, new, whole⟩ :=
      Body.ended_of_polls (unchanged ▸ finds)
    rw [Nat.zero_add] at whole
    exact ⟨(back.of_closed (closed finds)).1, before, count, moment, unchanged ▸ split, answered,
      new, whole⟩
  · intro unseen
    have same : middle.context = context := kept
    refine ⟨unchanged ▸ Body.answered_of_polls (unchanged ▸ unseen), ?_⟩
    rw [← same]
    apply back.of_late (going unseen)
    rwa [same]

/-- Both stops have come by the poll that notices one. -/
theorem bound_stream_course_of_race :
    ∃ (context : RequestContext) (body : Body) (schedule : List Moment)
      (found : List (Option Poll)) (last : BoundStream),
      context.Stopped 6 .cancelled ∧ schedule.Pairwise (· ≤ ·) ∧
      (∀ index, ∃ moment value, body index = .item moment value) ∧
      found = [some (.item (.ok [97])), some .pending, some (.item (.error .cancelled)),
        some (.item (.ok [98])), some (.item (.error .timeout)), some .ended, none] ∧
      Polls { context, body } schedule found last ∧
      ∃ live late during ends, schedule = live ++ late ∧ found = during ++ ends ∧
        (∀ now ∈ live, context.stop? now = none) ∧ (∀ now ∈ late, context.stop? now ≠ none) ∧
        Course context body live late during ends := by
  let context : RequestContext := { cancelledAt := some 5, deadline := some 6 }
  let body : Body := fun index =>
    match index with
    | 0 => .item 0 (.ok [97])
    | 1 => .item 2 (.error .cancelled)
    | index + 2 => .item (index + 3) (.ok [98])
  have ordered : [0, 1, 2, 4, 6, 7, 8].Pairwise (· ≤ ·) := by decide
  have run : Polls { context, body } [0, 1, 2, 4, 6, 7, 8] _ _ :=
    .cons (.poll rfl) (.cons (.poll rfl) (.cons (.poll rfl) (.cons (.poll rfl)
      (.cons (.race rfl (.expired rfl)) (.cons (.poll rfl) (.lost rfl (.nil _)))))))
  refine ⟨context, body, _, _, _, .cancelled rfl, ordered, ?_, rfl, run,
    (bound_stream_course context body ordered).2 _ _ run⟩
  intro index
  match index with
  | 0 | 1 | index + 2 => exact ⟨_, _, rfl⟩

/-- The end of a body is there long before the stop, but nobody has looked for it: the first
poll from the stop on finds the error. -/
theorem error_behind_whole_body :
    let context : RequestContext := { cancelledAt := some 5 }
    let body := Body.ofItems 0 [(some 0, .ok [97]), (some 0, .ok [98])]
    body 2 = .ended 0 ∧ context.stop? 4 = none ∧
      (∃ found last, Polls { context, body } [0, 0, 6, 7, 8] found last) ∧
      ∀ found last, Polls { context, body } [0, 0, 6, 7, 8] found last →
        found = [some (.item (.ok [97])), some (.item (.ok [98])),
          some (.item (.error .cancelled)), some .ended, none] := by
  intro context body
  refine ⟨rfl, rfl, exists_polls _ _, fun found last run => ?_⟩
  obtain ⟨during, ends, middle, rfl, front, back⟩ :=
    (show Polls _ ([0, 0] ++ [6, 7, 8]) _ _ from run).split
  obtain ⟨items, kept, -, going⟩ := front.of_live rfl (by decide)
  have items : during = [some (.item (.ok [97])), some (.item (.ok [98]))] := items
  have kept : middle.context = context := kept
  subst items
  have halts := back.of_late (going (by simp)) (by rw [kept]; decide)
  rw [kept] at halts
  cases halts with
  | seen stopped =>
    cases stopped with
    | cancelled => rfl
    | expired reached => cases reached

end BoundStream

end Jmap
