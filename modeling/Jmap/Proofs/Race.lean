import Jmap.Proofs.Context

/-!
Work under a context. Whoever waits for the work waits for three parties at once, and asks them in
an order that nobody has fixed. The first to come decides the result; of those who come together
any may.
-/

namespace Jmap

namespace Moment

variable {moment left right : Option Moment} {now : Moment}

theorem reached_eq_true_iff : reached moment now = true ↔ ∃ due, moment = some due ∧ due ≤ now := by
  cases moment <;> simp [reached]

theorem earliest_eq_none_iff : earliest left right = none ↔ left = none ∧ right = none := by
  cases left <;> cases right <;> simp [earliest]

theorem eq_or_eq_of_earliest (first : earliest left right = some now) :
    left = some now ∨ right = some now := by
  cases left with
  | none =>
    cases right with
    | none => cases first
    | some right => exact .inr first
  | some left =>
    cases right with
    | none => exact .inl first
    | some right =>
      cases first
      exact (Nat.le_total left right).imp (fun order => congrArg some (Nat.min_eq_left order).symm)
        (fun order => congrArg some (Nat.min_eq_right order).symm)

theorem le_earliest_iff :
    (∀ due, earliest left right = some due → now ≤ due) ↔
      (∀ due, left = some due → now ≤ due) ∧ ∀ due, right = some due → now ≤ due := by
  cases left with
  | none => cases right <;> simp [earliest]
  | some left =>
    cases right with
    | none => simp [earliest]
    | some right =>
      simp only [earliest, Option.some.injEq, forall_eq']
      exact Nat.le_min

end Moment

inductive Party where
  | cancellation
  | deadline
  | work
deriving DecidableEq

namespace Party

def round : Party → List Party
  | .cancellation => [.cancellation, .deadline, .work]
  | .deadline => [.deadline, .work, .cancellation]
  | .work => [.work, .cancellation, .deadline]

theorem mem_round (party start : Party) : party ∈ start.round := by
  cases party <;> cases start <;> decide

def outcome {α : Type} (work : Work α) : Party → Except HttpError α
  | .cancellation => .error HttpError.cancelled
  | .deadline => .error HttpError.timeout
  | .work => work.result

end Party

def Stop.party : Stop → Party
  | .cancelled => .cancellation
  | .expired => .deadline

structure Look where
  moment : Moment
  asked : List Party

/-- The moments at which the parties come, if they do. -/
abbrev Race := Party → Option Moment

namespace Race

variable {race : Race} {now moment : Moment} {order asked : List Party} {looks : List Look}
  {party winner start : Party}

def ask (race : Race) (now : Moment) : List Party → List Party × Option Party
  | [] => ([], none)
  | party :: others =>
    if Moment.reached (race party) now then ([party], some party)
    else (party :: (race.ask now others).1, (race.ask now others).2)

def Quiet (race : Race) (now : Moment) : Prop :=
  ∀ party due, race party = some due → now ≤ due

structure First (race : Race) (winner : Party) (moment : Moment) : Prop where
  due : race winner = some moment
  quiet : race.Quiet moment

structure Alone (race : Race) (winner : Party) (moment : Moment) : Prop where
  due : race winner = some moment
  others : ∀ party due, party ≠ winner → race party = some due → moment < due

/-- The ways in which a race may go from now on. Who finds nobody looks again when the first party
comes; nothing keeps him from looking earlier. -/
inductive Ends (race : Race) : Moment → List Look → Moment → Party → Prop
  | found {now : Moment} {asked : List Party} {winner : Party} (start : Party)
      (there : race.ask now start.round = (asked, some winner)) :
      Ends race now [⟨now, asked⟩] now winner
  | waits {now next moment : Moment} {asked : List Party} {looks : List Look} {winner : Party}
      (start : Party) (nobody : race.ask now start.round = (asked, none)) (order : now ≤ next)
      (woken : race.Quiet next) (later : Ends race next looks moment winner) :
      Ends race now (⟨now, asked⟩ :: looks) moment winner

theorem found_of_ask (there : race.ask now order = (asked, some winner)) :
    winner ∈ asked ∧ Moment.reached (race winner) now = true := by
  induction order generalizing asked with
  | nil => cases there
  | cons party others ih =>
    unfold ask at there
    split at there
    · rename_i come
      cases there
      exact ⟨List.mem_singleton_self _, come⟩
    · obtain ⟨same, found⟩ := Prod.mk.inj there
      obtain ⟨member, come⟩ := ih (Prod.ext rfl found)
      subst same
      exact ⟨List.mem_cons_of_mem party member, come⟩

theorem ask_eq_none_iff :
    race.ask now order = (asked, none) ↔
      asked = order ∧ ∀ party ∈ order, Moment.reached (race party) now = false := by
  induction order generalizing asked with
  | nil =>
    constructor
    · intro nobody
      cases nobody
      exact ⟨rfl, nofun⟩
    · rintro ⟨rfl, -⟩
      rfl
  | cons party others ih =>
    rw [ask, List.forall_mem_cons]
    cases come : Moment.reached (race party) now with
    | true => simp
    | false =>
      simp only [Bool.false_eq_true, if_false, Prod.mk.injEq, true_and]
      constructor
      · rintro ⟨rfl, nobody⟩
        obtain ⟨all, absent⟩ := ih.1 (Prod.ext rfl nobody)
        exact ⟨congrArg (party :: ·) all, absent⟩
      · rintro ⟨rfl, absent⟩
        rw [ih.2 ⟨rfl, absent⟩]
        exact ⟨rfl, rfl⟩

theorem ask_round_of_reached (come : Moment.reached (race party) now = true) :
    race.ask now party.round = ([party], some party) := by
  cases party <;> exact if_pos come

theorem Quiet.first (quiet : race.Quiet now) (come : Moment.reached (race party) now = true) :
    race.First party now := by
  obtain ⟨due, same, order⟩ := Moment.reached_eq_true_iff.1 come
  refine ⟨?_, quiet⟩
  rw [same, Nat.le_antisymm order (quiet party due same)]

theorem Ends.first (ends : race.Ends now looks moment winner) (quiet : race.Quiet now) :
    race.First winner moment := by
  -- Nobody comes before the moment of a look: who waits is woken in time.
  induction ends with
  | found start there => exact quiet.first (found_of_ask there).2
  | waits start nobody order woken later ih => exact ih woken

theorem First.reached (first : race.First winner moment) :
    Moment.reached (race winner) moment = true :=
  Moment.reached_eq_true_iff.2 ⟨moment, first.due, Nat.le_refl moment⟩

theorem First.exists_ends (first : race.First winner moment) (quiet : race.Quiet now) :
    ∃ looks, race.Ends now looks moment winner := by
  have last := Ends.found winner (ask_round_of_reached first.reached)
  rcases Nat.eq_or_lt_of_le (quiet winner moment first.due) with rfl | before
  · exact ⟨_, last⟩
  · -- One look in vain, and a second one when the winner comes.
    have nobody : race.ask now winner.round = (winner.round, none) := by
      refine ask_eq_none_iff.2 ⟨rfl, fun party _ => Bool.eq_false_iff.2 (fun early => ?_)⟩
      obtain ⟨due, same, order⟩ := Moment.reached_eq_true_iff.1 early
      exact absurd (first.quiet party due same) (Nat.not_le.2 (Nat.lt_of_le_of_lt order before))
    exact ⟨_, .waits winner nobody (Nat.le_of_lt before) first.quiet last⟩

theorem exists_ends_iff (quiet : race.Quiet now) :
    (∃ looks, race.Ends now looks moment winner) ↔ race.First winner moment := by
  constructor
  · rintro ⟨looks, ends⟩
    exact ends.first quiet
  · intro first
    exact first.exists_ends quiet

theorem Ends.asks (ends : race.Ends now looks moment winner)
    (others : ∀ other, other ≠ party → Moment.reached (race other) now = false) :
    ∃ look ∈ looks, look.moment = now ∧ party ∈ look.asked := by
  cases ends with
  | found start there =>
    obtain ⟨member, come⟩ := found_of_ask there
    have same : winner = party := Decidable.byContradiction (fun other => by
      rw [others winner other] at come
      cases come)
    exact ⟨_, List.mem_singleton_self _, rfl, same ▸ member⟩
  | waits start nobody order woken later =>
    obtain ⟨rfl, -⟩ := ask_eq_none_iff.1 nobody
    exact ⟨_, List.mem_cons_self, rfl, Party.mem_round party start⟩

theorem Alone.first (alone : race.Alone winner moment) : race.First winner moment := by
  refine ⟨alone.due, fun party due same => ?_⟩
  by_cases other : party = winner
  · rw [other, alone.due] at same
    exact Nat.le_of_eq (Option.some.inj same)
  · exact Nat.le_of_lt (alone.others party due other same)

theorem Alone.eq_of_first (alone : race.Alone winner moment) {later : Moment}
    (first : race.First party later) : party = winner ∧ later = moment := by
  have order := first.quiet winner moment alone.due
  by_cases other : party = winner
  · have same := first.due
    rw [other, alone.due] at same
    exact ⟨other, (Option.some.inj same).symm⟩
  · exact absurd order (Nat.not_le.2 (alone.others party later other first.due))

def earliest (race : Race) : Option Moment :=
  Moment.earliest (Moment.earliest (race .cancellation) (race .deadline)) (race .work)

theorem earliest_eq_none_iff : race.earliest = none ↔ ∀ party, race party = none := by
  rw [earliest, Moment.earliest_eq_none_iff, Moment.earliest_eq_none_iff]
  constructor
  · rintro ⟨⟨cancellation, deadline⟩, work⟩ party
    cases party <;> assumption
  · intro never
    exact ⟨⟨never .cancellation, never .deadline⟩, never .work⟩

theorem quiet_iff : race.Quiet now ↔ ∀ due, race.earliest = some due → now ≤ due := by
  simp only [earliest, Moment.le_earliest_iff]
  constructor
  · intro quiet
    exact ⟨⟨quiet .cancellation, quiet .deadline⟩, quiet .work⟩
  · rintro ⟨⟨cancellation, deadline⟩, work⟩ party
    cases party <;> assumption

theorem exists_first_of_earliest (came : race.earliest = some moment) :
    ∃ winner, race.First winner moment := by
  have quiet : race.Quiet moment := quiet_iff.2 (fun due same => by
    rw [came] at same
    exact Nat.le_of_eq (Option.some.inj same))
  rcases Moment.eq_or_eq_of_earliest came with stop | work
  · rcases Moment.eq_or_eq_of_earliest stop with cancellation | deadline
    · exact ⟨.cancellation, cancellation, quiet⟩
    · exact ⟨.deadline, deadline, quiet⟩
  · exact ⟨.work, work, quiet⟩

theorem exists_first_iff :
    (∃ winner moment, race.First winner moment) ↔ ∃ party, race party ≠ none := by
  constructor
  · rintro ⟨winner, moment, first⟩
    exact ⟨winner, Option.ne_none_iff_exists'.2 ⟨moment, first.due⟩⟩
  · rintro ⟨party, come⟩
    obtain ⟨moment, first⟩ :=
      Option.ne_none_iff_exists'.1 (fun never => come (earliest_eq_none_iff.1 never party))
    obtain ⟨winner, first⟩ := exists_first_of_earliest first
    exact ⟨winner, moment, first⟩

end Race

namespace RequestContext

variable {α : Type} {context : RequestContext} {now moment : Moment} {work : Work α}
  {looks : List Look} {result : Except HttpError α} {party : Party}

def race (context : RequestContext) (now : Moment) (work : Work α) : Race
  | .cancellation => context.cancelledAt
  | .deadline => context.deadline
  | .work => work.wait.map (now + ·)

/-- What may come of work under a context. Nobody asks for work once the context has stopped. -/
inductive Runs (context : RequestContext) (now : Moment) (work : Work α) :
    List Look → Moment → Except HttpError α → Prop
  | refused {error : HttpError} (stopped : context.check now = .error error) :
      Runs context now work [] now (.error error)
  | raced {looks : List Look} {moment : Moment} {winner : Party}
      (live : context.check now = .ok ())
      (ends : (context.race now work).Ends now looks moment winner) :
      Runs context now work looks moment (winner.outcome work)

theorem runs_iff_of_stop {stop : Stop} (stopped : context.stop? now = some stop) :
    context.Runs now work looks moment result ↔
      looks = [] ∧ moment = now ∧ result = .error stop.error := by
  have refusal : context.check now = .error stop.error := by rw [check, stopped]
  constructor
  · intro runs
    cases runs with
    | refused same =>
      rw [refusal] at same
      cases same
      exact ⟨rfl, rfl, rfl⟩
    | raced live ends =>
      rw [refusal] at live
      cases live
  · rintro ⟨rfl, rfl, rfl⟩
    exact .refused refusal

theorem runs_iff_of_live (live : context.stop? now = none) :
    context.Runs now work looks moment result ↔
      ∃ winner, (context.race now work).Ends now looks moment winner ∧
        result = winner.outcome work := by
  have begun : context.check now = .ok () := by rw [check, live]
  constructor
  · intro runs
    cases runs with
    | refused same =>
      rw [begun] at same
      cases same
    | raced live ends => exact ⟨_, ends, rfl⟩
  · rintro ⟨winner, ends, rfl⟩
    exact .raced begun ends

theorem reached_of_stop? {stop : Stop} (stopped : context.stop? moment = some stop) :
    Moment.reached (context.race now work stop.party) moment = true := by
  cases stopped_of_stop? stopped with
  | cancelled reached => exact reached
  | expired reached => exact reached

theorem stop?_ne_none_of_reached (other : party ≠ .work)
    (come : Moment.reached (context.race now work party) moment = true) :
    context.stop? moment ≠ none := by
  intro live
  cases party with
  | cancellation => exact stop?_eq_none_iff.1 live _ (.cancelled come)
  | deadline => exact stop?_eq_none_iff.1 live _ (.expired come)
  | work => exact other rfl

theorem quiet_race (live : context.stop? now = none) : (context.race now work).Quiet now := by
  intro party due same
  by_cases other : party = .work
  · subst other
    obtain ⟨wait, -, rfl⟩ := Option.map_eq_some_iff.1 same
    exact Nat.le_add_right now wait
  · apply Nat.le_of_not_le
    intro come
    exact stop?_ne_none_of_reached other (Moment.reached_eq_true_iff.2 ⟨due, same, come⟩) live

theorem run_of_stop {stop : Stop} (stopped : context.stop? now = some stop) :
    context.run now work = some (now, .error stop.error) := by
  unfold run
  rw [stopped]

theorem run_of_live (live : context.stop? now = none) :
    context.run now work = (context.race now work).earliest.map (fun moment =>
      (moment, ((context.stop? moment).elim Party.work Stop.party).outcome work)) := by
  have first : Moment.earliest context.stopsAt? (work.wait.map (now + ·)) =
      (context.race now work).earliest := rfl
  unfold run
  rw [live, first]
  cases (context.race now work).earliest with
  | none => rfl
  | some moment =>
    cases stopped : context.stop? moment with
    | none => simp [stopped, Party.outcome]
    | some stop => cases stop <;> simp [stopped, Party.outcome, Stop.party, Stop.error]

theorem first_at_earliest (first : (context.race now work).earliest = some moment) :
    (context.race now work).First ((context.stop? moment).elim Party.work Stop.party) moment := by
  obtain ⟨winner, first⟩ := Race.exists_first_of_earliest first
  cases stopped : context.stop? moment with
  | none =>
    by_cases other : winner = .work
    · rw [other] at first
      exact first
    · exact absurd stopped (stop?_ne_none_of_reached other first.reached)
  | some stop => exact first.quiet.first (reached_of_stop? stopped)

theorem runs_run (ended : context.run now work = some (moment, result)) :
    ∃ looks, context.Runs now work looks moment result := by
  cases stopped : context.stop? now with
  | some stop =>
    rw [run_of_stop stopped] at ended
    cases ended
    exact ⟨[], (runs_iff_of_stop stopped).2 ⟨rfl, rfl, rfl⟩⟩
  | none =>
    rw [run_of_live stopped] at ended
    -- Of parties that come together a stop is asked first.
    obtain ⟨moment, come, same⟩ := Option.map_eq_some_iff.1 ended
    cases same
    obtain ⟨looks, ends⟩ := (first_at_earliest come).exists_ends (quiet_race stopped)
    exact ⟨looks, (runs_iff_of_live stopped).2 ⟨_, ends, rfl⟩⟩

theorem not_runs_of_run (endless : context.run now work = none) :
    ¬context.Runs now work looks moment result := by
  intro runs
  cases stopped : context.stop? now with
  | some stop =>
    rw [run_of_stop stopped] at endless
    cases endless
  | none =>
    rw [run_of_live stopped, Option.map_eq_none_iff] at endless
    obtain ⟨winner, ends, -⟩ := (runs_iff_of_live stopped).1 runs
    have due := (ends.first (quiet_race stopped)).due
    rw [Race.earliest_eq_none_iff.1 endless] at due
    cases due

theorem exists_runs_iff (live : context.stop? now = none) :
    (∃ looks, context.Runs now work looks moment result) ↔
      ∃ winner, (context.race now work).First winner moment ∧ result = winner.outcome work := by
  simp only [runs_iff_of_live live, ← Race.exists_ends_iff (quiet_race live)]
  constructor
  · rintro ⟨looks, winner, ends, same⟩
    exact ⟨winner, ⟨looks, ends⟩, same⟩
  · rintro ⟨winner, ⟨looks, ends⟩, same⟩
    exact ⟨looks, winner, ends, same⟩

theorem runs_of_alone {winner : Party} (live : context.stop? now = none)
    (alone : (context.race now work).Alone winner moment) :
    (∃ looks, context.Runs now work looks moment (winner.outcome work)) ∧
      ∀ looks ended result, context.Runs now work looks ended result →
        ended = moment ∧ result = winner.outcome work := by
  constructor
  · exact (exists_runs_iff live).2 ⟨winner, alone.first, rfl⟩
  · intro looks ended result runs
    obtain ⟨party, first, same⟩ := (exists_runs_iff live).1 ⟨looks, runs⟩
    obtain ⟨rfl, rfl⟩ := alone.eq_of_first first
    exact ⟨rfl, same⟩

theorem ends_iff (live : context.stop? now = none) :
    (∃ looks moment result, context.Runs now work looks moment result) ↔
      ∃ party, context.race now work party ≠ none := by
  rw [← Race.exists_first_iff]
  constructor
  · rintro ⟨looks, moment, result, runs⟩
    obtain ⟨winner, first, -⟩ := (exists_runs_iff live).1 ⟨looks, runs⟩
    exact ⟨winner, moment, first⟩
  · rintro ⟨winner, moment, first⟩
    obtain ⟨looks, runs⟩ := (exists_runs_iff live).2 ⟨winner, first, rfl⟩
    exact ⟨looks, moment, _, runs⟩

theorem asks_for_work (live : context.stop? now = none)
    (runs : context.Runs now work looks moment result) :
    ∃ look ∈ looks, look.moment = now ∧ .work ∈ look.asked := by
  obtain ⟨winner, ends, -⟩ := (runs_iff_of_live live).1 runs
  refine ends.asks (fun party other => Bool.eq_false_iff.2 (fun come => ?_))
  exact stop?_ne_none_of_reached other come live

/-- A context that has stopped begins no work, and says why; of two reasons it says that it was
cancelled. Otherwise the work is begun at once. Whoever comes first decides the result, and if
several do, any one of them but nobody else; that is so however long one has waited already. -/
theorem runs_course (context : RequestContext) (now : Moment) (work : Work α) :
    (Moment.reached context.cancelledAt now = true → ∀ looks moment result,
      context.Runs now work looks moment result ↔
        looks = [] ∧ moment = now ∧ result = .error HttpError.cancelled) ∧
    (Moment.reached context.cancelledAt now = false →
      Moment.reached context.deadline now = true → ∀ looks moment result,
      context.Runs now work looks moment result ↔
        looks = [] ∧ moment = now ∧ result = .error HttpError.timeout) ∧
    (Moment.reached context.cancelledAt now = false →
      Moment.reached context.deadline now = false →
      (∀ looks moment result, context.Runs now work looks moment result →
        ∃ look ∈ looks, look.moment = now ∧ .work ∈ look.asked) ∧
      (∀ moment result, (∃ looks, context.Runs now work looks moment result) ↔
        ∃ winner, (context.race now work).First winner moment ∧ result = winner.outcome work) ∧
      (∀ winner moment, (context.race now work).Alone winner moment →
        (∃ looks, context.Runs now work looks moment (winner.outcome work)) ∧
          ∀ looks ended result, context.Runs now work looks ended result →
            ended = moment ∧ result = winner.outcome work) ∧
      ((∃ looks moment result, context.Runs now work looks moment result) ↔
        ∃ party, context.race now work party ≠ none)) ∧
    (∀ later, (context.race now work).Quiet later → ∀ winner moment,
      (∃ looks, (context.race now work).Ends later looks moment winner) ↔
        (context.race now work).First winner moment) ∧
    (∀ moment result, context.run now work = some (moment, result) →
      ∃ looks, context.Runs now work looks moment result) ∧
    (context.run now work = none → ∀ looks moment result,
      ¬context.Runs now work looks moment result) := by
  refine ⟨?cancelled, ?expired, ?live, fun later quiet winner moment => Race.exists_ends_iff quiet,
    fun moment result ended => runs_run ended,
    fun endless looks moment result => not_runs_of_run endless⟩
  case cancelled =>
    intro cancelled looks moment result
    have stopped : context.stop? now = some .cancelled := by rw [stop?, cancelled]; rfl
    exact runs_iff_of_stop stopped
  case expired =>
    intro uncancelled expired looks moment result
    have stopped : context.stop? now = some .expired := by rw [stop?, uncancelled, expired]; rfl
    exact runs_iff_of_stop stopped
  case live =>
    intro uncancelled unexpired
    have live : context.stop? now = none := by rw [stop?, uncancelled, unexpired]; rfl
    exact ⟨fun looks moment result runs => asks_for_work live runs,
      fun moment result => exists_runs_iff live,
      fun winner moment alone => runs_of_alone live alone,
      ends_iff live⟩

/-- Work that ends at the deadline may be in time or not. Work that ends later is not, and at the
deadline none is begun. -/
theorem runs_course_at_deadline :
    let context : RequestContext := { cancelledAt := some 9, deadline := some 5 }
    (∀ moment result, (∃ looks, context.Runs 2 ⟨some 3, .ok 7⟩ looks moment result) ↔
      moment = 5 ∧ (result = .ok 7 ∨ result = .error HttpError.timeout)) ∧
    (∀ looks moment result, context.Runs 2 ⟨some 4, .ok 7⟩ looks moment result →
      moment = 5 ∧ result = .error HttpError.timeout) ∧
    ∀ looks moment result, context.Runs 5 ⟨some 0, .ok 7⟩ looks moment result ↔
      looks = [] ∧ moment = 5 ∧ result = .error HttpError.timeout := by
  intro context
  have tied := ((runs_course context 2 ⟨some 3, .ok 7⟩).2.2.1 rfl rfl).2.1
  have late := ((runs_course context 2 ⟨some 4, .ok 7⟩).2.2.1 rfl rfl).2.2.1
  refine ⟨fun moment result => ?_, (late .deadline 5 ⟨rfl, ?_⟩).2,
    (runs_course context 5 ⟨some 0, .ok 7⟩).2.1 rfl rfl⟩
  · rw [tied]
    constructor
    · rintro ⟨winner, ⟨due, quiet⟩, rfl⟩
      have soon : moment ≤ 5 := quiet .deadline 5 rfl
      cases winner with
      | cancellation => cases due; contradiction
      | deadline => cases due; exact ⟨rfl, .inr rfl⟩
      | work => cases due; exact ⟨rfl, .inl rfl⟩
    · have quiet : (context.race 2 (⟨some 3, .ok 7⟩ : Work Nat)).Quiet 5 := by
        intro party due come
        cases party <;> cases come <;> decide
      rintro ⟨rfl, rfl | rfl⟩
      · exact ⟨.work, ⟨rfl, quiet⟩, rfl⟩
      · exact ⟨.deadline, ⟨rfl, quiet⟩, rfl⟩
  · intro party due other come
    cases party <;> cases come
    · decide
    · exact absurd rfl other
    · decide

end RequestContext

end Jmap
