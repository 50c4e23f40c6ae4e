import Jmap.Context

/-!
Contexts in the course of time. A stop that has come stays, so moments in order fall into those
before the first stop and those from it on.
-/

namespace Jmap

namespace RequestContext

variable {context : RequestContext} {now later : Moment}

inductive Stopped (context : RequestContext) (now : Moment) : Stop → Prop
  | cancelled (reached : Moment.reached context.cancelledAt now = true) :
      Stopped context now .cancelled
  | expired (reached : Moment.reached context.deadline now = true) :
      Stopped context now .expired

theorem reached_mono {moment : Option Moment} (order : now ≤ later)
    (reached : Moment.reached moment now = true) : Moment.reached moment later = true := by
  cases moment with
  | none => cases reached
  | some moment =>
    have before : moment ≤ now := of_decide_eq_true reached
    exact decide_eq_true (Nat.le_trans before order)

theorem Stopped.mono {stop : Stop} (stopped : context.Stopped now stop) (order : now ≤ later) :
    context.Stopped later stop := by
  cases stopped with
  | cancelled reached => exact .cancelled (reached_mono order reached)
  | expired reached => exact .expired (reached_mono order reached)

theorem stopped_of_stop? {stop : Stop} (first : context.stop? now = some stop) :
    context.Stopped now stop := by
  unfold stop? at first
  split at first
  · rename_i reached
    cases first
    exact .cancelled reached
  · split at first
    · rename_i reached
      cases first
      exact .expired reached
    · cases first

theorem stop?_eq_none_iff : context.stop? now = none ↔ ∀ stop, ¬context.Stopped now stop := by
  constructor
  · intro live stop stopped
    unfold stop? at live
    split at live
    · cases live
    · rename_i waits
      cases stopped with
      | cancelled reached => exact waits reached
      | expired reached => rw [if_pos reached] at live; cases live
  · intro live
    cases first : context.stop? now with
    | none => rfl
    | some stop => exact absurd (stopped_of_stop? first) (live stop)

theorem live_of_le (order : now ≤ later) (live : context.stop? later = none) :
    context.stop? now = none :=
  stop?_eq_none_iff.2 (fun stop stopped => stop?_eq_none_iff.1 live stop (stopped.mono order))

theorem exists_split (context : RequestContext) {schedule : List Moment}
    (ordered : schedule.Pairwise (· ≤ ·)) :
    ∃ live late, schedule = live ++ late ∧ (∀ now ∈ live, context.stop? now = none) ∧
      ∀ now ∈ late, context.stop? now ≠ none := by
  induction schedule with
  | nil => exact ⟨[], [], rfl, by simp, by simp⟩
  | cons now later ih =>
    obtain ⟨after, ordered⟩ := List.pairwise_cons.1 ordered
    by_cases live : context.stop? now = none
    · obtain ⟨before, late, split, alive, stopped⟩ := ih ordered
      exact ⟨now :: before, late, congrArg (now :: ·) split,
        List.forall_mem_cons.2 ⟨live, alive⟩, stopped⟩
    · refine ⟨[], now :: later, rfl, by simp, List.forall_mem_cons.2 ⟨live, ?_⟩⟩
      exact fun moment member alive => live (live_of_le (after moment member) alive)

end RequestContext

end Jmap
