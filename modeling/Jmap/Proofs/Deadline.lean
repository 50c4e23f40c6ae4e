import Jmap.Proofs.Cache.Entries
import Jmap.Proofs.Json.Wire
import Jmap.Session.Loader

/-!
Deadlines of calls and of loads. Both are as far away as the configuration says, and there is
neither call nor load where the clock cannot count that far.
-/

namespace Jmap

variable {World : Type} {now moment : Moment} {wait : Nat} {timeout : Option Nat}

namespace Moment

/-- The clock can measure a time from now on. Without a time there is nothing to measure. -/
def Measures (now : Moment) (timeout : Option Nat) : Prop := ∀ wait ∈ timeout, now + wait < limit

instance (now : Moment) (timeout : Option Nat) : Decidable (now.Measures timeout) :=
  inferInstanceAs (Decidable (∀ wait ∈ timeout, now + wait < limit))

theorem after?_eq_none_iff : now.after? wait = none ↔ limit ≤ now + wait := by
  simp [after?]

end Moment

theorem RequestContext.lasting?_eq (timeout : Option Nat) (now : Moment) :
    lasting? timeout now =
      if now.Measures timeout then some { deadline := timeout.map (now + ·) } else none := by
  cases timeout with
  | none => simp [lasting?, Moment.Measures]
  | some wait =>
    simp only [lasting?, withTimeout?, Moment.after?, Moment.Measures, Option.mem_some,
      forall_eq', Option.map_some]
    split <;> rfl

theorem RequestContext.check_of_deadline (deadline : Option Moment) (language : Option String)
    (moment : Moment) :
    check { deadline, language } moment =
      if ∃ due ∈ deadline, due ≤ moment then .error HttpError.timeout else .ok () := by
  cases deadline with
  | none => simp [check, stop?, Moment.reached]
  | some due =>
    by_cases come : due ≤ moment
    · simp [check, stop?, Moment.reached, come, Stop.error]
    · simp [check, stop?, Moment.reached, come]

theorem SessionCache.isExpired_of_beyond {cache : SessionCache} {entry : CacheEntry}
    (beyond : ∀ loaded, entry.stage = .loaded loaded →
      Moment.limit ≤ loaded.moment + cache.lifetime loaded.result) :
    cache.isExpired entry now = false := by
  refine Bool.eq_false_iff.2 (fun expired => ?_)
  obtain ⟨loaded, expiry, stage, ends, -⟩ := isExpired_eq_true_iff.1 expired
  rw [Moment.after?_eq_none_iff.2 (beyond loaded stage)] at ends
  cases ends

namespace EngineConfig

variable {config : EngineConfig}

def Timely (config : EngineConfig) (now : Moment) : Prop :=
  config.requestTimeout = 0 ∨ now + config.requestTimeout.toNat * 1000 < Moment.limit

instance (config : EngineConfig) (now : Moment) : Decidable (config.Timely now) :=
  inferInstanceAs (Decidable (_ ∨ _))

def deadline? (config : EngineConfig) (now : Moment) : Option Moment :=
  if config.requestTimeout = 0 then none else some (now + config.requestTimeout.toNat * 1000)

theorem lasting?_timeout? (config : EngineConfig) (now : Moment) :
    RequestContext.lasting? (config.timeout?.map (fun seconds => seconds.toNat * 1000)) now =
      if config.Timely now then some { deadline := config.deadline? now } else none := by
  rw [RequestContext.lasting?_eq, timeout?, deadline?]
  by_cases endless : config.requestTimeout = 0
  · simp [endless, Timely, Moment.Measures]
  · simp [endless, Timely, Moment.Measures]

theorem exists_deadline?_le_iff :
    (∃ due ∈ config.deadline? now, due ≤ moment) ↔
      config.requestTimeout ≠ 0 ∧ now + config.requestTimeout.toNat * 1000 ≤ moment := by
  simp [deadline?, and_assoc]

theorem context?_eq (config : EngineConfig) (now : Moment) :
    config.context? now =
      if config.Timely now then
        some { deadline := config.deadline? now, language := config.defaultLanguage }
      else none := by
  rw [context?, lasting?_timeout?]
  split <;> rfl

variable (link : Link World) (signal : SessionOutdated → World → World)
  (enter : RequestContext → World → World) (username : String) (world : World)

theorem load?_eq (config : EngineConfig) :
    (config.loader link signal enter).load? username world =
      if config.Timely (link.now world) then
        some ((config.client link signal).fetchSession username
          (enter { deadline := config.deadline? (link.now world) } world))
      else none := by
  change Option.map _ (RequestContext.lasting? _ (link.now world)) = _
  rw [loader, lasting?_timeout?]
  split <;> rfl

/-- Calls and loads of sessions get their contexts exactly where the clock can reach the deadline.
A context stops at that deadline, or never if the timeout is zero. -/
theorem contexts_within_clock (config : EngineConfig) :
    config.context? (link.now world) =
      (if config.Timely (link.now world) then
        some { deadline := config.deadline? (link.now world), language := config.defaultLanguage }
      else none) ∧
    (config.loader link signal enter).load? username world =
      (if config.Timely (link.now world) then
        some ((config.client link signal).fetchSession username
          (enter { deadline := config.deadline? (link.now world) } world))
      else none) ∧
    ∀ language moment,
      RequestContext.check { deadline := config.deadline? (link.now world), language } moment =
        if config.requestTimeout ≠ 0 ∧
            link.now world + config.requestTimeout.toNat * 1000 ≤ moment then
          .error HttpError.timeout
        else .ok () := by
  refine ⟨config.context?_eq (link.now world), config.load?_eq link signal enter username world,
    fun language moment => ?_⟩
  rw [RequestContext.check_of_deadline]
  simp only [exists_deadline?_le_iff]

/-- No clock reaches the end of this timeout, which passes every check. Sessions that are kept for
as long do not expire. -/
theorem contexts_beyond_clock :
    ∃ text config,
      text = "session_url = \"http://[::1]/jmap\"\nrequest_timeout = 18446744073709551615\n" ∧
      ofToml text = .ok config ∧
      (∀ now, config.context? now = none) ∧
      (∀ {World : Type} (link : Link World) signal enter username world,
        (config.loader link signal enter).load? username world = none) ∧
      ∀ (cache : SessionCache) entry now, cache.config.ttl = config.requestTimeout →
        cache.config.failureTtl = config.requestTimeout → cache.isExpired entry now = false := by
  have checked : (ofToml
      "session_url = \"http://[::1]/jmap\"\nrequest_timeout = 18446744073709551615\n").toOption.any
      (fun config => config.requestTimeout = 18446744073709551615) = true := by
    decide +kernel
  obtain ⟨config, accepted, longest⟩ := any_toOption checked
  have longest : config.requestTimeout = 18446744073709551615 := of_decide_eq_true longest
  have beyond (now : Moment) : Moment.limit ≤ now + config.requestTimeout.toNat * 1000 := by
    rw [longest]
    exact Nat.le_add_left_of_le (by decide)
  have untimely (now : Moment) : ¬config.Timely now := by
    rintro (endless | reached)
    · rw [longest] at endless
      exact absurd endless (by decide)
    · exact absurd reached (Nat.not_lt.2 (beyond now))
  refine ⟨_, config, rfl, accepted, fun now => ?_, fun link signal enter username world => ?_,
    fun cache entry now kept keptFailed => ?_⟩
  · rw [context?_eq, if_neg (untimely now)]
  · rw [load?_eq, if_neg (untimely (link.now world))]
  · refine SessionCache.isExpired_of_beyond (fun loaded _ => ?_)
    have lifetime : cache.lifetime loaded.result = config.requestTimeout.toNat * 1000 := by
      unfold SessionCache.lifetime
      split
      · rw [kept]
      · rw [keptFailed]
    rw [lifetime]
    exact beyond loaded.moment

end EngineConfig

end Jmap
