import Jmap.Proofs.Json.Absent
import Jmap.Proofs.Json.StableTypes
import Jmap.Proofs.Toml.Document

namespace Jmap

open Json Toml

theorem CacheConfig.readsBack (config : CacheConfig) : ReadsBack config :=
  ReadsBack.record (by decide)
    ⟨ReadsBack.uint64 _, ReadsBack.uint64 _, ReadsBack.uint64 _, ReadsBack.uint64 _, trivial⟩ rfl

namespace EngineConfig

variable {config : EngineConfig} {text : String}

def optionalEntry (key : String) (value : Option String) : List (String × Scalar) :=
  (value.map (fun text => (key, .text text))).toList

def outerEntries (config : EngineConfig) : List (String × Scalar) :=
  [("session_url", .text config.sessionUrl)] ++ optionalEntry "master_user" config.masterUser ++
    optionalEntry "master_password" config.masterPassword ++ optionalEntry "token" config.token ++
    [("user_agent", .text config.userAgent), ("request_timeout", .number config.requestTimeout)] ++
    optionalEntry "default_language" config.defaultLanguage

def cacheEntries (config : CacheConfig) : List (String × Scalar) :=
  [("ttl", .number config.ttl), ("failure_ttl", .number config.failureTtl),
    ("max_capacity", .number config.maxCapacity), ("reap_interval", .number config.reapInterval)]

theorem lines_optionalEntry (key : String) (value : Option String) :
    lines (optionalEntry key value) = optionalLine key value := by
  cases value with
  | none => rfl
  | some text => simp [lines, optionalEntry, optionalLine, stringLine, Scalar.chars]

theorem toToml_eq_document (config : EngineConfig) :
    config.toToml = String.ofList
      (document config.outerEntries "session_cache" (cacheEntries config.sessionCache)) := by
  refine congrArg String.ofList ?_
  have header : "\n[session_cache]\n".toList =
      '\n' :: '[' :: ("session_cache".toList ++ [']', '\n']) := rfl
  have apart (first second : List (String × Scalar)) :
      lines (first ++ second) = lines first ++ lines second := List.flatMap_append
  simp only [document, outerEntries, apart, lines_optionalEntry, header]
  simp [lines, cacheEntries, stringLine, numberLine, Scalar.chars]

def toRow (config : EngineConfig) : Row slots :=
  (config.sessionUrl, config.masterUser, config.masterPassword, config.token, config.userAgent,
    config.requestTimeout, config.defaultLanguage, config.sessionCache, ())

theorem members_eq_filter (config : EngineConfig) :
    members config.outerEntries ++
        [("session_cache", .ofMembers (members (cacheEntries config.sessionCache)))] =
      (Row.members slots config.toRow).filter (fun member => member.2 ≠ .null) := by
  obtain ⟨_, masterUser, masterPassword, token, _, _, defaultLanguage, _⟩ := config
  cases masterUser <;> cases masterPassword <;> cases token <;> cases defaultLanguage <;> rfl

theorem distinct_slots : (slots.map Slot.key).Nodup := by decide

theorem bare_outerEntries (config : EngineConfig) :
    ∀ entry ∈ config.outerEntries, IsBareKey entry.1 := by
  have all : ∀ key ∈ slots.map Slot.key, IsBareKey key := by decide +kernel
  intro entry listed
  have written : (entry.1, entry.2.json) ∈ (Row.members slots config.toRow).filter
      (fun member => member.2 ≠ .null) := by
    rw [← members_eq_filter]
    exact List.mem_append_left _ (List.mem_map_of_mem listed)
  exact all entry.1 (Row.mem_keys_of_mem_members slots _ (List.mem_filter.1 written).1)

theorem distinct_outerEntries (config : EngineConfig) :
    ("session_cache" :: config.outerEntries.map (·.1)).Nodup := by
  have once := Row.nodup_keys_members slots config.toRow distinct_slots
  have kept : (((Row.members slots config.toRow).filter
      (fun member => member.2 ≠ .null)).map (·.1)).Nodup :=
    once.sublist (List.filter_sublist.map _)
  rw [← members_eq_filter, List.map_append] at kept
  simpa [members, Function.comp_def] using (List.perm_append_comm.nodup_iff).1 kept

theorem read_document (config : EngineConfig) :
    (Wire.read (.ofJson (.ofMembers (members config.outerEntries ++
      [("session_cache", .ofMembers (members (cacheEntries config.sessionCache)))]))) :
        Read EngineConfig) = .ok config := by
  have text (value : Option String) : ReadsBack value :=
    .option (fun present _ => ⟨.string present, Json.noConfusion⟩)
  have returns : Row.Returns slots config.toRow :=
    ⟨ReadsBack.string _, text _, text _, text _, ReadsBack.string _, ReadsBack.uint64 _, text _,
      config.sessionCache.readsBack, trivial⟩
  have passes : ∀ slot ∈ slots, (∃ value, slot.write value = some .null) → slot.NullIsAbsent := by
    simp only [slots, List.forall_mem_cons]
    refine ⟨nofun, ?_, ?_, ?_, nofun, nofun, ?_, nofun, List.forall_mem_nil _⟩
    all_goals exact fun _ => Slot.nullIsAbsent_nullable _ _
  have row : Row.read "EngineConfig" slots _ = _ :=
    Row.read_without_nulls distinct_slots returns passes
  rw [← members_eq_filter] at row
  exact congrArg (Except.map _) row

theorem ofToml_toToml (config : EngineConfig) :
    ofToml config.toToml = config.validate.map (fun () => config) := by
  have bareTable : IsBareKey "session_cache" := by decide +kernel
  have bareInner : ∀ key ∈ (cacheEntries config.sessionCache).map (·.1), IsBareKey key := by
    change ∀ key ∈ ["ttl", "failure_ttl", "max_capacity", "reap_interval"], IsBareKey key
    decide +kernel
  have distinctInner : ((cacheEntries config.sessionCache).map (·.1)).Nodup := by
    change ["ttl", "failure_ttl", "max_capacity", "reap_interval"].Nodup
    decide
  have scanned := ofText?_document_outline bareTable config.bare_outerEntries
    (List.forall_mem_map.1 bareInner) config.distinct_outerEntries distinctInner
  rw [← toToml_eq_document] at scanned
  obtain ⟨document, parsed, same⟩ := Option.map_eq_some_iff.1 scanned
  rw [ofToml, parsed]
  simp only [same, read_document]

theorem validate_of_ofToml (accepted : ofToml text = .ok config) : config.validate = .ok () := by
  rw [ofToml] at accepted
  split at accepted
  · cases accepted
  · split at accepted
    · cases accepted
    · obtain ⟨valid, validated, same⟩ := map_eq_ok accepted
      exact same ▸ validated

/-- A configuration that has been read from a document is read back from the one that it is
written as, with the same value in every member. Those are the valid configurations, whatever
their texts and numbers. -/
theorem documents_reread :
    (∀ (text : String) (config : EngineConfig), ofToml text = .ok config →
      ofToml config.toToml = .ok config) ∧
    ∀ config : EngineConfig, (∃ text, ofToml text = .ok config) ↔ config.validate = .ok () := by
  have reread (config : EngineConfig) (valid : config.validate = .ok ()) :
      ofToml config.toToml = .ok config := by
    rw [ofToml_toToml, valid]
    rfl
  exact ⟨fun _ config accepted => reread config (validate_of_ofToml accepted), fun config =>
    ⟨fun ⟨_, accepted⟩ => validate_of_ofToml accepted, fun valid => ⟨_, reread config valid⟩⟩⟩

/-- Quotes, a backslash and a line end in a text, and the greatest number. -/
theorem documents_reread_with_marks :
    ∃ (text : String) (config : EngineConfig), ofToml text = .ok config ∧
      config.masterUser = some "\"'\\\n'''" ∧ config.requestTimeout = 18446744073709551615 ∧
      config.token = some "ü" ∧ config.defaultLanguage = none ∧ config.sessionCache.ttl = 1 ∧
      ofToml config.toToml = .ok config := by
  let text := "session_url = 'a:b'\n" ++
    "master_user = \"\\\"'\\\\\\n'''\"\n" ++
    "master_password = ''\n" ++
    "token = \"\"\"\n\\u00fc\"\"\"\n" ++
    "request_timeout = 18446744073709551615\n" ++
    "session_cache.ttl = 1\n"
  have checked : (ofToml text).toOption.any (fun config =>
      config.masterUser = some "\"'\\\n'''" ∧ config.requestTimeout = 18446744073709551615 ∧
        config.token = some "ü" ∧ config.defaultLanguage = none ∧
          config.sessionCache.ttl = 1) = true := by
    decide +kernel
  obtain ⟨config, accepted, checked⟩ := any_toOption checked
  obtain ⟨user, timeout, token, language, ttl⟩ := of_decide_eq_true checked
  exact ⟨text, config, accepted, user, timeout, token, language, ttl,
    documents_reread.1 text config accepted⟩

end EngineConfig

end Jmap
