import SpringTemplate.Message.Replays
import SpringTemplate.Message.Served
import SpringTemplate.Message.TextMapper

/-!
# What `clear` deletes

Once messages are implemented, `clear` also reads the list of languages and
the word set of every language, and deletes all the keys it has collected with
one command.  For a listed language it collects the language code itself, not
the key of its word set.  So a key of somebody else that is spelled like a
language code is deleted, and the word set stays unless something else lists
its key.
-/

namespace SpringTemplate.Message

variable {Node : Type} {dataMapper : DataMapper Node}
  {directories : Directories} {outcomes : Nat → (call : Call) → Outcome call}

/-- The key of the word set of a language. -/
def Keys.wordSet (language : String) : String :=
  Keys.languageWords ++ "-" ++ language

/-- The key starts with the prefix of the service. -/
def OfService (key : String) : Prop :=
  Keys.servicePrefix.toList <+: key.toList

instance (key : String) : Decidable (OfService key) :=
  inferInstanceAs (Decidable (_ <+: _))

/-- The members of a stored set; an absent set has none. -/
def Lists (dataMapper : DataMapper Node) :
    Option Bytes → List String → Prop
  | none, keys => keys = []
  | some bytes, keys => dataMapper.readKeys bytes = .ok keys

/-- What the sets that `clear` reads have as members. -/
structure Listing (dataMapper : DataMapper Node) (redis : Redis) where
  resources : List String
  languages : List String
  words : String → List String
  resources_listed : Lists dataMapper (redis Keys.resourceKeys) resources
  languages_listed : Lists dataMapper (redis Keys.languageList) languages
  words_listed : ∀ language ∈ languages,
    Lists dataMapper (redis (Keys.wordSet language)) (words language)

namespace Listing

variable {redis : Redis} (listing : Listing dataMapper redis)

/-- The key is a member of one of the sets of keys. -/
def Names (key : String) : Prop :=
  key ∈ listing.resources ∨
    ∃ language ∈ listing.languages, key ∈ listing.words language

/-- The keys `clear` deletes. -/
def Deleted (key : String) : Prop :=
  (redis Keys.resourceKeys ≠ none ∧ key = Keys.resourceKeys) ∨
    key = Keys.languageList ∨ key ∈ listing.languages ∨ listing.Names key

end Listing

/-! ## The calls of `clear` -/

section Replay

variable (directories) (trace : ServiceTrace)

theorem replay_clearWords (answering : Answering outcomes)
    (words : String → List String) (languages cacheKeys : List String)
    (listed : ∀ language ∈ languages, Lists dataMapper
      (trace.state (Keys.wordSet language)) (words language)) :
    ∃ later keys, (environment directories).replay outcomes trace
        ((implemented dataMapper).clearWords languages cacheKeys) =
          (later, .ok keys) ∧
      later.state = trace.state ∧
      ∀ key, key ∈ keys ↔ key ∈ cacheKeys ∨
        ∃ language ∈ languages, key ∈ words language := by
  induction languages generalizing trace cacheKeys with
  | nil => exact ⟨trace, cacheKeys, rfl, rfl, by simp⟩
  | cons language languages induction =>
      obtain ⟨got, gets, same⟩ := replay_get directories trace answering
        (Keys.wordSet language)
      have listedHere := listed language List.mem_cons_self
      have listedLater : ∀ other ∈ languages, Lists dataMapper
          (got.state (Keys.wordSet other)) (words other) := by
        intro other member
        rw [same]
        exact listed other (List.mem_cons_of_mem _ member)
      rw [MessageServiceImpl.clearWords, Environment.replay_bind]
      rw [Keys.wordSet] at gets
      rw [gets]
      cases stored : trace.state (Keys.wordSet language) with
      | none =>
          rw [stored] at listedHere
          have empty : words language = [] := listedHere
          obtain ⟨later, keys, runs, sameState, members⟩ :=
            induction got cacheKeys listedLater
          refine ⟨later, keys, ?_, sameState.trans same, ?_⟩
          · rw [Keys.wordSet] at stored
            rw [stored]
            exact runs
          · simp [members, empty]
      | some bytes =>
          rw [stored] at listedHere
          have reads : dataMapper.readKeys bytes = .ok (words language) :=
            listedHere
          obtain ⟨later, keys, runs, sameState, members⟩ :=
            induction got (cacheKeys ∪ words language) listedLater
          refine ⟨later, keys, ?_, sameState.trans same, ?_⟩
          · rw [Keys.wordSet] at stored
            rw [stored]
            simp only [implemented, ofExcept, reads] at runs ⊢
            exact runs
          · simp [members, or_assoc]

variable {redis : Redis} (listing : Listing dataMapper redis)

theorem replay_clearLanguages (answering : Answering outcomes)
    (content : trace.state = redis) (cacheKeys : List String) :
    ∃ later keys, (environment directories).replay outcomes trace
        ((implemented dataMapper).clearLanguages cacheKeys) =
          (later, .ok keys) ∧
      later.state = redis ∧
      ∀ key, key ∈ keys ↔ key ∈ cacheKeys ∨ key = Keys.languageList ∨
        key ∈ listing.languages ∨
        ∃ language ∈ listing.languages, key ∈ listing.words language := by
  obtain ⟨got, gets, same⟩ :=
    replay_get directories trace answering Keys.languageList
  rw [content] at gets same
  have listed := listing.languages_listed
  rw [MessageServiceImpl.clearLanguages, Environment.replay_bind, gets]
  cases stored : redis Keys.languageList with
  | none =>
      rw [stored] at listed
      have empty : listing.languages = [] := listed
      refine ⟨got, cacheKeys.insert Keys.languageList, rfl, same, ?_⟩
      intro key
      simp [empty, or_comm]
  | some bytes =>
      rw [stored] at listed
      have reads : dataMapper.readKeys bytes = .ok listing.languages := listed
      have wordsListed : ∀ language ∈ listing.languages, Lists dataMapper
          (got.state (Keys.wordSet language)) (listing.words language) := by
        rw [same]
        exact listing.words_listed
      obtain ⟨later, keys, runs, sameState, members⟩ :=
        replay_clearWords directories got answering listing.words
          listing.languages
          (cacheKeys.insert Keys.languageList ∪ listing.languages) wordsListed
      refine ⟨later, keys, ?_, sameState.trans same, ?_⟩
      · simp only [implemented, ofExcept, reads] at runs ⊢
        exact runs
      · intro key
        simp only [members, List.mem_union_iff, List.mem_insert_iff]
        tauto

theorem indexedKeys_listed :
    ∃ keys, (implemented dataMapper).indexedKeys (redis Keys.resourceKeys) =
        .ok keys ∧
      ∀ key, key ∈ keys ↔ key ∈ listing.resources ∨
        (redis Keys.resourceKeys ≠ none ∧ key = Keys.resourceKeys) := by
  have listed := listing.resources_listed
  cases stored : redis Keys.resourceKeys with
  | none =>
      rw [stored] at listed
      have empty : listing.resources = [] := listed
      exact ⟨[], rfl, by simp [empty]⟩
  | some bytes =>
      rw [stored] at listed
      have reads : dataMapper.readKeys bytes = .ok listing.resources := listed
      refine ⟨listing.resources.insert Keys.resourceKeys, ?_, ?_⟩
      · simp [MessageServiceImpl.indexedKeys, implemented, reads, bind,
          Except.bind, pure, Except.pure]
      · intro key
        simp [or_comm]

/-- `clear` deletes what it has collected and touches nothing else. -/
theorem clear_deletes (answering : Answering outcomes)
    (content : trace.state = redis) :
    ∃ later keys, (environment directories).replay outcomes trace
        (implemented dataMapper).clear = (later, .ok ()) ∧
      later.state = redis.delete keys ∧
      ∀ key, key ∈ keys ↔ listing.Deleted key := by
  obtain ⟨got, gets, same⟩ :=
    replay_get directories trace answering Keys.resourceKeys
  rw [content] at gets same
  obtain ⟨cacheKeys, indexed, cached⟩ := indexedKeys_listed listing
  obtain ⟨last, keys, runs, sameState, members⟩ :=
    replay_clearLanguages directories got listing answering same cacheKeys
  have collected : keys.isEmpty = false := by
    rw [List.isEmpty_eq_false_iff_exists_mem]
    exact ⟨Keys.languageList, (members _).mpr (.inr (.inl rfl))⟩
  have flag : (implemented dataMapper).isMessageImplemented = true := rfl
  refine ⟨(environment directories).record last (.delete keys) .answered,
    keys, ?_, ?_, ?_⟩
  · simp only [MessageServiceImpl.clear, Environment.replay_bind, gets,
      ofExcept, indexed, Environment.replay_done, flag, if_true, runs,
      collected, Bool.false_eq_true, if_false, Environment.replay_perform,
      answering.delete]
    rfl
  · rw [Environment.record_state, sameState]
    rfl
  · intro key
    simp only [members, cached, Listing.Deleted, Listing.Names]
    tauto

end Replay

/-! ## The keys of the service and the others -/

theorem Keys.wordSet_ne_resourceKeys (language : String) :
    Keys.wordSet language ≠ Keys.resourceKeys := by
  intro equality
  have same : ServiceKey.languageWords language = .resourceKeys :=
    ServiceKey.text_injective equality
  cases same

theorem Keys.wordSet_ne_languageList (language : String) :
    Keys.wordSet language ≠ Keys.languageList := by
  intro equality
  have same : ServiceKey.languageWords language = .languageList :=
    ServiceKey.text_injective equality
  cases same

theorem ofService_append (rest : String) :
    OfService (Keys.servicePrefix ++ rest) := by
  rw [OfService, String.toList_append]
  exact List.prefix_append _ _

/-- What `clear` is there for: the keys of others stay as they are, and
whatever the service has listed is gone. -/
structure Cleared {redis : Redis} (listing : Listing dataMapper redis)
    (later : Redis) : Prop where
  others : ∀ key, ¬ OfService key → later key = redis key
  resourceKeys : later Keys.resourceKeys = none
  languageList : later Keys.languageList = none
  wordSets : ∀ language ∈ listing.languages,
    later (Keys.wordSet language) = none
  named : ∀ key, listing.Names key → later key = none

/-- No key of somebody else is spelled like a listed language code, and a word
set that is stored has its key among the codes or in one of the sets. -/
structure CodesHarmless {redis : Redis} (listing : Listing dataMapper redis) :
    Prop where
  others : ∀ language ∈ listing.languages,
    OfService language ∨ redis language = none
  wordSets : ∀ language ∈ listing.languages,
    redis (Keys.wordSet language) = none ∨
      Keys.wordSet language ∈ listing.languages ∨
      listing.Names (Keys.wordSet language)

section Cleared

variable {redis later : Redis} {listing : Listing dataMapper redis}
  {keys : List String}

theorem Listing.deleted_wordSet {language : String} :
    listing.Deleted (Keys.wordSet language) ↔
      Keys.wordSet language ∈ listing.languages ∨
        listing.Names (Keys.wordSet language) := by
  simp [Listing.Deleted, Keys.wordSet_ne_resourceKeys,
    Keys.wordSet_ne_languageList]

theorem CodesHarmless.of_cleared
    (deleted : ∀ key, key ∈ keys ↔ listing.Deleted key)
    (cleared : Cleared listing (redis.delete keys)) :
    CodesHarmless listing where
  others := by
    intro language member
    by_cases own : OfService language
    · exact .inl own
    · have inside := (deleted language).mpr (.inr (.inr (.inl member)))
      have kept := cleared.others language own
      rw [Redis.delete_member redis inside] at kept
      exact .inr kept.symm
  wordSets := by
    intro language member
    by_cases inside : Keys.wordSet language ∈ keys
    · have collected := (deleted _).mp inside
      exact .inr (Listing.deleted_wordSet.mp collected)
    · have gone := cleared.wordSets language member
      rw [Redis.delete_other redis inside] at gone
      exact .inl gone

theorem CodesHarmless.cleared
    (deleted : ∀ key, key ∈ keys ↔ listing.Deleted key)
    (own : ∀ key, listing.Names key → OfService key)
    (harmless : CodesHarmless listing) :
    Cleared listing (redis.delete keys) where
  others := by
    intro key other
    by_cases inside : key ∈ keys
    · rw [Redis.delete_member redis inside]
      rcases (deleted key).mp inside with
        ⟨_, rfl⟩ | rfl | listed | named
      · exact absurd (ofService_append _) other
      · exact absurd (ofService_append _) other
      · exact ((harmless.others key listed).resolve_left other).symm
      · exact absurd (own key named) other
    · exact Redis.delete_other redis inside
  resourceKeys := by
    by_cases stored : redis Keys.resourceKeys = none
    · by_cases inside : Keys.resourceKeys ∈ keys
      · exact Redis.delete_member redis inside
      · rw [Redis.delete_other redis inside, stored]
    · exact Redis.delete_member redis ((deleted _).mpr (.inl ⟨stored, rfl⟩))
  languageList :=
    Redis.delete_member redis ((deleted _).mpr (.inr (.inl rfl)))
  wordSets := by
    intro language member
    by_cases inside : Keys.wordSet language ∈ keys
    · exact Redis.delete_member redis inside
    · rw [Redis.delete_other redis inside]
      apply (harmless.wordSets language member).resolve_right
      intro listed
      exact inside ((deleted _).mpr (Listing.deleted_wordSet.mpr listed))
  named := by
    intro key names
    exact Redis.delete_member redis ((deleted key).mpr (.inr (.inr (.inr names))))

end Cleared

/-- When `clear` does what it is there for. -/
theorem clear_cleared_iff {redis : Redis} (listing : Listing dataMapper redis)
    (own : ∀ key, listing.Names key → OfService key) :
    ∃ later : ServiceTrace,
      (environment directories).replay (fun _ => answered)
        (Environment.start redis) (implemented dataMapper).clear =
          (later, .ok ()) ∧
      (Cleared listing later.state ↔ CodesHarmless listing) := by
  obtain ⟨later, keys, runs, content, deleted⟩ :=
    clear_deletes directories (Environment.start redis) listing
      answering_answered rfl
  refine ⟨later, runs, ?_⟩
  rw [content]
  exact ⟨.of_cleared deleted, fun harmless => harmless.cleared deleted own⟩

/-! ## A key that is spelled like a language code -/

/-- One language with one word, and a key of another handler. -/
def codeRedis : Redis :=
  ((Redis.set (fun _ => none) "id" (textMapper.writeNode "other")).set
    Keys.languageList (textMapper.writeKeys ["id"])).set
    (Keys.wordSet "id")
    (textMapper.writeKeys [Keys.servicePrefix ++ "-language-id-ok"])

theorem codeRedis_resourceKeys : codeRedis Keys.resourceKeys = none := by
  have notWords := Ne.symm (Keys.wordSet_ne_resourceKeys "id")
  have notList : Keys.resourceKeys ≠ Keys.languageList := by decide
  have notCode : Keys.resourceKeys ≠ "id" := by decide
  rw [codeRedis, Redis.set_other _ _ notWords, Redis.set_other _ _ notList,
    Redis.set_other _ _ notCode]

theorem codeRedis_languageList :
    codeRedis Keys.languageList = some (textMapper.writeKeys ["id"]) := by
  have notWords := Ne.symm (Keys.wordSet_ne_languageList "id")
  rw [codeRedis, Redis.set_other _ _ notWords]
  exact Redis.set_same _ _ _

theorem codeRedis_wordSet :
    codeRedis (Keys.wordSet "id") = some
      (textMapper.writeKeys [Keys.servicePrefix ++ "-language-id-ok"]) :=
  Redis.set_same _ _ _

def codeListing : Listing textMapper codeRedis :=
  { resources := []
    languages := ["id"]
    words := fun _ => [Keys.servicePrefix ++ "-language-id-ok"]
    resources_listed := by
      rw [codeRedis_resourceKeys]
      rfl
    languages_listed := by
      rw [codeRedis_languageList]
      exact TextMapper.readKeys_writeKeys ["id"]
    words_listed := by
      intro language member
      rw [List.mem_singleton.mp member, codeRedis_wordSet]
      exact TextMapper.readKeys_writeKeys _ }

/-- `clear` deletes the key `id` of somebody else and leaves the word set. -/
theorem clear_deletes_code :
    ∃ later : ServiceTrace,
      (environment noFiles).replay (fun _ => answered)
        (Environment.start codeRedis) (implemented textMapper).clear =
          (later, .ok ()) ∧
      ¬ OfService "id" ∧ codeRedis "id" ≠ none ∧ later.state "id" = none ∧
      later.state (Keys.wordSet "id") = codeRedis (Keys.wordSet "id") ∧
      ¬ Cleared codeListing later.state := by
  obtain ⟨later, keys, runs, content, deleted⟩ :=
    clear_deletes noFiles (Environment.start codeRedis) codeListing
      answering_answered rfl
  have foreign : ¬ OfService "id" := by decide
  have held : codeRedis "id" ≠ none := by
    have notWords : "id" ≠ Keys.wordSet "id" := by decide
    have notList : "id" ≠ Keys.languageList := by decide
    rw [codeRedis, Redis.set_other _ _ notWords, Redis.set_other _ _ notList,
      Redis.set_same]
    simp
  have gone : later.state "id" = none := by
    rw [content]
    exact Redis.delete_member _ ((deleted _).mpr (by
      simp [Listing.Deleted, codeListing]))
  have kept : Keys.wordSet "id" ∉ keys := by
    rw [deleted, Listing.deleted_wordSet]
    simp only [codeListing, Listing.Names]
    decide
  refine ⟨later, runs, foreign, held, gone, ?_, ?_⟩
  · rw [content, Redis.delete_other _ kept]
  · intro cleared
    exact held ((cleared.others "id" foreign).symm.trans gone)

theorem clear_cleared_code :
    ∃ later : ServiceTrace,
      (environment noFiles).replay (fun _ => answered)
        (Environment.start codeRedis) (implemented textMapper).clear =
          (later, .ok ()) ∧
      (Cleared codeListing later.state ↔ CodesHarmless codeListing) := by
  apply clear_cleared_iff
  intro key names
  obtain ⟨_, _, member⟩ := names.resolve_left (by simp [codeListing])
  rw [List.mem_singleton.mp member]
  exact ofService_append _

end SpringTemplate.Message
