import SpringTemplate.Message.Clearing
import SpringTemplate.Message.KeyUse
import SpringTemplate.Message.LockContract

/-!
# What one reload writes

A reload stores documents of the files it has found, under the keys of their
type and language, and an index of such keys.  It deletes what the index
lists that it reads.  `writeContract` says so call by call, for any set of
keys that the index may list.
-/

namespace SpringTemplate.Message

variable {Node : Type} {dataMapper : DataMapper Node}

/-- What `loadResource` makes of one of the files, in a language. -/
def FileDocument (dataMapper : DataMapper Node) (files : List Resource)
    (language : String) (bytes : Bytes) : Prop :=
  ∃ file ∈ files, JavaText.replace file.filename ".json" "" = language ∧
    ∃ content node, file.content = .ok content ∧
      dataMapper.readNode content = .ok node ∧
      bytes = dataMapper.writeNode node

/-- The values are documents of files the reload has found. -/
def FromFiles (dataMapper : DataMapper Node) (history : ReloadHistory)
    (values : OrderedMap String Bytes) : Prop :=
  ∀ key bytes, values.get? key = some bytes →
    ∃ (type : ClientType) (language : String) (files : List Resource),
      key = Keys.resource type language ∧
      ⟨.getResources type, .ok files⟩ ∈ history ∧
      FileDocument dataMapper files language bytes

/-- A value of the index lists owned keys only. -/
def ListsOnly (dataMapper : DataMapper Node) (owned : String → Prop)
    (value : Option Bytes) : Prop :=
  ∀ keys, (deployed dataMapper).indexedKeys value = .ok keys →
    ∀ key ∈ keys, owned key

/-- Files are stored as documents, the index lists owned keys, and owned keys
are deleted. -/
def writeContract (dataMapper : DataMapper Node) (owned : String → Prop) :
    Contract Call Answer MessageException :=
  { relies := fun call answer =>
      match call, answer with
      | .get key, answer => key = Keys.resourceKeys →
          ∀ value, answer = .ok value → ListsOnly dataMapper owned value
      | _, _ => True
    guarantees := fun history call =>
      match call with
      | .set key value => key = Keys.lock ∨
          key = Keys.resourceKeys ∧ ListsOnly dataMapper owned (some value)
      | .multiSet values => FromFiles dataMapper history values
      | .delete keys => ∀ key ∈ keys, owned key
      | _ => True }

/-! ## Files and keys -/

theorem ofService_resource (type language : String) :
    OfService (Keys.resource type language) := by
  have key : Keys.resource type language =
      Keys.servicePrefix ++ ("-" ++ type ++ "-" ++ language) := by
    simp [Keys.resource, String.append_assoc]
  rw [key]
  exact ofService_append _

theorem foldlM_readResource_documents {type : String}
    {all files : List Resource} {map values : OrderedMap String Bytes}
    (within : ∀ file ∈ files, file ∈ all)
    (formed : ∀ key bytes, map.get? key = some bytes → ∃ language,
      key = Keys.resource type language ∧
        FileDocument dataMapper all language bytes)
    (read : files.foldlM ((deployed dataMapper).readResource type) map =
      .ok values) :
    ∀ key bytes, values.get? key = some bytes → ∃ language,
      key = Keys.resource type language ∧
        FileDocument dataMapper all language bytes := by
  induction files generalizing map with
  | nil =>
      simp only [List.foldlM_nil, pure, Except.pure, Except.ok.injEq] at read
      exact read ▸ formed
  | cons file files induction =>
      rw [List.foldlM_cons] at read
      cases first : (deployed dataMapper).readResource type map file with
      | error error => simp [first, bind, Except.bind] at read
      | ok stored =>
          simp only [first, bind, Except.bind] at read
          obtain ⟨content, node, contentRead, nodeRead, rfl⟩ :=
            readResource_ok first
          refine induction (fun other member =>
            within other (List.mem_cons_of_mem _ member)) ?_ read
          intro key bytes found
          rw [OrderedMap.get?_put] at found
          split at found
          · rename_i same
            cases found
            exact ⟨_, same, file, within file List.mem_cons_self, rfl,
              content, node, contentRead, nodeRead, rfl⟩
          · exact formed key bytes found

theorem fromFiles_of_read {history : ReloadHistory} {type : ClientType}
    {files : List Resource} {values : OrderedMap String Bytes}
    (found : ⟨.getResources type, .ok files⟩ ∈ history)
    (read : (deployed dataMapper).readResources type files = .ok values) :
    FromFiles dataMapper history values := by
  intro key bytes stored
  obtain ⟨language, same, document⟩ := foldlM_readResource_documents
    (fun _ member => member) (by simp) read key bytes stored
  exact ⟨type, language, files, same, found, document⟩

theorem FromFiles.mono {history later : ReloadHistory}
    {values : OrderedMap String Bytes}
    (fromFiles : FromFiles dataMapper history values)
    (extends_ : history <+: later) : FromFiles dataMapper later values := by
  intro key bytes stored
  obtain ⟨type, language, files, same, found, document⟩ :=
    fromFiles key bytes stored
  exact ⟨type, language, files, same, extends_.subset found, document⟩

theorem FromFiles.ofService {history : ReloadHistory}
    {values : OrderedMap String Bytes}
    (fromFiles : FromFiles dataMapper history values) {key : String}
    (member : key ∈ values.keys) : OfService key := by
  obtain ⟨bytes, stored⟩ := (values.mem_keys_iff key).mp member
  obtain ⟨type, language, _, rfl, _⟩ := fromFiles key bytes stored
  exact ofService_resource type language

section Owned

variable {owned : String → Prop}

/-- An index that is written of owned keys lists no others. -/
theorem listsOnly_write (ofService : ∀ key, OfService key → owned key)
    (lawful : dataMapper.Lawful) {keys : List String}
    (own : ∀ key ∈ keys, owned key) :
    ListsOnly dataMapper owned (some (dataMapper.writeKeys keys)) := by
  intro listed indexed key member
  obtain ⟨read, reads, same⟩ := lawful.readKeys_writeKeys keys
  have reads' : (deployed dataMapper).dataMapper.readKeys
      (dataMapper.writeKeys keys) = .ok read := reads
  simp only [MessageServiceImpl.indexedKeys, reads', bind, Except.bind, pure,
    Except.pure, Except.ok.injEq] at indexed
  rw [← indexed, List.mem_insert_iff] at member
  rcases member with rfl | listed
  · exact ofService _ (ofService_append "--RESOURCE_KEYS--")
  · exact own key ((same key).mp listed)

/-! ## The calls of one reload -/

/-- The calls that need nothing from the answers before. -/
def Plain (owned : String → Prop) : Call → Prop
  | .set key _ => key = Keys.lock
  | .multiSet _ => False
  | .delete keys => ∀ key ∈ keys, owned key
  | _ => True

theorem Plain.guaranteed {history : ReloadHistory} {call : Call}
    (plain : Plain owned call) :
    (writeContract dataMapper owned).guarantees history call := by
  cases call with
  | set key value => exact .inl plain
  | multiSet values => exact plain.elim
  | delete keys => exact plain
  | _ => trivial

theorem ofService_lock : OfService Keys.lock :=
  ofService_append "--LOCK--"

theorem lock_plain (ofService : ∀ key, OfService key → owned key)
    (yes : Bool) :
    (lock yes).Calls (Plain owned) (fun _ => True) := by
  apply Program.Calls.bind (.perform trivial)
  intro _ _
  refine .tryFinally ?_ (.perform trivial)
  cases yes with
  | false =>
      have own : ∀ key ∈ [Keys.lock], owned key := by
        intro key member
        rw [List.mem_singleton.mp member]
        exact ofService _ ofService_lock
      apply Program.Calls.bind (.perform own)
      intro _ _
      exact .ok trivial
  | true =>
      apply Program.Calls.bind (.perform trivial)
      intro bytes _
      cases bytes with
      | some _ => exact .ok trivial
      | none =>
          have onLock : Plain owned (.set Keys.lock "1".toUTF8) := rfl
          apply Program.Calls.bind (.perform onLock)
          intro _ _
          exact .ok trivial

section Writes

variable {history : ReloadHistory}

/-- Where the index lists owned keys, owned keys are deleted. -/
theorem clear_writes
    {post : Except MessageException Unit → ReloadHistory → Prop}
    (ends : ∀ result after, history <+: after → post result after) :
    (deployed dataMapper).clear.wp (writeContract dataMapper owned).rules post
      history := by
  simp only [MessageServiceImpl.clear, Program.wp_bind, Program.wp_perform]
  refine ⟨trivial, ?_⟩
  intro answer relied
  cases answer with
  | error error => exact ends _ _ (List.prefix_append _ _)
  | ok index =>
      have own : ListsOnly dataMapper owned index := relied rfl index rfl
      simp only [Program.andThen_ok, Program.wp_bind, wp_ofExcept]
      cases indexed : (deployed dataMapper).indexedKeys index with
      | error error => exact ends _ _ (List.prefix_append _ _)
      | ok keys =>
          simp only [Program.andThen_ok, deployed, Bool.false_eq_true,
            if_false, Program.wp_bind, Program.wp_pure]
          cases empty : keys.isEmpty with
          | true => exact ends _ _ (List.prefix_append _ _)
          | false =>
              simp only [Bool.false_eq_true, if_false]
              refine ⟨own keys indexed, ?_⟩
              intro answer _
              refine ends _ _ ?_
              exact (List.prefix_append _ _).trans (List.prefix_append _ _)

theorem loadResource_writes (type : ClientType)
    {post : Except MessageException (OrderedMap String Bytes) →
      ReloadHistory → Prop}
    (ends : ∀ values after, history <+: after →
      FromFiles dataMapper after values → post (.ok values) after)
    (fails : ∀ error after, post (.error error) after) :
    ((deployed dataMapper).loadResource type).wp
      (writeContract dataMapper owned).rules post history := by
  simp only [MessageServiceImpl.loadResource, Program.wp_bind,
    Program.wp_perform]
  refine ⟨trivial, ?_⟩
  intro answer _
  cases answer with
  | error error => exact fails _ _
  | ok files =>
      simp only [Program.andThen_ok, wp_ofExcept]
      cases read : (deployed dataMapper).readResources type files with
      | error error => exact fails _ _
      | ok values =>
          apply ends _ _ (List.prefix_append _ _)
          exact fromFiles_of_read (by simp) read

theorem multiSet_writes {values : OrderedMap String Bytes}
    {post : Except MessageException Unit → ReloadHistory → Prop}
    (fromFiles : FromFiles dataMapper history values)
    (ends : ∀ result after, history <+: after → post result after) :
    (MessageServiceImpl.multiSet values).wp
      (writeContract dataMapper owned).rules post history := by
  unfold MessageServiceImpl.multiSet
  cases empty : values.keys.isEmpty with
  | true => exact ends _ _ List.prefix_rfl
  | false =>
      simp only [Bool.false_eq_true, if_false]
      exact ⟨fromFiles, fun _ _ => ends _ _ (List.prefix_append _ _)⟩

theorem reloadBody_writes (ofService : ∀ key, OfService key → owned key)
    (lawful : dataMapper.Lawful) :
    (writeContract dataMapper owned).Kept (deployed dataMapper).reloadBody
      history := by
  simp only [Contract.Kept, MessageServiceImpl.reloadBody, Program.wp_bind]
  apply clear_writes
  intro cleared _ _
  cases cleared with
  | error error => trivial
  | ok value =>
      simp only [Program.andThen_ok, Program.wp_bind]
      refine loadResource_writes ⟨"mobile", by decide⟩ ?_
        (fun _ _ => trivial)
      intro mobile afterMobile _ mobileFiles
      simp only [Program.andThen_ok, Program.wp_bind]
      refine loadResource_writes ⟨"portal", by decide⟩ ?_
        (fun _ _ => trivial)
      intro portal afterPortal laterPortal portalFiles
      simp only [Program.andThen_ok, Program.wp_bind]
      apply multiSet_writes (mobileFiles.mono laterPortal)
      intro stored afterMobileStored laterStored
      cases stored with
      | error error => trivial
      | ok value =>
          simp only [Program.andThen_ok, Program.wp_bind]
          apply multiSet_writes (portalFiles.mono laterStored)
          intro stored afterStored _
          cases stored with
          | error error => trivial
          | ok value =>
              have own : ∀ key ∈ mobile.keys ∪ portal.keys,
                  owned key := by
                intro key member
                apply ofService
                rcases List.mem_union_iff.mp member with inside | inside
                · exact mobileFiles.ofService inside
                · exact portalFiles.ofService inside
              simp only [Program.andThen_ok, Program.wp_bind]
              refine ⟨.inr ⟨rfl, listsOnly_write ofService lawful own⟩, ?_⟩
              intro indexed _
              cases indexed with
              | error error => trivial
              | ok value => exact ⟨trivial, fun _ _ => trivial⟩

theorem reloadBean_writes (ofService : ∀ key, OfService key → owned key)
    (lawful : dataMapper.Lawful) :
    (writeContract dataMapper owned).Kept (deployed dataMapper).reloadBean
      history := by
  have guaranteed : ∀ (history : ReloadHistory) (call : Call),
      Plain owned call →
      (writeContract dataMapper owned).guarantees history call :=
    fun _ _ plain => plain.guaranteed
  simp only [Contract.Kept, MessageServiceImpl.reloadBean, Program.wp_bind]
  refine Contract.wp_mono
    ((lock_plain ofService true).kept guaranteed history) ?_
  intro locked _ _
  cases locked with
  | error error => trivial
  | ok locked =>
      cases locked with
      | false => trivial
      | true =>
          simp only [Program.andThen_ok, if_true, Program.wp_bind,
            Program.wp_tryFinally]
          refine Contract.wp_mono (reloadBody_writes ofService lawful) ?_
          intro result _ _
          refine Contract.wp_mono
            ((lock_plain ofService false).kept guaranteed _) ?_
          intro unlocked _ _
          cases unlocked <;> cases result <;> trivial

end Writes

end Owned

end SpringTemplate.Message
