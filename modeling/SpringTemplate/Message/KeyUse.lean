import SpringTemplate.Library.CallBounds
import SpringTemplate.Message.KeySpace
import SpringTemplate.Message.Served

/-!
# Which keys are used for what

A message code only ever becomes a word key in the language of the request,
and the name of a message file only a resource key.  As no two keys have the
same text, neither can reach the lock, an index or the words of another
language.
-/

namespace SpringTemplate.Message

open Program

/-- The keys a call reads, writes or deletes. -/
def Call.keys : Call → List String
  | .get key => [key]
  | .multiGet keys => keys
  | .set key _ => [key]
  | .multiSet values => values.keys
  | .delete keys => keys
  | _ => []

/-- The keys a call stores many values under at once. -/
def Call.stored : Call → List String
  | .multiSet values => values.keys
  | _ => []

/-- The call touches no keys of the service but words of the language. -/
def OnlyWordsOf (language : ActiveLanguage) (call : Call) : Prop :=
  ∀ key : ServiceKey, key.text ∈ call.keys → ∃ code, key = .word language code

/-- The call touches no keys of the service but resources of the language. -/
def OnlyResourcesOf (language : ActiveLanguage) (call : Call) : Prop :=
  ∀ key : ServiceKey, key.text ∈ call.keys →
    ∃ type, key = .resource type language

/-- A call that stores many values stores resources only. -/
def StoresResources (call : Call) : Prop :=
  ∀ key : ServiceKey, key.text ∈ call.stored →
    ∃ type language, key = .resource type language

/-- What the request's context holds once `setRequestLanguage` has seen the
header, if it has. -/
def languageAttribute (header : Option String) : Option String :=
  header.map MessageServiceImpl.setRequestLanguage

theorem setRequestLanguage_active (header : String) :
    MessageServiceImpl.setRequestLanguage header ∈
      activeLanguages.map LanguageOption.value := by
  rw [MessageServiceImpl.setRequestLanguage]
  split
  · rename_i active
    obtain ⟨option, member, same⟩ := List.any_eq_true.mp active
    exact List.mem_map.mpr ⟨option, member, of_decide_eq_true same⟩
  · decide

/-- The language of a request is active, whatever its header. -/
def requestLanguage (header : Option String) : ActiveLanguage where
  val := MessageServiceImpl.getRequestLanguage (languageAttribute header)
  property := by
    cases header with
    | none => decide
    | some header => exact setRequestLanguage_active header

/-! ## Codes -/

section Codes

variable {Node : Type} (service : MessageServiceImpl Node)
  (charset : Charset) (header : Option String)

theorem getKeyCode_text (language : ActiveLanguage) (code : Option String) :
    MessageServiceImpl.getKeyCode language code =
      (ServiceKey.word language (orNull code)).text := by
  cases code <;> rfl

theorem onlyWordsOf_get (code : Option String) :
    OnlyWordsOf (requestLanguage header)
      (.get (MessageServiceImpl.getKeyCode (requestLanguage header) code)) := by
  intro key member
  have same := List.mem_singleton.mp member
  rw [getKeyCode_text] at same
  exact ⟨_, ServiceKey.text_injective same⟩

theorem onlyWordsOf_multiGet (codes : List (Option String)) :
    OnlyWordsOf (requestLanguage header)
      (.multiGet (codes.map
        (MessageServiceImpl.getKeyCode (requestLanguage header)))) := by
  intro key member
  obtain ⟨code, _, same⟩ := List.mem_map.mp member
  rw [getKeyCode_text] at same
  exact ⟨_, ServiceKey.text_injective same.symm⟩

theorem getWord_keys (code : Option String) :
    (MessageServiceImpl.getWord charset (languageAttribute header) code).Calls
      (OnlyWordsOf (requestLanguage header)) (fun _ => True) := by
  cases code with
  | none => exact .ok trivial
  | some text =>
      apply Calls.bind (.perform (onlyWordsOf_get header (some text)))
      intro value _
      cases value <;> exact .ok trivial

theorem getList_keys (codes : Option (List (Option String))) :
    (service.getList charset (languageAttribute header) codes).Calls
      (OnlyWordsOf (requestLanguage header)) (fun _ => True) := by
  unfold MessageServiceImpl.getList
  split
  · rcases codes with _ | _ | ⟨code, codes⟩
    · exact .ok trivial
    · exact .ok trivial
    · apply Calls.bind (.perform (onlyWordsOf_multiGet header _))
      intro values _
      cases values with
      | none => exact .ok trivial
      | some values =>
          dsimp only
          split
          · exact .result (fun _ _ => trivial)
          · exact .ok trivial
  · exact .ok trivial

theorem getMap_keys (codes : Option (List (Option String))) :
    (service.getMap charset (languageAttribute header) codes).Calls
      (OnlyWordsOf (requestLanguage header)) (fun _ => True) := by
  cases codes with
  | none => exact .ok trivial
  | some codes =>
      apply Calls.bind (getList_keys service charset header (some codes))
      intro words _
      split <;> exact .ok trivial

theorem getText_keys (code : Option String) (checkArgs : Bool)
    (args : Option (List (Option String))) :
    (service.getText charset (languageAttribute header) code checkArgs
      args).Calls (OnlyWordsOf (requestLanguage header)) (fun _ => True) := by
  unfold MessageServiceImpl.getText
  split
  · cases code with
    | none => exact .ok trivial
    | some text =>
        dsimp only
        split
        · cases args with
          | none => exact getWord_keys charset header (some text)
          | some args =>
              apply Calls.bind
                (getList_keys service charset header (some (some text :: args)))
              intro words _
              cases words with
              | nil => exact .result (fun _ same => nomatch same)
              | cons word words =>
                  dsimp only
                  split
                  · exact .result (fun _ _ => trivial)
                  · exact .ok trivial
        · apply Calls.bind (getWord_keys charset header (some text))
          intro word _
          cases args <;> exact .ok trivial
  · exact .ok trivial

end Codes

/-! ## Files -/

section Files

variable {Node : Type} (service : MessageServiceImpl Node)

theorem getResource_keys (header : Option String) (type : ClientType) :
    (service.getResource (languageAttribute header) type).Calls
      (OnlyResourcesOf (requestLanguage header)) (fun _ => True) := by
  have permitted : OnlyResourcesOf (requestLanguage header)
      (.get (Keys.resource type (requestLanguage header))) := by
    intro key member
    have same := List.mem_singleton.mp member
    exact ⟨type, ServiceKey.text_injective same⟩
  apply Calls.bind (.perform permitted)
  intro value _
  cases value with
  | none => exact .ok trivial
  | some bytes =>
      apply Calls.bind (.result (fun _ _ => trivial))
      intro message _
      exact .ok trivial

theorem send_plain {call : Call} (stored : call.stored = []) :
    (send call).Calls StoresResources (fun _ => True) := by
  apply Calls.perform
  intro key member
  rw [stored] at member
  cases member

theorem lock_keys (yes : Bool) :
    (lock yes).Calls StoresResources (fun _ => True) := by
  apply Calls.bind (send_plain rfl)
  intro _ _
  refine .tryFinally ?_ (send_plain rfl)
  cases yes with
  | false =>
      apply Calls.bind (send_plain rfl)
      intro _ _
      exact .ok trivial
  | true =>
      apply Calls.bind (send_plain rfl)
      intro bytes _
      cases bytes with
      | some _ => exact .ok trivial
      | none =>
          apply Calls.bind (send_plain rfl)
          intro _ _
          exact .ok trivial

theorem clearWords_keys (languages cacheKeys : List String) :
    (service.clearWords languages cacheKeys).Calls StoresResources
      (fun _ => True) := by
  induction languages generalizing cacheKeys with
  | nil => exact .ok trivial
  | cons language languages induction =>
      apply Calls.bind (send_plain rfl)
      intro vWords _
      cases vWords with
      | none => exact induction cacheKeys
      | some bytes =>
          apply Calls.bind (.result (fun _ _ => trivial))
          intro words _
          exact induction (cacheKeys ∪ words)

theorem clearLanguages_keys (cacheKeys : List String) :
    (service.clearLanguages cacheKeys).Calls StoresResources
      (fun _ => True) := by
  apply Calls.bind (send_plain rfl)
  intro vLanguages _
  cases vLanguages with
  | none => exact .ok trivial
  | some bytes =>
      apply Calls.bind (.result (fun _ _ => trivial))
      intro languages _
      exact clearWords_keys service languages _

theorem clear_keys :
    service.clear.Calls StoresResources (fun _ => True) := by
  have deleted : ∀ keys : List String,
      (if keys.isEmpty then pure () else send (.delete keys) :
        ServiceProgram Unit).Calls StoresResources (fun _ => True) := by
    intro keys
    split
    · exact .ok trivial
    · exact send_plain rfl
  apply Calls.bind (send_plain rfl)
  intro vResources _
  apply Calls.bind (.result (fun _ _ => trivial))
  intro cacheKeys _
  dsimp only
  split
  · apply Calls.bind (clearLanguages_keys service cacheKeys)
    intro keys _
    exact deleted keys
  · exact deleted cacheKeys

/-- The keys are resource keys of the type. -/
def ResourceKeys (type : ClientType) (values : OrderedMap String Bytes) :
    Prop :=
  ∀ key ∈ values.keys, ∃ language, key = Keys.resource type language

theorem loadResource_keys (type : ClientType) :
    (service.loadResource type).Calls StoresResources
      (ResourceKeys type) := by
  apply Calls.bind (send_plain rfl)
  intro resources _
  apply Calls.result
  intro values read key member
  obtain ⟨bytes, stored⟩ := (values.mem_keys_iff key).mp member
  have formed : LoadedEntry service.dataMapper type key bytes :=
    foldlM_readResource_entries (by simp) read key bytes stored
  exact formed.1

theorem multiSet_keys {type : ClientType} {values : OrderedMap String Bytes}
    (keys : ResourceKeys type values) :
    (MessageServiceImpl.multiSet values).Calls StoresResources
      (fun _ => True) := by
  rw [MessageServiceImpl.multiSet]
  split
  · exact .ok trivial
  · apply Calls.perform
    intro key member
    obtain ⟨language, same⟩ := keys key.text member
    exact ⟨type, language, ServiceKey.text_injective same⟩

theorem reloadBody_keys :
    service.reloadBody.Calls StoresResources (fun _ => True) := by
  apply Calls.bind (clear_keys service)
  intro _ _
  apply Calls.bind (loadResource_keys service ⟨"mobile", by decide⟩)
  intro mobile mobileKeys
  apply Calls.bind (loadResource_keys service ⟨"portal", by decide⟩)
  intro portal portalKeys
  apply Calls.bind (multiSet_keys mobileKeys)
  intro _ _
  apply Calls.bind (multiSet_keys portalKeys)
  intro _ _
  apply Calls.bind (send_plain rfl)
  intro _ _
  exact send_plain rfl

theorem reloadBean_keys :
    service.reloadBean.Calls StoresResources (fun _ => True) := by
  apply Calls.bind (lock_keys true)
  intro locked _
  split
  · have unlock : (do let _ ← lock false; pure () : ServiceProgram Unit).Calls
        StoresResources (fun _ => True) := by
      apply Calls.bind (lock_keys false)
      intro _ _
      exact .ok trivial
    apply Calls.bind (.tryFinally (reloadBody_keys service) unlock)
    intro _ _
    exact .ok trivial
  · exact .ok trivial

end Files

/-- Different keys have different texts; a code reaches only words in the
language of the request, and a file only resources. -/
theorem service_keys_apart {Node : Type} (service : MessageServiceImpl Node)
    (charset : Charset) :
    Function.Injective ServiceKey.text ∧
    (∀ header code checkArgs args,
      (service.getText charset (languageAttribute header) code checkArgs
        args).Calls (OnlyWordsOf (requestLanguage header)) (fun _ => True)) ∧
    (∀ header codes,
      (service.getList charset (languageAttribute header) codes).Calls
          (OnlyWordsOf (requestLanguage header)) (fun _ => True) ∧
        (service.getMap charset (languageAttribute header) codes).Calls
          (OnlyWordsOf (requestLanguage header)) (fun _ => True)) ∧
    (∀ header (type : ClientType),
      (service.getResource (languageAttribute header) type).Calls
        (OnlyResourcesOf (requestLanguage header)) (fun _ => True)) ∧
    service.reloadBean.Calls StoresResources (fun _ => True) := by
  refine ⟨ServiceKey.text_injective, ?_, ?_, ?_, reloadBean_keys service⟩
  · intro header code checkArgs args
    exact getText_keys service charset header code checkArgs args
  · intro header codes
    exact ⟨getList_keys service charset header codes,
      getMap_keys service charset header codes⟩
  · intro header type
    exact getResource_keys service header type

end SpringTemplate.Message
