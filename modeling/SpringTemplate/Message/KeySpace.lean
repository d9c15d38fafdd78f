import SpringTemplate.Library.Naming
import SpringTemplate.Message.Words

/-!
# The key space of the service

All keys of the service are spelled with hyphens between their parts.  A file
name or a code is always the last part, so that its own hyphens do no harm;
the parts before it are client types and active languages, which have none.
-/

namespace SpringTemplate.Message

def clientTypes : List String := ["mobile", "portal"]

abbrev ClientType := { type : String // type ∈ clientTypes }

abbrev ActiveLanguage :=
  { language : String // language ∈ activeLanguages.map LanguageOption.value }

/-- The keys by what they are for.  A resource key has the language name of a
file, a word key the code of a message, and both may be any text. -/
inductive ServiceKey where
  | lock
  | resourceKeys
  | languageList
  | languageWords (language : String)
  | resource (type : ClientType) (language : String)
  | word (language : ActiveLanguage) (code : String)
  deriving DecidableEq

namespace ServiceKey

def text : ServiceKey → String
  | .lock => Keys.lock
  | .resourceKeys => Keys.resourceKeys
  | .languageList => Keys.languageList
  | .languageWords language => Keys.languageWords ++ "-" ++ language
  | .resource type language => Keys.resource type language
  | .word language code =>
      MessageServiceImpl.getKeyCode language (some code)

/-- The parts of a key before a hyphen. -/
def parts : ServiceKey → List String
  | .lock => [Keys.servicePrefix, "", "LOCK"]
  | .resourceKeys => [Keys.servicePrefix, "", "RESOURCE_KEYS"]
  | .languageList => [Keys.servicePrefix, "", "LANGUAGE_LIST"]
  | .languageWords _ => [Keys.servicePrefix, "", "LANGUAGE_WORDS"]
  | .resource type _ => [Keys.servicePrefix, type]
  | .word language _ => [Keys.servicePrefix, "language", language]

def lastPart : ServiceKey → String
  | .lock => "-"
  | .resourceKeys => "-"
  | .languageList => "-"
  | .languageWords language => "--" ++ language
  | .resource _ language => language
  | .word _ code => code

end ServiceKey

/-- A client type is one part, and not the part that begins other keys. -/
theorem clientTypes_part : ∀ type ∈ clientTypes,
    '-' ∉ type.toList ∧ type ≠ "" ∧ type ≠ "language" := by
  decide

theorem activeLanguages_part :
    ∀ language ∈ activeLanguages.map LanguageOption.value,
      '-' ∉ language.toList := by
  decide

namespace ServiceKey

theorem parts_closed (key : ServiceKey) :
    ∀ part ∈ key.parts, '-' ∉ part.toList := by
  have closed : ∀ part ∈ [Keys.servicePrefix, "", "LOCK", "RESOURCE_KEYS",
      "LANGUAGE_LIST", "LANGUAGE_WORDS", "language"],
      '-' ∉ part.toList := by
    decide
  simp only [List.forall_mem_cons] at closed
  cases key with
  | resource type language =>
      have typeClosed := (clientTypes_part type type.property).1
      simp [parts, closed, typeClosed]
  | word language code =>
      have languageClosed := activeLanguages_part language language.property
      simp [parts, closed, languageClosed]
  | _ => simp [parts, closed]

/-- The parts of a key do not begin those of another kind. -/
theorem parts_apart {key other : ServiceKey}
    (front : key.parts <+: other.parts) : key.parts = other.parts := by
  cases key with
  | resource type language =>
      have notOther := (clientTypes_part type type.property).2
      cases other <;> simp_all [parts]
  | _ => cases other <;> simp_all [parts]

theorem eq_of_parts {key other : ServiceKey}
    (sameParts : key.parts = other.parts)
    (sameLast : key.lastPart = other.lastPart) : key = other := by
  cases key <;> cases other <;> simp_all [parts, lastPart, Subtype.ext_iff]

end ServiceKey

/-- The parts of a key as fields closed by hyphens. -/
def serviceNaming : Naming ServiceKey Char where
  separator := '-'
  fields key := key.parts.map String.toList
  rest key := key.lastPart.toList
  closed := by
    intro key field member
    obtain ⟨part, inside, rfl⟩ := List.mem_map.mp member
    exact key.parts_closed part inside

theorem serviceNaming_text (key : ServiceKey) :
    serviceNaming.text key = key.text.toList := by
  cases key <;>
    simp [Naming.text, serviceNaming, spell, ServiceKey.parts,
      ServiceKey.lastPart, ServiceKey.text, Keys.lock, Keys.resourceKeys,
      Keys.languageList, Keys.languageWords, Keys.resource,
      MessageServiceImpl.getKeyCode, orNull]

theorem serviceNaming_apart : serviceNaming.Apart where
  fields := by
    intro key other front
    have parts := (List.prefix_map_iff_of_injective
      (fun _ _ => String.toList_inj.mp)).mp front
    exact congrArg (List.map String.toList) (ServiceKey.parts_apart parts)
  known := by
    intro key other sameFields sameRest
    apply ServiceKey.eq_of_parts
    · exact List.map_injective_iff.mpr (fun _ _ => String.toList_inj.mp)
        sameFields
    · exact String.toList_inj.mp sameRest

/-- Keys with the same text are the same key. -/
theorem ServiceKey.text_injective : Function.Injective ServiceKey.text := by
  intro key other same
  apply serviceNaming_apart.text_injective
  rw [serviceNaming_text, serviceNaming_text, same]

end SpringTemplate.Message
