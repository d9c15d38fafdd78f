import SpringTemplate.Library.JavaText
import SpringTemplate.Message.Redis

/-!
# The message service

`MessageServiceImpl` keeps the message files of the mobile and the portal
client in Redis and serves them to requests.  The functions below follow the
service's methods call by call: `reloadBean` with `lock`, `clear` and
`loadResource`, and `getResource`.

The JSON mapper comes from a library.  It is a parameter of the service, and
`DataMapper.Lawful` states what the service relies on: that what was written
is read back.
-/

namespace SpringTemplate.Message

namespace Keys

def servicePrefix : String := "MessageService"

def lock : String := servicePrefix ++ "--LOCK--"

def resourceKeys : String := servicePrefix ++ "--RESOURCE_KEYS--"

def languageList : String := servicePrefix ++ "--LANGUAGE_LIST--"

def languageWords : String := servicePrefix ++ "--LANGUAGE_WORDS--"

/-- The key of the messages of one client type in one language. -/
def resource (type language : String) : String :=
  servicePrefix ++ "-" ++ type ++ "-" ++ language

end Keys

structure LanguageOption where
  value : String
  label : String
  deriving DecidableEq, Repr

def activeLanguages : List LanguageOption :=
  [⟨"id", "Bahasa"⟩, ⟨"en", "English"⟩]

def defaultLanguage : String := "id"

/-- The part of the JSON mapper the service uses.  A set of keys is the list
of its members, in an order nobody relies on. -/
structure DataMapper (Node : Type) where
  readKeys : Bytes → Except MessageException (List String)
  writeKeys : List String → Bytes
  readNode : Bytes → Except MessageException Node
  writeNode : Node → Bytes

/-- What is written is read back, up to the order of a set. -/
structure DataMapper.Lawful {Node : Type} (dataMapper : DataMapper Node) :
    Prop where
  readKeys_writeKeys : ∀ keys, ∃ read,
    dataMapper.readKeys (dataMapper.writeKeys keys) = .ok read ∧
      ∀ key, key ∈ read ↔ key ∈ keys
  readNode_writeNode : ∀ node,
    dataMapper.readNode (dataMapper.writeNode node) = .ok node

structure MessageServiceImpl (Node : Type) where
  dataMapper : DataMapper Node
  isMessageImplemented : Bool := false

abbrev ServiceProgram := Program Call Answer MessageException

abbrev send (call : Call) : ServiceProgram (Answer call) :=
  Program.perform call

def ofExcept {α : Type} (result : Except MessageException α) :
    ServiceProgram α :=
  .done result

@[simp] theorem wp_ofExcept {α σ : Type}
    (rules : CallRules Call Answer MessageException σ)
    (result : Except MessageException α)
    (post : Except MessageException α → σ → Prop) (state : σ) :
    (ofExcept result).wp rules post state = post result state := rfl

/-- The body of `lock`, which runs inside the monitor. -/
def lockBody (yes : Bool) : ServiceProgram Bool :=
  if yes then do
    let lockBytes ← send (.get Keys.lock)
    match lockBytes with
    | some _ => pure false
    | none => do
        send (.set Keys.lock "1".toUTF8)
        pure true
  else do
    send (.delete [Keys.lock])
    pure true

/-- `synchronized`: the monitor is released whichever way `body` ends. -/
def synchronized {α : Type} (body : ServiceProgram α) : ServiceProgram α := do
  send .enter
  body.tryFinally (send .exit)

def lock (yes : Bool) : ServiceProgram Bool :=
  synchronized (lockBody yes)

namespace MessageServiceImpl

variable {Node : Type} (service : MessageServiceImpl Node)

/-- The keys of one language's word set after another. -/
def clearWords : List String → List String → ServiceProgram (List String)
  | [], cacheKeys => pure cacheKeys
  | language :: languages, cacheKeys => do
      let vWords ← send (.get (Keys.languageWords ++ "-" ++ language))
      match vWords with
      | none => clearWords languages cacheKeys
      | some bytes => do
          let words ← ofExcept (service.dataMapper.readKeys bytes)
          clearWords languages (cacheKeys ∪ words)

def clearLanguages (cacheKeys : List String) :
    ServiceProgram (List String) := do
  let vLanguages ← send (.get Keys.languageList)
  match vLanguages with
  | none => pure (cacheKeys.insert Keys.languageList)
  | some bytes => do
      let languages ← ofExcept (service.dataMapper.readKeys bytes)
      service.clearWords languages
        (cacheKeys.insert Keys.languageList ∪ languages)

/-- The keys an index value makes `clear` delete. -/
def indexedKeys : Option Bytes → Except MessageException (List String)
  | none => .ok []
  | some bytes => do
      let resources ← service.dataMapper.readKeys bytes
      pure (resources.insert Keys.resourceKeys)

def clear : ServiceProgram Unit := do
  let vResources ← send (.get Keys.resourceKeys)
  let cacheKeys ← ofExcept (service.indexedKeys vResources)
  let cacheKeys ←
    if service.isMessageImplemented then service.clearLanguages cacheKeys
    else pure cacheKeys
  if cacheKeys.isEmpty then pure ()
  else send (.delete cacheKeys)

/-- One file of `loadResource`: check that it is JSON and store it. -/
def readResource (type : String) (map : OrderedMap String Bytes)
    (resource : Resource) :
    Except MessageException (OrderedMap String Bytes) := do
  let language := JavaText.replace resource.filename ".json" ""
  let bytes ← resource.content
  let ckey := Keys.resource type language
  let node ← service.dataMapper.readNode bytes
  pure (map.put ckey (service.dataMapper.writeNode node))

def readResources (type : String) (resources : List Resource) :
    Except MessageException (OrderedMap String Bytes) :=
  resources.foldlM (service.readResource type) OrderedMap.empty

def loadResource (type : String) :
    ServiceProgram (OrderedMap String Bytes) := do
  let resources ← send (.getResources type)
  ofExcept (service.readResources type resources)

/-- Spring's `multiSet` sends no command for an empty map. -/
def multiSet (values : OrderedMap String Bytes) : ServiceProgram Unit :=
  if values.keys.isEmpty then pure ()
  else send (.multiSet values)

/-- The part of `reloadBean` between `lock(true)` and `lock(false)`. -/
def reloadBody : ServiceProgram Unit := do
  service.clear
  let mobile ← service.loadResource "mobile"
  let portal ← service.loadResource "portal"
  multiSet mobile
  multiSet portal
  let bytes := service.dataMapper.writeKeys (mobile.keys ∪ portal.keys)
  send (.set Keys.resourceKeys bytes)
  send .loadMessage

def reloadBean : ServiceProgram Bool := do
  let locked ← lock true
  if locked then do
    service.reloadBody.tryFinally (do
      let _ ← lock false
      pure ())
    pure true
  else pure false

/-- The answer of `getResource`.  The JSON object has a `message` node only
when Redis holds messages for the request's language. -/
structure ResourceAnswer (Node : Type) where
  languages : List LanguageOption
  active : String
  message : Option Node

def getRequestLanguage (requested : Option String) : String :=
  requested.getD defaultLanguage

/-- The language `setRequestLanguage` makes of the request's header. -/
def setRequestLanguage (header : String) : String :=
  if activeLanguages.any (fun option => option.value = header) then header
  else defaultLanguage

def getResource (requested : Option String) (type : String) :
    ServiceProgram (ResourceAnswer Node) := do
  let language := getRequestLanguage requested
  let bytes ← send (.get (Keys.resource type language))
  match bytes with
  | none =>
      pure { languages := activeLanguages, active := language, message := none }
  | some bytes => do
      let message ← ofExcept (service.dataMapper.readNode bytes)
      pure { languages := activeLanguages, active := language,
             message := some message }

end MessageServiceImpl

end SpringTemplate.Message
