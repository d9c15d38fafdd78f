import SpringTemplate.Message.SerialReloads

/-!
# What reloads on many instances leave

Between two reloads the index names every resource key and the messages are
those of the reload that came last, however many instances have reloaded
side by side.  A serial order carries this over from reloads of a single
instance.
-/

namespace SpringTemplate.Message

variable {Node ι Instance : Type} {dataMapper : DataMapper Node}
  {directories : Directories}

/-- A reload that has sent files to Redis has had its index written. -/
def WritesIndex (history : ReloadHistory) : Prop :=
  ∀ values answer, ⟨.multiSet values, answer⟩ ∈ history →
    ∃ bytes, ⟨.set Keys.resourceKeys bytes, .ok ()⟩ ∈ history

/-- One instance reloads once for each reload of an order, one after another,
with its files, and is answered and ends as that reload has in the pool. -/
inductive ReloadsAs (deployment : Deployment ι Instance)
    (dataMapper : DataMapper Node) (pool : ReloadPool ι Instance)
    (first : Redis) : List ι → List ReloadCall → Redis → Prop where
  | nil : ReloadsAs deployment dataMapper pool first [] [] first
  | snoc {order : List ι} {calls : List ReloadCall} {before : Redis} (i : ι)
      (call : ReloadCall) :
      ReloadsAs deployment dataMapper pool first order calls before →
      call.directories = deployment.directories i →
      (environment call.directories).Ends (fun _ _ => True)
        (Environment.start before) (deployed dataMapper).reloadBean
        call.result call.trace →
      pool.rest i = .done call.result →
      pool.history i =
        (environment call.directories).answers before call.trace.events →
      ReloadsAs deployment dataMapper pool first (order ++ [i])
        (calls ++ [call]) call.trace.state

section ReloadsAs

variable {deployment : Deployment ι Instance} {redis last : Redis}
  {pool : ReloadPool ι Instance} {order : List ι} {calls : List ReloadCall}

theorem ReloadsAs.reloads
    (runs : ReloadsAs deployment dataMapper pool redis order calls last) :
    Reloads dataMapper redis calls last := by
  induction runs with
  | nil => exact .nil
  | snoc i call _ _ ends _ _ induction => exact .snoc call induction ends

/-- The reload that came last. -/
theorem ReloadsAs.latest {earlier : List ι} {i : ι}
    (runs : ReloadsAs deployment dataMapper pool redis (earlier ++ [i]) calls
      last) :
    ∃ call ∈ calls, call.directories = deployment.directories i ∧
      pool.rest i = .done call.result ∧ last = call.trace.state := by
  generalize whole : earlier ++ [i] = order at runs
  cases runs with
  | nil => simp at whole
  | snoc j call _ files _ ended _ =>
      obtain ⟨_, tail⟩ := List.append_inj' whole rfl
      cases tail
      exact ⟨call, by simp, files, ended, rfl⟩

/-- An order of reloads that have ended is a history of one instance. -/
theorem Ordered.reloadsAs [DecidableEq Instance]
    (ordered : Ordered deployment dataMapper redis pool order)
    (ended : ∀ i ∈ order, ∃ result, pool.rest i = .done result) :
    ∃ calls, ReloadsAs deployment dataMapper pool redis order calls
      pool.state.redis := by
  have serial := ordered.serial
  clear ordered
  generalize pool.state.redis = last at serial
  induction serial with
  | nil => exact ⟨[], .nil⟩
  | @snoc earlier before trace i _ runs answered induction =>
      obtain ⟨calls, reloads⟩ := induction
        (fun j member => ended j (List.mem_append_left _ member))
      obtain ⟨result, done⟩ := ended i (by simp)
      rw [done] at runs
      exact ⟨calls ++ [⟨deployment.directories i, result, trace⟩],
        .snoc i ⟨deployment.directories i, result, trace⟩ reloads rfl
          (runs.mono fun _ _ _ => trivial) done answered.symm⟩

end ReloadsAs

/-- Reloads kept apart that have ended have done what one instance does that
reloads once for each of them that has written the lock, one after another,
with their files, their answers and their results. -/
theorem reloads_serial [DecidableEq ι] [DecidableEq Instance]
    {deployment : Deployment ι Instance} {redis : Redis}
    {pool : ReloadPool ι Instance}
    (reached : deployment.careful.Reaches
      (Deployment.start dataMapper redis) pool)
    (ended : ∀ i, Entered (pool.history i) →
      ∃ result, pool.rest i = .done result) :
    ∃ order calls, order.Nodup ∧
      (∀ i, i ∈ order ↔ Entered (pool.history i)) ∧
      ReloadsAs deployment dataMapper pool redis order calls
        pool.state.redis ∧
      Reloads dataMapper redis calls pool.state.redis := by
  obtain ⟨order, ordered⟩ := ordered_of_careful reached
  obtain ⟨calls, runs⟩ := ordered.reloadsAs
    (fun i member => ended i ((ordered.entered i).mp member))
  exact ⟨order, calls, ordered.nodup, ordered.entered, runs, runs.reloads⟩

/-! ## Two reloads with a file each -/

/-- The second begins before the first and finds the lock absent only when the
first has deleted it. -/
theorem servingInstances_reload :
    ∃ pool, servingInstances.careful.Reaches
        (Deployment.start textMapper noKeys) pool ∧
      (∀ i, pool.rest i = .done (.ok true)) ∧
      (∀ i, Entered (pool.history i)) ∧
      (∀ i, WritesIndex (pool.history i)) ∧
      pool.state.redis (Keys.resource "mobile" "id") = none ∧
      pool.state.redis (Keys.resource "mobile" "en") =
        some (textMapper.writeNode "Hello") := by
  refine ⟨_,
    .next true (answered _) rfl ⟨rfl, trivial⟩ (fun _ => rfl) <|
    .next false (answered _) rfl ⟨rfl, trivial⟩ (fun _ => rfl) <|
    .next false (answered _) rfl ⟨trivial, trivial⟩ (fun _ => rfl) <|
    .next false (answered _) rfl ⟨trivial, fun _ => rfl⟩ (fun _ => rfl) <|
    .next false (answered _) rfl ⟨trivial, trivial⟩ (fun _ => rfl) <|
    .next false (answered _) rfl ⟨trivial, trivial⟩ (fun _ => rfl) <|
    .next false (answered _) rfl ⟨trivial, trivial⟩ (fun _ => rfl) <|
    .next false (answered _) rfl ⟨trivial, trivial⟩ (fun _ => rfl) <|
    .next false (answered _) rfl ⟨trivial, trivial⟩ (fun _ => rfl) <|
    .next false (answered _) rfl ⟨trivial, fun same =>
      absurd same.symm Keys.lock_ne_resourceKeys⟩ (fun _ => rfl) <|
    .next false (answered _) rfl ⟨trivial, trivial⟩ (fun _ => rfl) <|
    .next false (answered _) rfl ⟨rfl, trivial⟩ (fun _ => rfl) <|
    .next false (answered _) rfl ⟨trivial, fun _ => rfl⟩ (fun _ => rfl) <|
    .next true (answered _) rfl ⟨trivial, trivial⟩ (fun _ => rfl) <|
    .next true (answered _) rfl ⟨trivial, fun _ => rfl⟩ (fun _ => rfl) <|
    .next false (answered _) rfl ⟨trivial, trivial⟩ (fun _ => rfl) <|
    .next true (answered _) rfl ⟨trivial, trivial⟩ (fun _ => rfl) <|
    .next true (answered _) rfl ⟨trivial, trivial⟩ (fun _ => rfl) <|
    .next true (answered _) rfl ⟨trivial, fun member =>
      absurd member (by decide)⟩ (fun _ => rfl) <|
    .next true (answered _) rfl ⟨trivial, trivial⟩ (fun _ => rfl) <|
    .next true (answered _) rfl ⟨trivial, trivial⟩ (fun _ => rfl) <|
    .next true (answered _) rfl ⟨trivial, trivial⟩ (fun _ => rfl) <|
    .next true (answered _) rfl ⟨trivial, fun same =>
      absurd same.symm Keys.lock_ne_resourceKeys⟩ (fun _ => rfl) <|
    .next true (answered _) rfl ⟨trivial, trivial⟩ (fun _ => rfl) <|
    .next true (answered _) rfl ⟨rfl, trivial⟩ (fun _ => rfl) <|
    .next true (answered _) rfl ⟨trivial, fun _ => rfl⟩ (fun _ => rfl) <|
    .next true (answered _) rfl ⟨trivial, trivial⟩ (fun _ => rfl) .refl,
    ?_, ?_, ?_, ?_, ?_⟩
  · rintro (_ | _) <;> rfl
  · rintro (_ | _)
    · exact ⟨_, List.mem_of_getElem? (i := 2) rfl⟩
    · exact ⟨_, List.mem_of_getElem? (i := 2) rfl⟩
  · rintro (_ | _) _ _ _
    · exact ⟨_, List.mem_of_getElem? (i := 8) rfl⟩
    · exact ⟨_, List.mem_of_getElem? (i := 9) rfl⟩
  · rfl
  · rfl

/-- Both reloads are in the order, and the file of the second is served. -/
theorem servingInstances_serial :
    ∃ pool, servingInstances.careful.Reaches
        (Deployment.start textMapper noKeys) pool ∧
      answerOf textMapper pool.state.redis (some "en") "mobile" =
        .ok (answerWith (some "en") (some "Hello")) ∧
      ∃ order calls, order.Nodup ∧ false ∈ order ∧ true ∈ order ∧
        ReloadsAs servingInstances textMapper pool noKeys order calls
          pool.state.redis ∧
        Reloads textMapper noKeys calls pool.state.redis := by
  obtain ⟨pool, reached, done, entered, _, _, stored⟩ :=
    servingInstances_reload
  obtain ⟨order, calls, nodup, members, runs, reloads⟩ :=
    reloads_serial reached (fun i _ => ⟨_, done i⟩)
  have served : pool.state.redis (requestedKey (some "en") "mobile") =
      some (textMapper.writeNode "Hello") := stored
  refine ⟨pool, reached, ?_, order, calls, nodup, (members _).mpr (entered _),
    (members _).mpr (entered _), runs, reloads⟩
  rw [answerOf_present served, TextMapper.readNode_writeNode]
  rfl

/-! ## Between two reloads -/

end SpringTemplate.Message
