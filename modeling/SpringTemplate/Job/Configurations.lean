import SpringTemplate.Library.LastWins
import SpringTemplate.Job.Calls

/-!
# The configurations of a trigger

The stored key of a configuration row has the trigger, the type and the
parameter name; the configurations of a returned trigger are kept by the
parameter name alone, and neither query asks for the type.  A row of another
type is therefore attached like a row of the trigger's own type.
-/

namespace SpringTemplate.Job

open JobServiceImpl

/-- What the row of the trigger, its own type and the name holds. -/
def JobTables.ownConfiguration (tables : JobTables) (trigger : JobTrigger)
    (parameterName : String) : Option Configuration :=
  (tables.configurations.find? (fun row =>
    row.id = ⟨trigger.triggerId, trigger.typeId, parameterName⟩)).map
    (fun row => { value := row.value, bytes := row.bytes })

/-- The returned trigger has exactly the configurations of its own type. -/
def OwnAttached (tables : JobTables) (returned : JobTriggerDto) : Prop :=
  ∀ parameterName, returned.configurations.get? parameterName =
    tables.ownConfiguration returned.properties parameterName

/-- However the rows are ordered, `getTrigger` attaches the trigger's own
configurations. -/
def SingleOwn (tables : JobTables) (trigger : JobTrigger) : Prop :=
  ∀ result, TriggerCall tables tables (some trigger.triggerId) (some true)
      result →
    ∃ returned, result = .ok (some returned) ∧
      returned.properties = trigger ∧ OwnAttached tables returned

/-- The same for `getGroupsAndTriggers`. -/
def GroupedOwn (tables : JobTables) (instanceId : Option String)
    (isActive : Option Bool) (groupIds : Option (List (Option String)))
    (trigger : JobTrigger) : Prop :=
  ∀ result, GroupsCall tables tables instanceId isActive groupIds (some true)
      result →
    ∃ groups, result = .ok groups ∧
      ∀ entry ∈ groups, ∀ returned ∈ entry.triggers,
        returned.properties = trigger → OwnAttached tables returned

/-- Every configuration row of the trigger under another type repeats the row
of the trigger's own type with that parameter name. -/
def Undisturbed (tables : JobTables) (trigger : JobTrigger) : Prop :=
  ∀ row ∈ tables.configurations, row.id.triggerId = trigger.triggerId →
    row.id.typeId ≠ trigger.typeId →
    ∃ own ∈ tables.configurations,
      own.id = ⟨trigger.triggerId, trigger.typeId, row.id.parameterName⟩ ∧
        own.value = row.value ∧ own.bytes = row.bytes

instance (tables : JobTables) (trigger : JobTrigger) :
    Decidable (Undisturbed tables trigger) :=
  inferInstanceAs (Decidable (∀ row ∈ tables.configurations, _ → _ → _))

namespace JobDatabase

variable (db : JobDatabase) {trigger : JobTrigger}

theorem ownConfiguration_eq {own : JobTriggerConfiguration}
    (member : own ∈ db.configurations) {parameterName : String}
    (key : own.id = ⟨trigger.triggerId, trigger.typeId, parameterName⟩) :
    db.ownConfiguration trigger parameterName =
      some { value := own.value, bytes := own.bytes } := by
  rw [JobTables.ownConfiguration, ← List.head?_filter, ← key,
    KeyedTable.filter_key_of_member db.configurations_nodup member]
  rfl

theorem ownConfiguration_some {parameterName : String}
    {value : Configuration}
    (found : db.ownConfiguration trigger parameterName = some value) :
    ∃ own ∈ db.configurations,
      own.id = ⟨trigger.triggerId, trigger.typeId, parameterName⟩ ∧
        { value := own.value, bytes := own.bytes } = value := by
  obtain ⟨own, here, same⟩ := Option.map_eq_some_iff.mp found
  have key := List.find?_some here
  exact ⟨own, List.mem_of_find?_eq_some here, of_decide_eq_true key, same⟩

/-- Configuration rows read in any order leave the trigger with its own rows
if and only if no row of another type disturbs them. -/
theorem lastConfiguration_own_iff {read : List JobTriggerConfiguration}
    (stored : read ⊆ db.configurations)
    (complete : ∀ row ∈ db.configurations,
      row.id.triggerId = trigger.triggerId → row ∈ read) :
    (∀ order : List JobTriggerConfiguration, order.Perm read →
      ∀ parameterName,
        lastConfiguration order trigger.triggerId parameterName =
          db.ownConfiguration trigger parameterName) ↔
      Undisturbed db.toJobTables trigger := by
  constructor
  · intro fixed row member ofTrigger _
    have agree := (getLast?_filter_perm_iff.mp (fun order perm =>
      fixed order perm row.id.parameterName)).1 row
        (complete row member ofTrigger) (by simp [ofTrigger])
    obtain ⟨own, stored, key, same⟩ := db.ownConfiguration_some agree
    injection same with sameValue sameBytes
    exact ⟨own, stored, key, sameValue, sameBytes⟩
  · intro undisturbed order perm parameterName
    refine getLast?_filter_perm_iff.mpr ⟨?_, ?_⟩ order perm
    · intro row member qualifies
      obtain ⟨ofTrigger, named⟩ := of_decide_eq_true qualifies
      have inDatabase := stored member
      by_cases ownType : row.id.typeId = trigger.typeId
      · apply db.ownConfiguration_eq inDatabase
        rw [← ofTrigger, ← ownType, ← named]
      · obtain ⟨own, ownMember, key, sameValue, sameBytes⟩ :=
          undisturbed row inDatabase ofTrigger ownType
        rw [← sameValue, ← sameBytes]
        apply db.ownConfiguration_eq ownMember
        rw [key, named]
    · intro unqualified
      rw [Option.eq_none_iff_forall_ne_some]
      intro value found
      obtain ⟨own, member, key, _⟩ := db.ownConfiguration_some found
      have ofTrigger : own.id.triggerId = trigger.triggerId := by
        rw [key]
      have absent := unqualified own (complete own member ofTrigger)
      simp [key] at absent

/-! ## The two calls -/

section Attached

variable {row : JobRow} {order : List JobTriggerConfiguration}

theorem ownAttached_iff {returned : JobTriggerDto}
    (sameTrigger : returned.properties = trigger)
    (attached : ∀ parameterName,
      returned.configurations.get? parameterName =
        lastConfiguration order trigger.triggerId parameterName) :
    OwnAttached db.toJobTables returned ↔
      ∀ parameterName,
        lastConfiguration order trigger.triggerId parameterName =
          db.ownConfiguration trigger parameterName := by
  simp only [OwnAttached, attached, sameTrigger]

theorem singleTrigger_attached
    (perm : order.Perm (db.configurationRowsById (some trigger.triggerId)))
    (parameterName : String) :
    ((singleTrigger row).putConfigurations order).configurations.get?
        parameterName =
      lastConfiguration order trigger.triggerId parameterName := by
  apply JobTriggerDto.putConfigurations_attached order _ rfl
  intro row member
  exact JobTables.configurationRowsById_triggerId (perm.mem_iff.mp member)

theorem groupedTrigger_attached (sameTrigger : row.trigger = trigger)
    (parameterName : String) :
    ((groupedTrigger row).configured order).configurations.get?
        parameterName =
      lastConfiguration order trigger.triggerId parameterName := by
  rw [JobTriggerDto.configured_get?]
  simp [groupedTrigger, JobTriggerDto.triggerId, sameTrigger]

end Attached

theorem singleOwn_iff (member : trigger ∈ db.triggers) :
    SingleOwn db.toJobTables trigger ↔
      Undisturbed db.toJobTables trigger := by
  have subset : db.configurationRowsById (some trigger.triggerId) ⊆
      db.configurations := List.filter_sublist.subset
  rw [← db.lastConfiguration_own_iff subset]
  · simp only [SingleOwn, db.triggerCall_of_member db member]
    obtain ⟨row, single, sameTrigger⟩ := db.triggerRowsById_of_member member
    have properties : ∀ order, ((singleTrigger row).putConfigurations
        order).properties = trigger := by
      intro order
      rw [JobTriggerDto.putConfigurations_properties]
      exact sameTrigger
    constructor
    · intro attached order perm
      obtain ⟨returned, same, _, own⟩ := attached _
        ⟨row, order, single, sameTrigger, perm, rfl⟩
      rw [← Option.some.inj (Except.ok.inj same)] at own
      exact (db.ownAttached_iff (properties order)
        (db.singleTrigger_attached perm)).mp own
    · intro own result ⟨found, order, singleton, foundTrigger, perm, same⟩
      refine ⟨_, same, ?_, ?_⟩
      · rw [JobTriggerDto.putConfigurations_properties]
        exact foundTrigger
      · apply (db.ownAttached_iff _
          (db.singleTrigger_attached perm)).mpr
        · exact own order perm
        · rw [JobTriggerDto.putConfigurations_properties]
          exact foundTrigger
  · intro row stored ofTrigger
    exact List.mem_filter.mpr ⟨stored, by simp [ofTrigger]⟩

/-- A requested trigger is returned. -/
theorem returned_of_requested {instanceId : Option String}
    {isActive : Option Bool} {groupIds : Option (List (Option String))}
    (member : trigger ∈ db.triggers)
    (requested : Requested db.toJobTables instanceId isActive groupIds
      trigger) (configurations : List JobTriggerConfiguration) :
    ∃ row, row.trigger = trigger ∧
      ∃ entry ∈ (groupedRows (db.triggerRows instanceId isActive
          groupIds)).map (GroupTriggers.configured configurations),
        (groupedTrigger row).configured configurations ∈ entry.triggers := by
  have chosen : trigger ∈ (db.triggerRows instanceId isActive
      groupIds).map JobRow.trigger := by
    rw [db.triggerRows_triggers]
    exact List.mem_filter.mpr ⟨member, decide_eq_true requested⟩
  obtain ⟨row, rowMember, sameTrigger⟩ := List.mem_map.mp chosen
  rw [← firstBy_eq_self
    (db.triggerRows_nodup instanceId isActive groupIds)] at rowMember
  exact ⟨row, sameTrigger, returned_iff.mpr ⟨row, rowMember, rfl⟩⟩

theorem groupsCall_of_requested {instanceId : Option String}
    {isActive : Option Bool} {groupIds : Option (List (Option String))}
    (member : trigger ∈ db.triggers)
    (requested : Requested db.toJobTables instanceId isActive groupIds
      trigger) :
    ∃ groups, GroupsCall db.toJobTables db.toJobTables instanceId isActive
      groupIds (some true) (.ok groups) ∧
      ∃ entry ∈ groups, ∃ returned ∈ entry.triggers,
        returned.properties = trigger := by
  obtain ⟨row, sameTrigger, entry, inside, found⟩ :=
    db.returned_of_requested member requested
      (db.configurationRows instanceId isActive groupIds)
  refine ⟨_, (db.groupsCall_iff db).mpr ⟨_, _, .refl _, .refl _, rfl⟩,
    entry, inside, _, found, ?_⟩
  rw [JobTriggerDto.configured_properties]
  exact sameTrigger

theorem groupedOwn_iff {instanceId : Option String}
    {isActive : Option Bool} {groupIds : Option (List (Option String))}
    (member : trigger ∈ db.triggers)
    (requested : Requested db.toJobTables instanceId isActive groupIds
      trigger) :
    GroupedOwn db.toJobTables instanceId isActive groupIds trigger ↔
      Undisturbed db.toJobTables trigger := by
  have subset : db.configurationRows instanceId isActive groupIds ⊆
      db.configurations := List.filter_sublist.subset
  rw [← db.lastConfiguration_own_iff subset]
  · simp only [GroupedOwn, db.groupsCall_iff db]
    constructor
    · intro attached order perm
      obtain ⟨groups, same, own⟩ := attached _
        ⟨_, order, List.Perm.refl _, perm, rfl⟩
      obtain ⟨row, sameTrigger, entry, inside, found⟩ :=
        db.returned_of_requested member requested order
      rw [← Except.ok.inj same] at own
      have properties : ((groupedTrigger row).configured order).properties =
          trigger := by
        rw [JobTriggerDto.configured_properties]
        exact sameTrigger
      exact (db.ownAttached_iff properties
        (groupedTrigger_attached sameTrigger)).mp
        (own entry inside _ found properties)
    · intro own result ⟨rows, order, rowsPerm, perm, same⟩
      refine ⟨_, same, ?_⟩
      intro entry inside returned found properties
      obtain ⟨row, _, rfl⟩ := returned_iff.mp ⟨entry, inside, found⟩
      have sameTrigger := properties
      rw [JobTriggerDto.configured_properties] at sameTrigger
      exact (db.ownAttached_iff properties
        (groupedTrigger_attached sameTrigger)).mpr (own order perm)
  · intro row stored ofTrigger
    apply List.mem_filter.mpr
    exact ⟨stored, decide_eq_true ((db.configures_iff _ _ _ row).mpr
      ⟨trigger, member, requested, ofTrigger.symm⟩)⟩

end JobDatabase

/-- Both calls return a result, and on every order of the rows they attach to
a trigger exactly the configurations of its own type if and only if every row
of another type repeats one of these. -/
theorem configurations_own_iff (db : JobDatabase) {trigger : JobTrigger}
    (member : trigger ∈ db.triggers) :
    (∃ returned, TriggerCall db.toJobTables db.toJobTables
      (some trigger.triggerId) (some true) (.ok returned)) ∧
    (SingleOwn db.toJobTables trigger ↔
      Undisturbed db.toJobTables trigger) ∧
    ∀ instanceId isActive groupIds,
      Requested db.toJobTables instanceId isActive groupIds trigger →
      (∃ groups, GroupsCall db.toJobTables db.toJobTables instanceId isActive
        groupIds (some true) (.ok groups) ∧
        ∃ entry ∈ groups, ∃ returned ∈ entry.triggers,
          returned.properties = trigger) ∧
      (GroupedOwn db.toJobTables instanceId isActive groupIds trigger ↔
        Undisturbed db.toJobTables trigger) :=
  ⟨db.triggerCall_returns db _ _, db.singleOwn_iff member,
    fun _ _ _ requested => ⟨db.groupsCall_of_requested member requested,
      db.groupedOwn_iff member requested⟩⟩

/-- A configuration of the trigger's own type and one of another type under
the same parameter name. -/
def foreignDatabase (own foreign : String) : JobDatabase :=
  .sample "trigger" own (some foreign)

theorem foreignDatabase_repeated :
    SingleOwn (foreignDatabase "1" "1").toJobTables
        (JobRow.sample "t" "g").trigger ∧
      GroupedOwn (foreignDatabase "1" "1").toJobTables none none none
        (JobRow.sample "t" "g").trigger ∧
      ∃ returned, TriggerCall (foreignDatabase "1" "1").toJobTables
          (foreignDatabase "1" "1").toJobTables (some "t") (some true)
          (.ok (some returned)) ∧
        returned.configurations.get? "p" = some ⟨some "1", none⟩ := by
  obtain ⟨⟨_, call⟩, single, grouped⟩ := configurations_own_iff
    (foreignDatabase "1" "1") (by decide : (JobRow.sample "t" "g").trigger ∈
      (foreignDatabase "1" "1").triggers)
  have own := single.mpr (by decide)
  obtain ⟨returned, same, properties, attached⟩ := own _ call
  refine ⟨own, (grouped none none none (by decide)).2.mpr (by decide),
    returned, same ▸ call, ?_⟩
  rw [attached, properties]
  decide

theorem foreignDatabase_attached :
    ¬ SingleOwn (foreignDatabase "1" "2").toJobTables
        (JobRow.sample "t" "g").trigger ∧
      ¬ GroupedOwn (foreignDatabase "1" "2").toJobTables none none none
        (JobRow.sample "t" "g").trigger := by
  have member : (JobRow.sample "t" "g").trigger ∈
      (foreignDatabase "1" "2").triggers := by decide
  rw [(foreignDatabase "1" "2").singleOwn_iff member,
    (foreignDatabase "1" "2").groupedOwn_iff member (by decide)]
  decide

end SpringTemplate.Job
