import SpringTemplate.Repo.Sorting

/-!
# The page handlers

Each controller asks its repository for a page counted from one, sorted as
the optional `orders` say.  When a request is built, and which one, depends
on the text of the orders and on the index where its predecessor wraps.
-/

namespace SpringTemplate.Repo

open JavaText

structure PageRequest where
  page : Int32
  size : Int32
  sort : Option PageSort
deriving DecidableEq

variable {Answer : Type} (spring : SpringData)

/-- `PageRequest.of`. -/
def SpringData.pageRequest (page size : Int32) (sort : Option PageSort) :
    Except IllegalArgumentException PageRequest :=
  if spring.rejectsPage page size sort then .error .pageRequest
  else .ok ⟨page, size, sort⟩

/-- The handler, over the `findAll` of the controller's repository. -/
def page (findAll : PageRequest → Answer) (index size : Int32)
    (orders : Option String) : Except IllegalArgumentException Answer := do
  let sort ← Helper.getSort spring orders
  let pageable ← spring.pageRequest (index - 1) size sort
  .ok (findAll pageable)

namespace AutoGenStrIdHardDelController

def page (findAll : PageRequest → Answer) (index size : Int32)
    (orders : Option String) : Except IllegalArgumentException Answer :=
  Repo.page spring findAll index size orders

end AutoGenStrIdHardDelController

namespace ManualGenStrIdSoftDelController

def page (findAll : PageRequest → Answer) (index size : Int32)
    (orders : Option String) : Except IllegalArgumentException Answer :=
  Repo.page spring findAll index size orders

end ManualGenStrIdSoftDelController

namespace EmbeddedHardDelController

def page (findAll : PageRequest → Answer) (index size : Int32)
    (orders : Option String) : Except IllegalArgumentException Answer :=
  Repo.page spring findAll index size orders

end EmbeddedHardDelController

inductive RepoController
  | autoGenStrIdHardDel
  | manualGenStrIdSoftDel
  | embeddedHardDel
deriving DecidableEq

def RepoController.page (findAll : PageRequest → Answer) :
    RepoController → Int32 → Int32 → Option String →
      Except IllegalArgumentException Answer
  | autoGenStrIdHardDel => AutoGenStrIdHardDelController.page spring findAll
  | manualGenStrIdSoftDel =>
      ManualGenStrIdSoftDelController.page spring findAll
  | embeddedHardDel => EmbeddedHardDelController.page spring findAll

/-- The request a handler gives to its repository. -/
def RepoController.pageable (controller : RepoController) :
    Int32 → Int32 → Option String →
      Except IllegalArgumentException PageRequest :=
  controller.page spring id

theorem pageable_eq (controller : RepoController) (index size : Int32)
    (orders : Option String) :
    controller.pageable spring index size orders =
      (Helper.getSort spring orders).bind
        (spring.pageRequest (index - 1) size) := by
  have requests : page spring id index size orders =
      (Helper.getSort spring orders).bind
        (spring.pageRequest (index - 1) size) := by
    rw [page]
    cases Helper.getSort spring orders with
    | error rejected => rfl
    | ok sort => exact bind_pure (spring.pageRequest (index - 1) size sort)
  cases controller <;> exact requests

/-! ## The orders -/

def NamesNoField (orders : Option String) : Prop :=
  ∀ text, orders = some text → ∀ item ∈ text.toList.splitOn ',',
    trimChars item = [] ∨ trimChars item = ['-']

/-- Orders that are there, are not blank and have no item that is a sign
alone. -/
def Sortable (orders : Option String) : Prop :=
  ∃ text, orders = some text ∧ trimChars text.toList ≠ [] ∧
    ∀ item ∈ text.toList.splitOn ',', trimChars item ≠ ['-']

theorem order_ok_iff {spring : SpringData} (documented : spring.Documented)
    (direction : Direction) {name : List Char} :
    (∃ order, spring.order direction (String.ofList name) = .ok order) ↔
      name ≠ [] := by
  by_cases empty : name = []
  · have rejected : spring.rejectsProperty "" = true :=
      (documented.property "").mpr rfl
    simp [SpringData.order, rejected, empty]
  · have filled : String.ofList name ≠ "" := by
      simpa [← String.toList_inj] using empty
    simp [documented.order_eq direction filled, empty]

theorem readItem_ok_iff {spring : SpringData}
    (documented : spring.Documented) {item : List Char}
    (filled : item ≠ []) :
    (∃ order, readItem spring item = .ok order) ↔ item ≠ ['-'] := by
  by_cases signed : ∃ name, item = '-' :: name
  · obtain ⟨name, rfl⟩ := signed
    rw [readItem, order_ok_iff documented]
    simp
  · have unsigned : ∀ name, item ≠ '-' :: name := not_exists.mp signed
    rw [readItem_unsigned spring unsigned, order_ok_iff documented]
    exact iff_of_true filled (unsigned [])

theorem mapM_ok_iff {spring : SpringData} (documented : spring.Documented)
    {items : List (List Char)} (filled : ∀ item ∈ items, item ≠ []) :
    (∃ orders, items.mapM (readItem spring) = .ok orders) ↔
      ∀ item ∈ items, item ≠ ['-'] := by
  induction items with
  | nil => simp [pure, Except.pure]
  | cons item items induction =>
      obtain ⟨first, rest⟩ := List.forall_mem_cons.mp filled
      rw [List.forall_mem_cons, ← readItem_ok_iff documented first,
        ← induction rest, List.mapM_cons]
      cases readItem spring item with
      | error rejected => simp [bind, Except.bind]
      | ok order =>
          cases items.mapM (readItem spring) with
          | error rejected => simp [bind, Except.bind]
          | ok orders => simp [bind, Except.bind, pure, Except.pure]

theorem itemsOf_filled {text : String} :
    ∀ item ∈ itemsOf text, item ≠ [] := by
  intro item member
  simpa using (List.mem_filter.mp member).2

theorem mem_itemsOf_iff {text : String} {item : List Char}
    (filled : item ≠ []) :
    item ∈ itemsOf text ↔
      ∃ written ∈ text.toList.splitOn ',', trimChars written = item := by
  rw [itemsOf, trimmedItems, List.mem_filter, List.mem_map]
  exact and_iff_left (by simpa using filled)

theorem noSign_iff {text : String} :
    (∀ item ∈ itemsOf text, item ≠ ['-']) ↔
      ∀ item ∈ text.toList.splitOn ',', trimChars item ≠ ['-'] := by
  have filled : ['-'] ≠ [] := List.cons_ne_nil _ _
  constructor
  · intro named item member sign
    apply named ['-'] _ rfl
    exact (mem_itemsOf_iff filled).mpr ⟨item, member, sign⟩
  · intro named item member sign
    subst sign
    obtain ⟨written, source, sign⟩ := (mem_itemsOf_iff filled).mp member
    exact named written source sign

theorem sortable_text_iff {text : String} :
    Sortable (some text) ↔ trimChars text.toList ≠ [] ∧
      ∀ item ∈ text.toList.splitOn ',', trimChars item ≠ ['-'] := by
  simp [Sortable]

/-- A sort is read from exactly the sortable orders. -/
theorem getSort_some_iff {spring : SpringData}
    (documented : spring.Documented) {orders : Option String} :
    (∃ sort, Helper.getSort spring orders = .ok (some sort)) ↔
      Sortable orders := by
  cases orders with
  | none =>
      have absent : Helper.getSort spring none = .ok none := rfl
      simp [Sortable, absent]
  | some text =>
      rw [sortable_text_iff, ← noSign_iff,
        ← mapM_ok_iff documented itemsOf_filled]
      by_cases blank : trimChars text.toList = []
      · simp [getSort_blank spring blank, blank]
      · rw [getSort_filled spring blank]
        cases (itemsOf text).mapM (readItem spring) with
        | error rejected => simp [Except.map]
        | ok orders => simp [Except.map, blank]

theorem getSort_unsorted {spring : SpringData}
    (documented : spring.Documented) {orders : Option String}
    {sort : PageSort}
    (read : Helper.getSort spring orders = .ok (some sort))
    (noField : NamesNoField orders) : sort.isUnsorted = true := by
  obtain ⟨text, rfl, filled, named⟩ :=
    (getSort_some_iff documented).mp ⟨sort, read⟩
  have none_left : itemsOf text = [] := by
    rw [List.eq_nil_iff_forall_not_mem]
    intro item member
    obtain ⟨written, source, rfl⟩ :=
      (mem_itemsOf_iff (itemsOf_filled item member)).mp member
    rcases noField text rfl written source with blank | sign
    · exact itemsOf_filled _ member blank
    · exact named written source sign
  rw [getSort_filled spring filled, none_left] at read
  cases read
  rfl

/-! ## The index -/

theorem toInt_predecessor {index : Int32} (above : index ≠ Int32.minValue) :
    (index - 1).toInt = index.toInt - 1 := by
  have low := index.le_toInt
  have high := index.toInt_lt
  have differs : index.toInt ≠ -2 ^ 31 := by
    intro least
    exact above (Int32.toInt_inj.mp least)
  rw [Int32.toInt_sub]
  have one : (1 : Int32).toInt = 1 := rfl
  rw [one]
  exact Int.bmod_eq_of_le_mul_two (by omega) (by omega)

theorem minValue_predecessor : Int32.minValue - 1 = Int32.maxValue := rfl

theorem predecessor_nonneg_iff {index : Int32} :
    0 ≤ index - 1 ↔ 1 ≤ index ∨ index = Int32.minValue := by
  by_cases least : index = Int32.minValue
  · rw [least, minValue_predecessor]
    exact iff_of_true (by decide) (Or.inr rfl)
  · rw [or_iff_left least, Int32.le_iff_toInt_le, Int32.le_iff_toInt_le,
      toInt_predecessor least, Int32.toInt_zero, Int32.toInt_one]
    omega

theorem pageRequest_ok_iff {spring : SpringData}
    (documented : spring.Documented) {page size : Int32}
    {sort : Option PageSort} {request : PageRequest} :
    spring.pageRequest page size sort = .ok request ↔
      0 ≤ page ∧ 1 ≤ size ∧ sort ≠ none ∧ request = ⟨page, size, sort⟩ := by
  have accepted : ¬ spring.rejectsPage page size sort = true ↔
      0 ≤ page ∧ 1 ≤ size ∧ sort ≠ none := by
    rw [documented.pageRequest, not_or, not_or, Int32.not_lt, Int32.not_lt]
  have grouped : (0 ≤ page ∧ 1 ≤ size ∧ sort ≠ none ∧
      request = ⟨page, size, sort⟩) ↔
      (0 ≤ page ∧ 1 ≤ size ∧ sort ≠ none) ∧
        request = ⟨page, size, sort⟩ := by
    simp only [and_assoc]
  rw [SpringData.pageRequest, grouped, ← accepted]
  split
  · rename_i rejected
    simp [rejected]
  · rename_i admitted
    simp [admitted, eq_comm]

/-! ## The handlers -/

theorem pageable_ok_iff {spring : SpringData}
    (documented : spring.Documented) (controller : RepoController)
    {index size : Int32} {orders : Option String} {request : PageRequest} :
    controller.pageable spring index size orders = .ok request ↔
      0 ≤ index - 1 ∧ 1 ≤ size ∧ ∃ sort,
        Helper.getSort spring orders = .ok (some sort) ∧
          request = ⟨index - 1, size, some sort⟩ := by
  rw [pageable_eq]
  cases Helper.getSort spring orders with
  | error rejected => simp [Except.bind]
  | ok sort =>
      rw [Except.bind, pageRequest_ok_iff documented]
      cases sort with
      | none => simp
      | some sort => simp

/-- The request is built exactly for an index and a size from one on, and
it asks for the page before the index. -/
def PagesRight (spring : SpringData) (controller : RepoController)
    (index size : Int32) (orders : Option String) : Prop :=
  ((∃ request, controller.pageable spring index size orders = .ok request) ↔
    1 ≤ index ∧ 1 ≤ size) ∧
  ∀ request, controller.pageable spring index size orders = .ok request →
    request.page.toInt = index.toInt - 1 ∧ request.size = size ∧
      (NamesNoField orders →
        ∃ sort, request.sort = some sort ∧ sort.isUnsorted = true)

theorem pages_right_iff (documented : spring.Documented)
    (controller : RepoController) (index size : Int32)
    (orders : Option String) :
    PagesRight spring controller index size orders ↔
      (1 ≤ index ∧ 1 ≤ size → Sortable orders) ∧
        ¬ (index = Int32.minValue ∧ 1 ≤ size ∧ Sortable orders) := by
  have built : (∃ request,
      controller.pageable spring index size orders = .ok request) ↔
      (1 ≤ index ∨ index = Int32.minValue) ∧ 1 ≤ size ∧ Sortable orders := by
    rw [← getSort_some_iff documented, ← predecessor_nonneg_iff]
    constructor
    · intro answers
      obtain ⟨request, answered⟩ := answers
      obtain ⟨page, size, sort, read, _⟩ :=
        (pageable_ok_iff documented controller).mp answered
      exact ⟨page, size, sort, read⟩
    · intro admitted
      obtain ⟨page, size, sort, read⟩ := admitted
      exact ⟨_, (pageable_ok_iff documented controller).mpr
        ⟨page, size, sort, read, rfl⟩⟩
  have low : ¬ 1 ≤ Int32.minValue := by decide
  rw [PagesRight, built]
  constructor
  · intro right
    obtain ⟨exactly, _⟩ := right
    refine ⟨?_, ?_⟩
    · intro bounds
      exact (exactly.mpr bounds).2.2
    · intro least
      obtain ⟨rfl, size, sortable⟩ := least
      apply low
      exact (exactly.mp ⟨Or.inr rfl, size, sortable⟩).1
  · intro condition
    obtain ⟨sortable, notLeast⟩ := condition
    refine ⟨⟨?_, ?_⟩, ?_⟩
    · intro admitted
      rcases admitted with ⟨above | least, size, sortable⟩
      · exact ⟨above, size⟩
      · exact absurd ⟨least, size, sortable⟩ notLeast
    · intro bounds
      exact ⟨Or.inl bounds.1, bounds.2, sortable bounds⟩
    · intro request answered
      obtain ⟨_, size, sort, read, rfl⟩ :=
        (pageable_ok_iff documented controller).mp answered
      have sorted := (getSort_some_iff documented).mp ⟨sort, read⟩
      have above : index ≠ Int32.minValue := fun least =>
        notLeast ⟨least, size, sorted⟩
      refine ⟨toInt_predecessor above, rfl, ?_⟩
      intro noField
      exact ⟨sort, rfl, getSort_unsorted documented read noField⟩

theorem pages_right_name :
    PagesRight .plain .autoGenStrIdHardDel 1 10 (some "name") := by
  have sortable : Sortable (some "name") := by
    refine ⟨"name", rfl, by decide, ?_⟩
    decide
  refine (pages_right_iff .plain SpringData.plain_documented _ _ _ _).mpr ?_
  exact ⟨fun _ => sortable, fun least => absurd least.1 (by decide)⟩

/-- Without orders the first page of ten is refused; so it is for a sign
alone, and for the smallest index a page is built that nobody asked for. -/
theorem pages_wrong :
    ¬ PagesRight .plain .autoGenStrIdHardDel 1 10 none ∧
      ¬ PagesRight .plain .autoGenStrIdHardDel 1 10 (some "-") ∧
      ¬ PagesRight .plain .autoGenStrIdHardDel Int32.minValue 10
        (some "name") := by
  have refused : ∀ orders rejected,
      RepoController.pageable .plain .autoGenStrIdHardDel 1 10 orders =
        .error rejected →
      ¬ PagesRight .plain .autoGenStrIdHardDel 1 10 orders := by
    intro orders rejected failed right
    obtain ⟨request, answered⟩ := right.1.mpr ⟨by decide, by decide⟩
    rw [failed] at answered
    cases answered
  refine ⟨refused _ .pageRequest rfl, refused _ .property ?_, ?_⟩
  · decide
  · intro right
    have built := right.1.mp ⟨_, rfl⟩
    exact absurd built.1 (by decide)

end SpringTemplate.Repo
