import SpringTemplate.Library.JavaSplit

/-!
# The sort notation of the page handlers

`Helper.getSort` reads a text such as `name,-date` into the `Sort` of Spring
Data.  Spring Data itself is a parameter: which properties and which page
requests it rejects.  The notation is read back as it was written, with any
padding and any blank items.
-/

namespace SpringTemplate.Repo

open JavaText

inductive Direction
  | asc
  | desc
deriving DecidableEq

structure Order where
  direction : Direction
  property : String
deriving DecidableEq

/-- The `Sort` of Spring Data, unsorted when it has no orders. -/
structure PageSort where
  orders : List Order
deriving DecidableEq

def PageSort.isUnsorted (sort : PageSort) : Bool :=
  sort.orders.isEmpty

inductive IllegalArgumentException
  | property
  | pageRequest
deriving DecidableEq

/-- The argument checks of `Sort.Order` and of `PageRequest.of`. -/
structure SpringData where
  rejectsProperty : String → Bool
  rejectsPage : Int32 → Int32 → Option PageSort → Bool

structure SpringData.Documented (spring : SpringData) : Prop where
  property : ∀ property, spring.rejectsProperty property = true ↔ property = ""
  pageRequest : ∀ page size sort, spring.rejectsPage page size sort = true ↔
    page < 0 ∨ size < 1 ∨ sort = none

/-- Spring Data with no checks but the documented ones. -/
def SpringData.plain : SpringData where
  rejectsProperty property := property = ""
  rejectsPage page size sort := page < 0 ∨ size < 1 ∨ sort = none

theorem SpringData.plain_documented : SpringData.plain.Documented where
  property _ := decide_eq_true_iff
  pageRequest _ _ _ := decide_eq_true_iff

variable (spring : SpringData)

/-- `Order.asc` and `Order.desc`. -/
def SpringData.order (direction : Direction) (property : String) :
    Except IllegalArgumentException Order :=
  if spring.rejectsProperty property then .error .property
  else .ok ⟨direction, property⟩

namespace Helper

def addOrder (orders : List Order) (s : String) :
    Except IllegalArgumentException (List Order) :=
  let s := trim s
  if s = "" then .ok orders
  else if startsWith s "-" then do
    let order ← spring.order .desc (substring s 1)
    .ok (orders ++ [order])
  else do
    let order ← spring.order .asc s
    .ok (orders ++ [order])

def getSort (string : Option String) :
    Except IllegalArgumentException (Option PageSort) :=
  let string := match string with
    | some string => trim string
    | none => ""
  if string = "" then .ok none
  else do
    let orders ← (split string ',').foldlM (addOrder spring) []
    .ok (some ⟨orders⟩)

end Helper

example : Helper.getSort .plain (some " name ,, -date,") =
    .ok (some ⟨[⟨.asc, "name"⟩, ⟨.desc, "date"⟩]⟩) := by decide

example : Helper.getSort .plain (some ",") = .ok (some ⟨[]⟩) := by decide

/-! ## What is read -/

/-- Read an item that is trimmed and not blank. -/
def readItem (item : List Char) : Except IllegalArgumentException Order :=
  match item with
  | '-' :: name => spring.order .desc (String.ofList name)
  | name => spring.order .asc (String.ofList name)

theorem readItem_unsigned {item : List Char}
    (unsigned : ∀ name, item ≠ '-' :: name) :
    readItem spring item = spring.order .asc (String.ofList item) := by
  rw [readItem]
  exact unsigned

theorem addOrder_eq (orders : List Order) (item : List Char) :
    Helper.addOrder spring orders (String.ofList item) =
      if trimChars item = [] then .ok orders
      else (readItem spring (trimChars item)).map
        (fun order => orders ++ [order]) := by
  rw [Helper.addOrder, trim, String.toList_ofList]
  cases trimChars item with
  | nil => rfl
  | cons first name =>
      have filled : String.ofList (first :: name) ≠ "" := by
        simp [← String.toList_inj]
      have dash : startsWith (String.ofList (first :: name))
          (String.ofList ['-']) = ('-' == first) := by
        rw [startsWith, String.toList_ofList, String.toList_ofList]
        exact Bool.and_true _
      rw [if_neg filled, if_neg (List.cons_ne_nil first name), dash]
      by_cases signed : '-' = first
      · subst signed
        rw [if_pos (beq_self_eq_true '-'), substring, String.toList_ofList]
        rfl
      · have unsigned : ∀ rest, first :: name ≠ '-' :: rest := by
          intro rest same
          exact signed (List.cons.inj same).1.symm
        rw [if_neg (by simpa using signed), readItem_unsigned spring unsigned]
        rfl

/-- The loop over the items reads those that are not blank. -/
theorem foldlM_addOrder (items : List (List Char)) (orders : List Order) :
    (items.map String.ofList).foldlM (Helper.addOrder spring) orders =
      ((trimmedItems items).mapM (readItem spring)).map
        (fun read => orders ++ read) := by
  induction items generalizing orders with
  | nil => exact congrArg Except.ok (List.append_nil orders).symm
  | cons item items induction =>
      rw [List.map_cons, List.foldlM_cons, addOrder_eq]
      by_cases blank : trimChars item = []
      · have skipped : trimmedItems (item :: items) = trimmedItems items := by
          simp [trimmedItems, blank]
        rw [if_pos blank, skipped]
        exact induction orders
      · have kept : trimmedItems (item :: items) =
            trimChars item :: trimmedItems items := by
          simp [trimmedItems, blank]
        rw [if_neg blank, kept, List.mapM_cons]
        cases readItem spring (trimChars item) with
        | error rejected => rfl
        | ok order =>
            refine (induction (orders ++ [order])).trans ?_
            cases (trimmedItems items).mapM (readItem spring) with
            | error rejected => rfl
            | ok read => exact congrArg Except.ok (List.append_assoc _ _ _)

def itemsOf (text : String) : List (List Char) :=
  trimmedItems (text.toList.splitOn ',')

theorem getSort_blank {text : String} (blank : trimChars text.toList = []) :
    Helper.getSort spring (some text) = .ok none := by
  rw [Helper.getSort]
  simp only [trim, blank]
  rfl

theorem itemsOf_blank {text : String} (blank : trimChars text.toList = []) :
    itemsOf text = [] := by
  rw [itemsOf, ← trimmedItems_splitOn_trimChars (by decide), blank]
  rfl

theorem getSort_filled {text : String} (filled : trimChars text.toList ≠ []) :
    Helper.getSort spring (some text) =
      ((itemsOf text).mapM (readItem spring)).map
        (fun orders => some ⟨orders⟩) := by
  have trimmed : trim text ≠ "" := by
    rw [trim]
    simpa [← String.toList_inj] using filled
  have items : trimmedItems (splitChars ',' (trim text).toList) =
      itemsOf text := by
    rw [trimmedItems_splitChars, trim, String.toList_ofList,
      trimmedItems_splitOn_trimChars (by decide)]
    rfl
  rw [Helper.getSort]
  simp only [if_neg trimmed, split]
  rw [foldlM_addOrder, items]
  cases (itemsOf text).mapM (readItem spring) <;> rfl

/-! ## The notation -/

/-- A field that the notation can name in an order. -/
structure Order.WellNamed (order : Order) : Prop where
  filled : order.property ≠ ""
  noComma : ',' ∉ order.property.toList
  first : ∀ char, order.property.toList.head? = some char →
    isTrimmed char = false
  last : ∀ char, order.property.toList.getLast? = some char →
    isTrimmed char = false
  unsigned : order.direction = .asc → order.property.toList.head? ≠ some '-'

def Order.spelling (order : Order) : List Char :=
  match order.direction with
  | .asc => order.property.toList
  | .desc => '-' :: order.property.toList

def White (pad : List Char) : Prop :=
  ∀ char ∈ pad, isTrimmed char = true

/-- The lists of items in which orders are written, each order with white
space around it and with blank items anywhere. -/
inductive Written : List (List Char) → List Order → Prop
  | nil : Written [] []
  | blank {pad : List Char} {items : List (List Char)} {orders : List Order} :
      White pad → Written items orders → Written (pad :: items) orders
  | order {before after : List Char} {order : Order}
      {items : List (List Char)} {orders : List Order} :
      White before → White after → order.WellNamed → Written items orders →
      Written ((before ++ order.spelling ++ after) :: items) (order :: orders)

namespace Order.WellNamed

variable {order : Order}

theorem property_ne_nil (named : order.WellNamed) :
    order.property.toList ≠ [] := by
  intro empty
  apply named.filled
  rw [← String.toList_inj, empty]
  rfl

theorem trimChars_spelling (named : order.WellNamed) :
    trimChars order.spelling = order.spelling := by
  obtain ⟨direction, property⟩ := order
  cases direction with
  | asc => exact trimChars_eq_self named.first named.last
  | desc =>
      apply trimChars_eq_self
      · intro char sign
        cases sign
        rfl
      · intro char last
        apply named.last
        rwa [Order.spelling,
          List.getLast?_cons_of_ne_nil named.property_ne_nil] at last

theorem spelling_ne_nil (named : order.WellNamed) : order.spelling ≠ [] := by
  obtain ⟨direction, property⟩ := order
  cases direction with
  | asc => exact named.property_ne_nil
  | desc => exact List.cons_ne_nil _ _

theorem noComma_spelling (named : order.WellNamed) :
    ',' ∉ order.spelling := by
  obtain ⟨direction, property⟩ := order
  cases direction with
  | asc => exact named.noComma
  | desc =>
      intro member
      rcases List.mem_cons.mp member with sign | member
      · cases sign
      · exact named.noComma member

end Order.WellNamed

theorem SpringData.Documented.order_eq {spring : SpringData}
    (documented : spring.Documented) (direction : Direction)
    {property : String} (filled : property ≠ "") :
    spring.order direction property = .ok ⟨direction, property⟩ := by
  rw [SpringData.order, if_neg (mt (documented.property property).mp filled)]

/-- An item is read as the order it spells. -/
theorem readItem_spelling {spring : SpringData}
    (documented : spring.Documented) {order : Order}
    (named : order.WellNamed) :
    readItem spring order.spelling = .ok order := by
  obtain ⟨direction, property⟩ := order
  cases direction with
  | asc =>
      have unsigned : ∀ name, property.toList ≠ '-' :: name := by
        intro name signed
        apply named.unsigned rfl
        rw [signed]
        rfl
      rw [Order.spelling, readItem_unsigned spring unsigned,
        String.ofList_toList]
      exact documented.order_eq .asc named.filled
  | desc =>
      rw [Order.spelling, readItem, String.ofList_toList]
      exact documented.order_eq .desc named.filled

namespace Written

variable {items : List (List Char)} {orders : List Order}

theorem wellNamed (written : Written items orders) :
    ∀ order ∈ orders, order.WellNamed := by
  induction written with
  | nil => simp
  | blank _ _ induction => exact induction
  | order _ _ named _ induction =>
      exact List.forall_mem_cons.mpr ⟨named, induction⟩

theorem noComma (written : Written items orders) :
    ∀ item ∈ items, ',' ∉ item := by
  have white_noComma : ∀ {pad : List Char}, White pad → ',' ∉ pad := by
    intro pad white member
    exact absurd (white ',' member) (by decide)
  induction written with
  | nil => simp
  | blank white _ induction =>
      exact List.forall_mem_cons.mpr ⟨white_noComma white, induction⟩
  | order before after named _ induction =>
      refine List.forall_mem_cons.mpr ⟨?_, induction⟩
      simp [white_noComma before, white_noComma after, named.noComma_spelling]

theorem trimmedItems (written : Written items orders) :
    JavaText.trimmedItems items = orders.map Order.spelling := by
  induction written with
  | nil => rfl
  | blank white _ induction =>
      rw [JavaText.trimmedItems, List.map_cons,
        trimChars_eq_nil_iff.mpr white]
      exact induction
  | order before after named _ induction =>
      rw [JavaText.trimmedItems, List.map_cons, trimChars_pad_right after,
        trimChars_pad_left before, named.trimChars_spelling,
        List.filter_cons_of_pos (by simpa using named.spelling_ne_nil)]
      exact congrArg _ induction

end Written

theorem mapM_readItem_spelling {spring : SpringData}
    (documented : spring.Documented) {orders : List Order}
    (named : ∀ order ∈ orders, order.WellNamed) :
    (orders.map Order.spelling).mapM (readItem spring) = .ok orders := by
  induction orders with
  | nil => rfl
  | cons order orders induction =>
      obtain ⟨first, rest⟩ := List.forall_mem_cons.mp named
      rw [List.map_cons, List.mapM_cons, readItem_spelling documented first,
        induction rest]
      rfl

/-- Orders are read back from every way of writing them. -/
theorem getSort_written (documented : spring.Documented)
    {items : List (List Char)} {orders : List Order}
    (written : Written items orders) (some_order : orders ≠ []) :
    Helper.getSort spring (some (String.ofList ([','].intercalate items))) =
      .ok (some ⟨orders⟩) := by
  have some_item : items ≠ [] := by
    intro none_
    subst none_
    cases written
    exact some_order rfl
  have read : itemsOf (String.ofList ([','].intercalate items)) =
      orders.map Order.spelling := by
    rw [itemsOf, String.toList_ofList,
      List.splitOn_intercalate ',' written.noComma some_item]
    exact written.trimmedItems
  have filled : trimChars
      (String.ofList ([','].intercalate items)).toList ≠ [] := by
    intro blank
    rw [itemsOf_blank blank] at read
    exact some_order (List.map_eq_nil_iff.mp read.symm)
  rw [getSort_filled spring filled, read,
    mapM_readItem_spelling documented written.wellNamed]
  rfl

theorem getSort_written_padded :
    Helper.getSort .plain (some " a ,, -b") =
      .ok (some ⟨[⟨.asc, "a"⟩, ⟨.desc, "b"⟩]⟩) := by
  have space : White [' '] := by
    simp [White, isTrimmed]
  have none : White [] := by
    simp [White]
  have first : Order.WellNamed ⟨.asc, "a"⟩ := by
    constructor <;> simp [isTrimmed]
  have second : Order.WellNamed ⟨.desc, "b"⟩ := by
    constructor <;> simp [isTrimmed]
  have written := Written.order space space first
    (.blank none (.order space none second .nil))
  have text : String.ofList ([','].intercalate
      [[' '] ++ Order.spelling ⟨.asc, "a"⟩ ++ [' '], [],
        [' '] ++ Order.spelling ⟨.desc, "b"⟩ ++ []]) = " a ,, -b" := by
    rw [← String.toList_inj, String.toList_ofList]
    decide
  rw [← text]
  exact getSort_written .plain SpringData.plain_documented written
    (List.cons_ne_nil _ _)

end SpringTemplate.Repo
