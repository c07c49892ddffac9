import Lcm.Library.KeyedTable
import Mathlib.Data.List.Sort
import Mathlib.Data.List.Enum

/-- A link table gives each pair of an owner and an item one ordinal. -/
abbrev LinkTable (Owner Item : Type*) := KeyedTable (Owner × Item) Nat

namespace LinkTable

variable {Owner Item : Type*}

/-- The rows of a link table in ascending order of their ordinals. -/
def ordered (rows : List ((Owner × Item) × Nat)) : List ((Owner × Item) × Nat) :=
  rows.insertionSort fun first second => first.2 ≤ second.2

/-- The rows that a batch of distinct new links appends. -/
def rowsFrom (owner : Owner) (base : Nat) : List Item → List ((Owner × Item) × Nat)
  | [] => []
  | item :: rest => ((owner, item), base) :: rowsFrom owner (base + 1) rest

theorem rowsFrom_owner {owner : Owner} {linked : List Item} {base : Nat}
    {row : (Owner × Item) × Nat} (inside : row ∈ rowsFrom owner base linked) :
    row.1.1 = owner ∧ row.1.2 ∈ linked ∧ base ≤ row.2 := by
  induction linked generalizing base with
  | nil => cases inside
  | cons item rest ih =>
      rcases List.mem_cons.mp inside with rfl | later
      · simp
      · obtain ⟨atOwner, member, bound⟩ := ih later
        exact ⟨atOwner, List.mem_cons_of_mem _ member, Nat.le_of_succ_le bound⟩

theorem rowsFrom_sorted (owner : Owner) (linked : List Item) (base : Nat) :
    (rowsFrom owner base linked).Pairwise fun first second => first.2 ≤ second.2 := by
  induction linked generalizing base with
  | nil => exact List.Pairwise.nil
  | cons item rest ih =>
      refine List.pairwise_cons.mpr ⟨fun row inside => ?_, ih (base + 1)⟩
      exact Nat.le_of_succ_le (rowsFrom_owner inside).2.2

theorem rowsFrom_items (owner : Owner) (linked : List Item) (base : Nat) :
    (rowsFrom owner base linked).map (fun row => row.1.2) = linked := by
  induction linked generalizing base with
  | nil => rfl
  | cons item rest ih => simp only [rowsFrom, List.map_cons, ih]

/-- The items of an owner in the order of their ordinals. -/
def items [DecidableEq Owner] (table : LinkTable Owner Item) (owner : Owner) : List Item :=
  (ordered (table.entries.filter fun row => row.1.1 = owner)).map fun row => row.1.2

/-- The owners of an item in the order of their ordinals. -/
def owners [DecidableEq Item] (table : LinkTable Owner Item) (item : Item) : List Owner :=
  (ordered (table.entries.filter fun row => row.1.2 = item)).map fun row => row.1.1

/-- An owner lists an item exactly when the pair is a key of the table. -/
theorem mem_items [DecidableEq Owner] {table : LinkTable Owner Item} {owner : Owner} {item : Item} :
    item ∈ items table owner ↔ (owner, item) ∈ table.keys := by
  simp only [items, ordered, List.mem_map, List.mem_insertionSort, List.mem_filter,
    decide_eq_true_eq, KeyedTable.keys]
  constructor
  · rintro ⟨row, ⟨inside, rfl⟩, rfl⟩
    exact ⟨row, inside, rfl⟩
  · rintro ⟨row, inside, same⟩
    exact ⟨row, ⟨inside, by rw [same]⟩, by rw [same]⟩

/-- An item lists an owner exactly when the pair is a key of the table. -/
theorem mem_owners [DecidableEq Item] {table : LinkTable Owner Item} {owner : Owner} {item : Item} :
    owner ∈ owners table item ↔ (owner, item) ∈ table.keys := by
  simp only [owners, ordered, List.mem_map, List.mem_insertionSort, List.mem_filter,
    decide_eq_true_eq, KeyedTable.keys]
  constructor
  · rintro ⟨row, ⟨inside, rfl⟩, rfl⟩
    exact ⟨row, inside, rfl⟩
  · rintro ⟨row, inside, same⟩
    exact ⟨row, ⟨inside, by rw [same]⟩, by rw [same]⟩

variable [DecidableEq Owner] [DecidableEq Item]

/-- A numbered batch of links of one owner ignores pairs that are already linked. -/
def linkFrom (table : LinkTable Owner Item) (owner : Owner) (base : Nat) :
    List Item → LinkTable Owner Item
  | [] => table
  | item :: rest => linkFrom (table.insertOrIgnore (owner, item) base) owner (base + 1) rest

/-- A batch of links starts at ordinal zero. -/
def link (table : LinkTable Owner Item) (owner : Owner) (linked : List Item) :
    LinkTable Owner Item :=
  linkFrom table owner 0 linked

theorem linkFrom_entries {owner : Owner} {linked : List Item} {table : LinkTable Owner Item}
    {base : Nat} (distinct : linked.Nodup) (fresh : ∀ item ∈ linked, (owner, item) ∉ table.keys) :
    (linkFrom table owner base linked).entries = table.entries ++ rowsFrom owner base linked := by
  induction linked generalizing table base with
  | nil => simp [linkFrom, rowsFrom]
  | cons item rest ih =>
      have here := fresh item (List.mem_cons_self ..)
      have entries := KeyedTable.insertOrIgnore_fresh base here
      rw [linkFrom, ih (List.nodup_cons.mp distinct).2, entries]
      · simp [rowsFrom]
      · intro other inside used
        rw [KeyedTable.keys, entries, List.map_append, List.mem_append] at used
        rcases used with used | used
        · exact fresh other (List.mem_cons_of_mem _ inside) used
        · have same : other = item := by simpa using used
          exact (List.nodup_cons.mp distinct).1 (same ▸ inside)

/-- An owner without rows has exactly the items of its first batch. -/
theorem items_link_self {table : LinkTable Owner Item} {owner : Owner} {linked : List Item}
    (distinct : linked.Nodup) (fresh : ∀ key ∈ table.keys, key.1 ≠ owner) :
    items (link table owner linked) owner = linked := by
  have unused : ∀ item ∈ linked, (owner, item) ∉ table.keys :=
    fun item _ used => fresh _ used rfl
  have others : table.entries.filter (fun row => row.1.1 = owner) = [] := by
    refine List.filter_eq_nil_iff.mpr fun row inside => ?_
    simpa using fresh row.1 (List.mem_map_of_mem inside)
  have own : (rowsFrom owner 0 linked).filter (fun row => row.1.1 = owner) =
      rowsFrom owner 0 linked := by
    refine List.filter_eq_self.mpr fun row inside => ?_
    simpa using (rowsFrom_owner inside).1
  rw [items, link, linkFrom_entries distinct unused, List.filter_append, others, own,
    List.nil_append, ordered, List.Pairwise.insertionSort_eq (rowsFrom_sorted owner linked 0),
    rowsFrom_items]

/-- A batch keeps the items of every other owner. -/
theorem items_link_other {table : LinkTable Owner Item} {owner other : Owner} {linked : List Item}
    (distinct : linked.Nodup) (fresh : ∀ key ∈ table.keys, key.1 ≠ owner)
    (different : other ≠ owner) : items (link table owner linked) other = items table other := by
  have unused : ∀ item ∈ linked, (owner, item) ∉ table.keys :=
    fun item _ used => fresh _ used rfl
  have none : (rowsFrom owner 0 linked).filter (fun row => row.1.1 = other) = [] := by
    refine List.filter_eq_nil_iff.mpr fun row inside => ?_
    simpa [(rowsFrom_owner inside).1] using different.symm
  rw [items, link, linkFrom_entries distinct unused, List.filter_append, none, List.append_nil,
    items]

end LinkTable
