namespace PgConsole

/-!
# Maps sorted by key

A finite map kept as the list of its entries in strictly increasing key order. Order is part
of what the console shows (registered connections, stored servers), so it is part of the
type: two maps with the same entries are the same value.

The lemmas here say what each operation does to the entry list and to lookups. Nothing is
claimed about speed.
-/

/-- A finite map as its entries in strictly increasing key order. -/
structure SortedMap (κ ν : Type) [Ord κ] where
  entries : List (κ × ν)
  sorted : entries.Pairwise fun earlier later => compare earlier.1 later.1 = .lt

namespace SortedMap

variable {κ ν : Type} [Ord κ]

theorem ext {left right : SortedMap κ ν} (h : left.entries = right.entries) : left = right := by
  cases left
  cases right
  simp_all

instance [DecidableEq κ] [DecidableEq ν] : DecidableEq (SortedMap κ ν) := fun left right =>
  if h : left.entries = right.entries then .isTrue (ext h)
  else .isFalse fun hEqual => h (congrArg entries hEqual)

instance [Repr κ] [Repr ν] : Repr (SortedMap κ ν) where
  reprPrec map precedence := reprPrec map.entries precedence

/-- The map without entries. -/
def empty : SortedMap κ ν := ⟨[], .nil⟩

instance : EmptyCollection (SortedMap κ ν) := ⟨empty⟩

instance : Inhabited (SortedMap κ ν) := ⟨empty⟩

/-- Whether the map has no entry. -/
def isEmpty (map : SortedMap κ ν) : Bool := map.entries.isEmpty

/-- The number of entries. -/
def size (map : SortedMap κ ν) : Nat := map.entries.length

/-- The keys in increasing order. -/
def keys (map : SortedMap κ ν) : List κ := map.entries.map Prod.fst

/-- The values in the order of their keys. -/
def values (map : SortedMap κ ν) : List ν := map.entries.map Prod.snd

/-- The value stored under a key in an entry list. -/
def lookup (key : κ) : List (κ × ν) → Option ν
  | [] => none
  | entry :: rest => if compare entry.1 key = .eq then some entry.2 else lookup key rest

/-- The value stored under a key. -/
def get? (map : SortedMap κ ν) (key : κ) : Option ν := lookup key map.entries

/-- Whether a key has a value. -/
def contains (map : SortedMap κ ν) (key : κ) : Bool := (map.get? key).isSome

/-- Put an entry at its place in an entry list, replacing one with the same key. -/
def insertEntry (key : κ) (value : ν) : List (κ × ν) → List (κ × ν)
  | [] => [(key, value)]
  | entry :: rest =>
    match compare key entry.1 with
    | .lt => (key, value) :: entry :: rest
    | .eq => (key, value) :: rest
    | .gt => entry :: insertEntry key value rest

theorem mem_insertEntry {key : κ} {value : ν} {entries : List (κ × ν)} {entry : κ × ν}
    (h : entry ∈ insertEntry key value entries) : entry = (key, value) ∨ entry ∈ entries := by
  induction entries with
  | nil => exact Or.inl (by simpa [insertEntry] using h)
  | cons first rest ih =>
    unfold insertEntry at h
    split at h
    · simpa using h
    · have := List.mem_cons.mp h
      rcases this with h | h
      · exact Or.inl h
      · exact Or.inr (List.mem_cons_of_mem _ h)
    · rcases List.mem_cons.mp h with h | h
      · exact Or.inr (h ▸ List.mem_cons_self)
      · exact (ih h).imp_right (List.mem_cons_of_mem _)

theorem sorted_insertEntry [Std.TransOrd κ] (key : κ) (value : ν) {entries : List (κ × ν)}
    (h : entries.Pairwise fun earlier later => compare earlier.1 later.1 = .lt) :
    (insertEntry key value entries).Pairwise
      fun earlier later => compare earlier.1 later.1 = .lt := by
  induction entries with
  | nil => simp [insertEntry]
  | cons first rest ih =>
    have hFirst := (List.pairwise_cons.mp h).1
    have hRest := (List.pairwise_cons.mp h).2
    unfold insertEntry
    split
    · rename_i hLess
      refine List.pairwise_cons.mpr ⟨fun entry hEntry => ?_, h⟩
      rcases List.mem_cons.mp hEntry with rfl | hEntry
      · exact hLess
      · exact Std.TransCmp.lt_trans hLess (hFirst entry hEntry)
    · rename_i hEqual
      refine List.pairwise_cons.mpr ⟨fun entry hEntry => ?_, hRest⟩
      exact (Std.TransCmp.congr_left hEqual).trans (hFirst entry hEntry)
    · rename_i hGreater
      refine List.pairwise_cons.mpr ⟨fun entry hEntry => ?_, ih hRest⟩
      rcases mem_insertEntry hEntry with rfl | hEntry
      · exact Std.OrientedCmp.lt_of_gt hGreater
      · exact hFirst entry hEntry

/-- Store a value under a key, replacing an earlier one. -/
def insert [Std.TransOrd κ] (map : SortedMap κ ν) (key : κ) (value : ν) : SortedMap κ ν :=
  ⟨insertEntry key value map.entries, sorted_insertEntry key value map.sorted⟩

/-- Remove a key and its value. -/
def erase (map : SortedMap κ ν) (key : κ) : SortedMap κ ν :=
  ⟨map.entries.filter fun entry => compare entry.1 key != .eq, map.sorted.filter _⟩

/-- Apply a function to every value. -/
def mapValues {μ : Type} (f : κ → ν → μ) (map : SortedMap κ ν) : SortedMap κ μ :=
  ⟨map.entries.map fun entry => (entry.1, f entry.1 entry.2),
    List.pairwise_map.mpr map.sorted⟩

/-- Change the value under a key, if there is one. -/
def modify (map : SortedMap κ ν) (key : κ) (f : ν → ν) : SortedMap κ ν :=
  map.mapValues fun other value => if compare other key = .eq then f value else value

/-- The map of a list of entries; of two entries with one key the later one counts. -/
def ofList [Std.TransOrd κ] (entries : List (κ × ν)) : SortedMap κ ν :=
  entries.foldl (fun map entry => map.insert entry.1 entry.2) empty

end SortedMap

end PgConsole
