import PgConsole.SortedMap

namespace PgConsole.SortedMap

/-!
# Lookups in sorted maps

What every operation does to lookups, and that lookups determine the map.  Keys are compared
by a lawful order throughout, so that a key is found exactly under the keys equal to it.

The main statements are `get?_eq_some_iff` (a lookup finds exactly the entries), `ext_get?`
(maps with the same lookups are equal) and `ofList_entries` (a map is rebuilt from its own
entry list).
-/

variable {κ ν : Type} [Ord κ]

@[simp] theorem get?_empty (key : κ) : (empty : SortedMap κ ν).get? key = none := rfl

@[simp] theorem isEmpty_empty : (empty : SortedMap κ ν).isEmpty = true := rfl

@[simp] theorem keys_empty : (empty : SortedMap κ ν).keys = [] := rfl

@[simp] theorem values_empty : (empty : SortedMap κ ν).values = [] := rfl

theorem eq_empty_of_isEmpty {map : SortedMap κ ν} (h : map.isEmpty = true) : map = empty := by
  apply ext
  exact List.isEmpty_iff.mp h

@[simp] theorem isEmpty_modify (map : SortedMap κ ν) (key : κ) (f : ν → ν) :
    (map.modify key f).isEmpty = map.isEmpty :=
  List.isEmpty_map

section MapValues

variable {μ : Type} (f : κ → ν → μ)

@[simp] theorem mapValues_empty : (empty : SortedMap κ ν).mapValues f = empty := rfl

@[simp] theorem isEmpty_mapValues (map : SortedMap κ ν) :
    (map.mapValues f).isEmpty = map.isEmpty :=
  List.isEmpty_map

/-- A value that does not depend on its key is found where the original one is. -/
theorem get?_mapValues (g : ν → μ) (map : SortedMap κ ν) (key : κ) :
    (map.mapValues fun _ => g).get? key = (map.get? key).map g := by
  obtain ⟨entries, hSorted⟩ := map
  simp only [get?, mapValues]
  clear hSorted
  induction entries with
  | nil => rfl
  | cons first rest ih =>
      rw [List.map_cons, lookup, lookup]
      split
      · rfl
      · exact ih

theorem mapValues_insert [Std.TransOrd κ] (map : SortedMap κ ν) (key : κ) (value : ν) :
    (map.insert key value).mapValues f = (map.mapValues f).insert key (f key value) := by
  obtain ⟨entries, hSorted⟩ := map
  apply ext
  simp only [insert, mapValues]
  clear hSorted
  induction entries with
  | nil => rfl
  | cons first rest ih =>
      simp only [List.map_cons, insertEntry]
      cases compare key first.1 with
      | lt => rfl
      | eq => rfl
      | gt => simp only [List.map_cons, ih]

theorem mapValues_erase (map : SortedMap κ ν) (key : κ) :
    (map.erase key).mapValues f = (map.mapValues f).erase key := by
  apply ext
  simp only [erase, mapValues, List.filter_map]
  rfl

end MapValues

section Lawful

variable [Std.LawfulEqOrd κ]

/-- The keys of a map are distinct. -/
theorem distinct (map : SortedMap κ ν) :
    map.entries.Pairwise fun earlier later => earlier.1 ≠ later.1 := by
  refine map.sorted.imp ?_
  intro earlier later hLess hEqual
  have hSame : compare earlier.1 later.1 = .eq := by
    rw [hEqual]
    exact Std.ReflCmp.compare_self
  rw [hSame] at hLess
  cases hLess

theorem lookup_eq_some_iff {key : κ} {value : ν} {entries : List (κ × ν)}
    (hDistinct : entries.Pairwise fun earlier later => earlier.1 ≠ later.1) :
    lookup key entries = some value ↔ (key, value) ∈ entries := by
  induction entries with
  | nil => simp [lookup]
  | cons first rest ih =>
      obtain ⟨hFirst, hRest⟩ := List.pairwise_cons.mp hDistinct
      obtain ⟨name, content⟩ := first
      by_cases hKey : compare name key = .eq
      · have hName : name = key := Std.LawfulEqCmp.eq_of_compare hKey
        subst hName
        -- no later entry has the key of the first one
        have hAbsent : (name, value) ∉ rest := by
          intro hMem
          exact hFirst _ hMem rfl
        simp [lookup, hAbsent, eq_comm]
      · have hName : key ≠ name := by
          rintro rfl
          exact hKey Std.ReflCmp.compare_self
        rw [lookup, if_neg hKey, ih hRest]
        simp [hName]

theorem lookup_eq_none {key : κ} {entries : List (κ × ν)}
    (hAbsent : ∀ entry ∈ entries, key ≠ entry.1) : lookup key entries = none := by
  induction entries with
  | nil => rfl
  | cons first rest ih =>
      have hFirst : compare first.1 key ≠ .eq := by
        intro hEqual
        exact hAbsent first List.mem_cons_self (Std.LawfulEqCmp.eq_of_compare hEqual).symm
      rw [lookup, if_neg hFirst]
      exact ih fun entry hMem => hAbsent entry (List.mem_cons_of_mem first hMem)

theorem get?_eq_some_iff {map : SortedMap κ ν} {key : κ} {value : ν} :
    map.get? key = some value ↔ (key, value) ∈ map.entries :=
  lookup_eq_some_iff map.distinct

theorem mem_keys_iff {map : SortedMap κ ν} {key : κ} :
    key ∈ map.keys ↔ ∃ value, map.get? key = some value := by
  simp only [keys, List.mem_map, get?_eq_some_iff]
  constructor
  · rintro ⟨⟨_, value⟩, hMem, rfl⟩
    exact ⟨value, hMem⟩
  · rintro ⟨value, hMem⟩
    exact ⟨(key, value), hMem, rfl⟩

theorem mem_values_iff {map : SortedMap κ ν} {value : ν} :
    value ∈ map.values ↔ ∃ key, map.get? key = some value := by
  simp only [values, List.mem_map, get?_eq_some_iff]
  constructor
  · rintro ⟨⟨key, _⟩, hMem, rfl⟩
    exact ⟨key, hMem⟩
  · rintro ⟨key, hMem⟩
    exact ⟨(key, value), hMem, rfl⟩

theorem isEmpty_iff_get? {map : SortedMap κ ν} :
    map.isEmpty = true ↔ ∀ key, map.get? key = none := by
  constructor
  · intro h key
    rw [eq_empty_of_isEmpty h]
    rfl
  · intro h
    rw [isEmpty, List.isEmpty_iff, List.eq_nil_iff_forall_not_mem]
    rintro ⟨key, value⟩ hMem
    have hFound := get?_eq_some_iff.mpr hMem
    simp [h key] at hFound

@[simp] theorem get?_erase_self (map : SortedMap κ ν) (key : κ) :
    (map.erase key).get? key = none := by
  rw [Option.eq_none_iff_forall_ne_some]
  intro value hFound
  have hMem := get?_eq_some_iff.mp hFound
  simp [erase] at hMem

theorem get?_erase_of_ne (map : SortedMap κ ν) {key other : κ} (hNe : other ≠ key) :
    (map.erase key).get? other = map.get? other := by
  have hKey : compare other key ≠ .eq := fun h => hNe (Std.LawfulEqCmp.eq_of_compare h)
  ext value
  rw [get?_eq_some_iff, get?_eq_some_iff]
  simp [erase, hKey]

theorem get?_erase [DecidableEq κ] (map : SortedMap κ ν) (key other : κ) :
    (map.erase key).get? other = if key = other then none else map.get? other := by
  by_cases hKey : key = other
  · subst hKey
    simp
  · rw [if_neg hKey]
    exact map.get?_erase_of_ne (Ne.symm hKey)

/-- Where keys are found only under themselves, a value may depend on its key. -/
theorem get?_mapValues_key {μ : Type} (f : κ → ν → μ) (map : SortedMap κ ν) (key : κ) :
    (map.mapValues f).get? key = (map.get? key).map (f key) := by
  obtain ⟨entries, hSorted⟩ := map
  simp only [get?, mapValues]
  clear hSorted
  induction entries with
  | nil => rfl
  | cons first rest ih =>
      rw [List.map_cons, lookup, lookup]
      split
      · rename_i hSame
        rw [Std.LawfulEqCmp.eq_of_compare hSame, Option.map_some]
      · exact ih

theorem get?_modify [DecidableEq κ] (map : SortedMap κ ν) (key other : κ) (f : ν → ν) :
    (map.modify key f).get? other =
      if key = other then (map.get? other).map f else map.get? other := by
  rw [modify, get?_mapValues_key]
  by_cases hSame : key = other
  · subst hSame
    simp only [Std.ReflCmp.compare_self, if_true]
  · have hOther : compare other key ≠ .eq :=
      fun hEq => hSame (Std.LawfulEqCmp.eq_of_compare hEq).symm
    simp only [if_neg hOther, if_neg hSame, Option.map_id']

variable [Std.TransOrd κ]

theorem lookup_insertEntry_self (key : κ) (value : ν) (entries : List (κ × ν)) :
    lookup key (insertEntry key value entries) = some value := by
  induction entries with
  | nil => simp [insertEntry, lookup]
  | cons first rest ih =>
      unfold insertEntry
      split
      · simp [lookup]
      · simp [lookup]
      · rename_i hGreater
        have hFirst : compare first.1 key ≠ .eq := by
          rw [Std.OrientedCmp.lt_of_gt hGreater]
          decide
        rw [lookup, if_neg hFirst]
        exact ih

omit [Std.TransOrd κ] in
theorem lookup_insertEntry_of_ne {key other : κ} (hNe : key ≠ other) (value : ν)
    (entries : List (κ × ν)) :
    lookup other (insertEntry key value entries) = lookup other entries := by
  have hKey : compare key other ≠ .eq := fun h => hNe (Std.LawfulEqCmp.eq_of_compare h)
  induction entries with
  | nil => simp [insertEntry, lookup, hKey]
  | cons first rest ih =>
      unfold insertEntry
      split
      · rw [lookup, if_neg hKey]
      · rename_i hEqual
        have hFirst : key = first.1 := Std.LawfulEqCmp.eq_of_compare hEqual
        rw [lookup, if_neg hKey, lookup, ← hFirst, if_neg hKey]
      · rw [lookup, lookup, ih]

@[simp] theorem get?_insert_self (map : SortedMap κ ν) (key : κ) (value : ν) :
    (map.insert key value).get? key = some value :=
  lookup_insertEntry_self key value map.entries

theorem get?_insert_of_ne (map : SortedMap κ ν) {key other : κ} (hNe : key ≠ other) (value : ν) :
    (map.insert key value).get? other = map.get? other :=
  lookup_insertEntry_of_ne hNe value map.entries

theorem get?_insert [DecidableEq κ] (map : SortedMap κ ν) (key other : κ) (value : ν) :
    (map.insert key value).get? other = if key = other then some value else map.get? other := by
  by_cases hKey : key = other
  · subst hKey
    simp
  · rw [if_neg hKey]
    exact map.get?_insert_of_ne hKey value

/-- Maps with the same lookups have the same entries, in the same order. -/
theorem ext_get? {left right : SortedMap κ ν} (h : ∀ key, left.get? key = right.get? key) :
    left = right := by
  have hNodup (map : SortedMap κ ν) : map.entries.Nodup := by
    refine map.distinct.imp ?_
    intro earlier later hKeys hEqual
    exact hKeys (congrArg Prod.fst hEqual)
  have hPerm : left.entries.Perm right.entries := by
    rw [List.perm_ext_iff_of_nodup (hNodup left) (hNodup right)]
    rintro ⟨key, value⟩
    rw [← get?_eq_some_iff, ← get?_eq_some_iff, h key]
  apply ext
  refine hPerm.eq_of_pairwise ?_ left.sorted right.sorted
  intro first second _ _ hLess hGreater
  rw [Std.OrientedCmp.gt_of_lt hLess] at hGreater
  cases hGreater

/-- Maps with the same keys list them in the same order. -/
theorem keys_ext {left right : SortedMap κ ν} (h : ∀ key, key ∈ left.keys ↔ key ∈ right.keys) :
    left.keys = right.keys := by
  have hNodup (map : SortedMap κ ν) : map.keys.Nodup := List.pairwise_map.mpr map.distinct
  have hPerm : left.keys.Perm right.keys :=
    (List.perm_ext_iff_of_nodup (hNodup left) (hNodup right)).mpr h
  have hSorted (map : SortedMap κ ν) :
      map.keys.Pairwise fun earlier later => compare earlier later = .lt :=
    List.pairwise_map.mpr map.sorted
  refine hPerm.eq_of_pairwise ?_ (hSorted left) (hSorted right)
  intro first second _ _ hLess hGreater
  rw [Std.OrientedCmp.gt_of_lt hLess] at hGreater
  cases hGreater

/-- Inserting entries with distinct keys one by one: a lookup finds the list's own entry, or
else what was there before. -/
theorem get?_foldl_insert {entries : List (κ × ν)}
    (hDistinct : entries.Pairwise fun earlier later => earlier.1 ≠ later.1)
    (start : SortedMap κ ν) (key : κ) :
    (entries.foldl (fun map entry => map.insert entry.1 entry.2) start).get? key =
      (lookup key entries).or (start.get? key) := by
  induction entries generalizing start with
  | nil => simp [lookup]
  | cons first rest ih =>
      obtain ⟨hFirst, hRest⟩ := List.pairwise_cons.mp hDistinct
      rw [List.foldl_cons, ih hRest]
      by_cases hKey : first.1 = key
      · subst hKey
        simp [lookup, lookup_eq_none hFirst]
      · have hCompare : compare first.1 key ≠ .eq := by
          intro h
          exact hKey (Std.LawfulEqCmp.eq_of_compare h)
        rw [get?_insert_of_ne _ hKey, lookup, if_neg hCompare]

/-- The map of a list with distinct keys holds exactly its entries. -/
theorem get?_ofList {entries : List (κ × ν)}
    (hDistinct : entries.Pairwise fun earlier later => earlier.1 ≠ later.1) (key : κ) :
    (ofList entries).get? key = lookup key entries := by
  have hFold := get?_foldl_insert hDistinct empty key
  rw [get?_empty, Option.or_none] at hFold
  exact hFold

/-- A map is rebuilt from its own entry list. -/
@[simp] theorem ofList_entries (map : SortedMap κ ν) : ofList map.entries = map := by
  apply ext_get?
  intro key
  exact get?_ofList map.distinct key

end Lawful

end PgConsole.SortedMap
