import Mathlib.Data.List.Pairwise
import PgConsole.Proofs.KeyOrder
import PgConsole.Proofs.Manager.Registry
import PgConsole.Proofs.Manager.Snapshot

namespace PgConsole

/-!
# The order in which a restore visits connections

A snapshot keeps connections in the order of the texts of their keys, and a restore visits them in
that order (`Manager.attempts_restore_sublist`).  A registry is in the order of the keys themselves,
and lost connections are reopened in that one (`Manager.attempts_restoreConnections_sublist`).
`entries_in_key_order_iff` says when the two orders are the same: whenever the registered numbers
are aligned digit by digit.
-/

namespace Manager

variable {World : Type} {services : Services World}

/-- The entries of a snapshot stand in the order of their texts. -/
theorem entries_in_text_order {config : ConsoleConfig} {manager : Manager}
    {saved : ManagerSnapshot} (hSaved : manager.snapshot config = some saved)
    {entries : List (ConnectionKey × ConnectionSnapshot)} (hEntries : saved.entries = .ok entries) :
    (entries.map Prod.fst).Pairwise fun earlier later => earlier.toText < later.toText := by
  obtain ⟨others, hOthers, hStored⟩ := exists_entries_snapshot hSaved
  obtain rfl : entries = others := Except.ok.inj (hEntries.symm.trans hOthers)
  have hSorted := saved.connections.sorted
  rw [hStored, List.pairwise_map] at hSorted
  refine List.pairwise_map.mpr (hSorted.imp ?_)
  intro earlier later hLess
  exact compareOfLessAndEq_eq_lt.mp hLess

/-- The keys of the entries of a snapshot are the registered keys. -/
theorem entries_perm_keys {config : ConsoleConfig} {manager : Manager} (hKeyed : manager.Keyed)
    {saved : ManagerSnapshot} (hSaved : manager.snapshot config = some saved)
    {entries : List (ConnectionKey × ConnectionSnapshot)} (hEntries : saved.entries = .ok entries) :
    (entries.map Prod.fst).Perm manager.keys := by
  obtain ⟨others, hOthers, hDistinct, hLookup⟩ := entries_snapshot hSaved
  obtain rfl : entries = others := Except.ok.inj (hEntries.symm.trans hOthers)
  have hKeys : manager.keys.Nodup := List.pairwise_map.mpr manager.registry.distinct
  rw [List.perm_ext_iff_of_nodup (List.pairwise_map.mpr hDistinct) hKeys]
  intro key
  have hFound : key ∈ entries.map Prod.fst ↔
      ∃ written, SortedMap.lookup key entries = some written := by
    simp [SortedMap.lookup_eq_some_iff hDistinct]
  rw [hFound, hLookup, show key ∈ manager.keys ↔ _ from SortedMap.mem_keys_iff]
  constructor
  · rintro ⟨written, hWritten⟩
    obtain ⟨connection, hConnection, -⟩ := Option.map_eq_some_iff.mp hWritten
    obtain ⟨number, hNumber, -⟩ := Option.bind_eq_some_iff.mp hConnection
    exact ⟨number, hNumber⟩
  · rintro ⟨number, hNumber⟩
    obtain ⟨connection, -, hConnection, -⟩ := hKeyed.connectionAt?_eq_some hNumber
    exact ⟨savedConnection connection, by rw [hConnection, Option.map_some]⟩

/-- Registered keys stand in the order of their texts exactly if the numbers among them are
aligned. -/
theorem keys_in_text_order_iff (manager : Manager) :
    (manager.keys.Pairwise fun earlier later => earlier.toText < later.toText) ↔
      ∀ lower higher, .conn lower ∈ manager.keys → .conn higher ∈ manager.keys → lower < higher →
        Text.Aligned lower.toNat higher.toNat := by
  have hSorted : manager.keys.Pairwise fun earlier later => compare earlier later = .lt :=
    List.pairwise_map.mpr manager.registry.sorted
  constructor
  · intro hTexts lower higher hLower hHigher hLess
    have hBefore : compare (ConnectionKey.conn lower) (.conn higher) = .lt :=
      compareOfLessAndEq_eq_lt.mpr hLess
    -- of two keys in the list, the one that comes first has the lesser text
    have hAll : ∀ ⦃first⦄, first ∈ manager.keys → ∀ ⦃second⦄, second ∈ manager.keys →
        compare first second = .lt → first.toText < second.toText := by
      refine List.Pairwise.forall_of_forall_of_flip ?_ (hTexts.imp ?_) (hSorted.imp ?_)
      · intro key _ hSelf
        rw [show compare key key = .eq from Std.ReflCmp.compare_self] at hSelf
        cases hSelf
      · intro earlier later hText _
        exact hText
      · intro earlier later hEarlier hLater
        rw [Std.OrientedCmp.gt_of_lt hEarlier] at hLater
        cases hLater
    exact (ConnectionKey.toText_lt_iff hBefore).mp (hAll hLower hHigher hBefore)
  · intro hAligned
    refine hSorted.imp_of_mem ?_
    intro earlier later hEarlier hLater hBefore
    refine (ConnectionKey.toText_lt_iff hBefore).mpr ?_
    cases earlier with
    | db name => trivial
    | conn lower =>
        cases later with
        | db name => trivial
        | conn higher =>
            exact hAligned lower higher hEarlier hLater (compareOfLessAndEq_eq_lt.mp hBefore)

/-! ## The visits of a restore -/

theorem restoreAttempts_sublist {manager : Manager} (hKeyed : manager.Keyed)
    (entries : List (ConnectionKey × ConnectionSnapshot)) (world : World) :
    ((restoreAttempts services entries manager world).map Attempt.key?).Sublist
      (entries.map fun entry => some entry.1) := by
  induction entries generalizing manager world with
  | nil => exact .slnil
  | cons entry rest ih =>
      obtain ⟨key, saved⟩ := entry
      have hRegistered := hKeyed.register key saved.database saved.flags saved.wasConnected
      have hSelf := register_get?_self manager key saved.database saved.flags saved.wasConnected
      rw [restoreAttempts, List.map_cons]
      generalize manager.register key saved.database saved.flags saved.wasConnected = registration
        at hRegistered hSelf ⊢
      obtain ⟨number, registered⟩ := registration
      dsimp only at hRegistered hSelf ⊢
      split
      · exact (ih hRegistered world).cons _
      · -- the attempt is for the connection that has just been registered
        obtain ⟨connection, hFound, hKey⟩ := hRegistered.leads hSelf
        have hConnected := @Keyed.connect _ services _ hRegistered number none world
        rw [List.map_cons]
        have hAttempt : Attempt.key? ⟨number, none, registered, world⟩ = some key := by
          rw [Attempt.key?, hFound, Option.map_some, hKey]
        rw [hAttempt]
        refine .cons_cons _ ?_
        generalize registered.connect services number none world = outcome at hConnected ⊢
        obtain ⟨result, connected, after⟩ := outcome
        cases result with
        | ok _ => exact ih hConnected after
        | error error =>
            cases error with
            | cryptKeyMissing => exact ih hConnected after
            | _ => exact List.nil_sublist _

/-- A restore attempts connections in the order of the entries. -/
theorem attempts_restore_sublist {manager : Manager} (hKeyed : manager.Keyed)
    {saved : ManagerSnapshot} {entries : List (ConnectionKey × ConnectionSnapshot)}
    (hEntries : saved.entries = .ok entries) (world : World) :
    ((manager.attempts services (.restore saved) world).map Attempt.key?).Sublist
      (entries.map fun entry => some entry.1) := by
  rw [attempts, hEntries]
  cases saved.checkVersion with
  | error error => exact List.nil_sublist _
  | ok _ =>
      have hTaken : (manager.takeOver services.config saved).Keyed := ⟨hKeyed.leads⟩
      exact restoreAttempts_sublist hTaken entries world

theorem reconnectAttempts_sublist {manager : Manager} (hKeyed : manager.Keyed)
    {entries : List (ConnectionKey × Nat)}
    (hEntries : ∀ entry ∈ entries, manager.registry.get? entry.1 = some entry.2) (world : World) :
    ((reconnectAttempts services (entries.map Prod.snd) manager world).map Attempt.key?).Sublist
      (entries.map fun entry => some entry.1) := by
  induction entries generalizing manager world with
  | nil => exact .slnil
  | cons entry rest ih =>
      obtain ⟨key, number⟩ := entry
      have hRest : ∀ entry ∈ rest, manager.registry.get? entry.1 = some entry.2 :=
        fun entry hMem => hEntries entry (List.mem_cons_of_mem _ hMem)
      rw [List.map_cons, reconnectAttempts, List.map_cons]
      split
      · obtain ⟨connection, hFound, hKey⟩ := hKeyed.leads (hEntries (key, number) List.mem_cons_self)
        have hAttempt : Attempt.key? ⟨number, none, manager, world⟩ = some key := by
          rw [Attempt.key?, hFound, Option.map_some, hKey]
        have hConnected := @Keyed.connect _ services _ hKeyed number none world
        have hRegistry := connect_registry services number none manager world
        rw [List.map_cons, hAttempt]
        refine .cons_cons _ ?_
        generalize manager.connect services number none world = outcome
          at hConnected hRegistry ⊢
        obtain ⟨result, connected, after⟩ := outcome
        dsimp only at hConnected hRegistry
        rw [← hRegistry] at hRest
        cases result with
        | ok _ => exact ih hConnected hRest after
        | error error =>
            cases error with
            | cryptKeyMissing => exact ih hConnected hRest after
            | _ => exact List.nil_sublist _
      · exact (ih hKeyed hRest world).cons _

/-- Lost connections are reopened in the order of their keys, whatever their numbers. -/
theorem attempts_restoreConnections_sublist {manager : Manager} (hKeyed : manager.Keyed)
    (world : World) :
    ((manager.attempts services .restoreConnections world).map Attempt.key?).Sublist
      (manager.keys.map some) := by
  have hEntries : ∀ entry ∈ manager.registry.entries,
      manager.registry.get? entry.1 = some entry.2 :=
    fun entry hMem => SortedMap.get?_eq_some_iff.mpr hMem
  rw [keys, SortedMap.keys, List.map_map]
  exact reconnectAttempts_sublist hKeyed hEntries world

/-- The entries of a snapshot are the registered connections, in the order of the texts of their
keys, and a restore visits them in this order.  It is the order of the keys, in which lost
connections are reopened, exactly if the registered numbers are aligned. -/
theorem entries_in_key_order_iff {manager : Manager} (hArisen : Arisen services manager)
    {config : ConsoleConfig} {saved : ManagerSnapshot}
    (hSaved : manager.snapshot config = some saved) :
    ∃ entries, saved.entries = .ok entries ∧ (entries.map Prod.fst).Perm manager.keys ∧
      ((entries.map Prod.fst).Pairwise fun earlier later => earlier.toText < later.toText) ∧
      (entries.map Prod.fst = manager.keys ↔ ∀ lower higher, .conn lower ∈ manager.keys →
        .conn higher ∈ manager.keys → lower < higher → Text.Aligned lower.toNat higher.toNat) ∧
      ∀ other, Arisen services other → ∀ world,
        ((other.attempts services (.restore saved) world).map Attempt.key?).Sublist
            (entries.map fun entry => some entry.1) ∧
          ((other.attempts services .restoreConnections world).map Attempt.key?).Sublist
            (other.keys.map some) := by
  obtain ⟨entries, hEntries, -⟩ := exists_entries_snapshot hSaved
  have hPerm := entries_perm_keys hArisen.keyed hSaved hEntries
  have hTexts := entries_in_text_order hSaved hEntries
  refine ⟨entries, hEntries, hPerm, hTexts, ?_, ?_⟩
  · rw [← keys_in_text_order_iff]
    constructor
    · intro hSame
      rwa [hSame] at hTexts
    · -- the same keys, and both lists in the order of their texts
      intro hKeys
      refine hPerm.eq_of_pairwise ?_ hTexts hKeys
      intro first second _ _ hLess hGreater
      exact absurd hGreater (String.lt_asymm hLess)
  · intro other hOther world
    exact ⟨attempts_restore_sublist hOther.keyed hEntries world,
      attempts_restoreConnections_sublist hOther.keyed world⟩

/-- Connections with the numbers 1 and 12 are saved and visited in the order of their numbers. -/
theorem visited_in_order_of_aligned_numbers :
    let services := Services.steady (.standard "" "") (.ok 0)
      (.ok [[("ver", some "PostgreSQL 16.2"), ("sversion", some "160002")]]) (.ok ⟨0, 50000⟩)
    let identity : ServerIdentity :=
      { id := 1, name := "main", host := "db.internal", username := "app" }
    let manager := interactAll services
      [((), .connection { database := some "app", connectionId := some 12 }),
        ((), .connection { database := some "app", connectionId := some 1 }),
        ((), .connect 0 none), ((), .connect 1 none)] (.new identity)
    manager.keys = [.conn 1, .conn 12] ∧
      ∃ saved entries, manager.snapshot (.standard "" "") = some saved ∧
        saved.entries = .ok entries ∧ entries.map Prod.fst = manager.keys ∧
        (((Manager.new identity).attempts services (.restore saved) ()).map Attempt.key?).Sublist
          (manager.keys.map some) := by
  intro services identity manager
  have hArisen : Arisen services manager := (Arisen.new identity).interactAll _
  have hKeys : manager.keys = [.conn 1, .conn 12] := by decide +kernel
  have hSaved : (manager.snapshot (.standard "" "")).isSome = true := by decide +kernel
  obtain ⟨saved, hSaved⟩ := Option.isSome_iff_exists.mp hSaved
  obtain ⟨entries, hEntries, -, -, hOrder, hVisits⟩ := entries_in_key_order_iff hArisen hSaved
  have hSame : entries.map Prod.fst = manager.keys := by
    -- 1 is the first digit of 12
    refine hOrder.mpr ?_
    intro lower higher hLower hHigher hLess
    rw [hKeys] at hLower hHigher
    simp only [List.mem_cons, ConnectionKey.conn.injEq, List.not_mem_nil, or_false] at hLower hHigher
    rcases hLower with rfl | rfl <;> rcases hHigher with rfl | rfl <;> revert hLess <;> decide
  refine ⟨hKeys, saved, entries, hSaved, hEntries, hSame, ?_⟩
  rw [← hSame, List.map_map]
  exact (hVisits (.new identity) (.new identity) ()).1

/-- Connections with the numbers 9 and 10 are registered in this order, but saved and visited in
the other one. -/
theorem visited_out_of_order :
    let services := Services.steady (.standard "" "") (.ok 0)
      (.ok [[("ver", some "PostgreSQL 16.2"), ("sversion", some "160002")]]) (.ok ⟨0, 50000⟩)
    let identity : ServerIdentity :=
      { id := 1, name := "main", host := "db.internal", username := "app" }
    let manager := interactAll services
      [((), .connection { database := some "app", connectionId := some 9 }),
        ((), .connection { database := some "app", connectionId := some 10 }),
        ((), .connect 0 none), ((), .connect 1 none)] (.new identity)
    let saved := manager.snapshot (.standard "" "")
    Arisen services manager ∧ manager.keys = [.conn 9, .conn 10] ∧
      saved.bind (fun saved => saved.entries.toOption.map (List.map Prod.fst)) =
        some [.conn 10, .conn 9] ∧
      saved.map (fun saved => ((Manager.new identity).attempts services (.restore saved) ()).map
        Attempt.key?) = some [some (.conn 10), some (.conn 9)] := by
  intro services identity manager saved
  refine ⟨(Arisen.new identity).interactAll _, ?_⟩
  decide +kernel

end Manager

end PgConsole
