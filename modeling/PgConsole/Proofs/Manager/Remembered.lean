import PgConsole.Proofs.Manager.PartialRestore
import PgConsole.Proofs.Manager.Release
import PgConsole.Proofs.Manager.Resolve

namespace PgConsole

/-!
# The databases that a manager remembers

A database that has been looked up by its oid is remembered, and from then on a request that gives
the oid alone is answered from memory.  `Manager.LookedUp` says that callers have an oid looked up
in one turn and what name the server tells, `Turn.nameGiven?` which name a request gives together
with an oid, and `Manager.Drops` which turns make a manager forget an oid.

`TurnEffect` lists everything that one turn can do to the name remembered for an oid, and
`nameOf?_turns` says what any turns come to: a name is remembered exactly if the oid has been looked
up and not been dropped since, and it is the last one given since then, or else the one that the
server told.
-/

/-- What callers do in one turn with a manager, or with a connection that it has made. -/
inductive Turn where
  | interaction (interaction : Interaction)
  | newPassword (password : Secret)
  deriving DecidableEq, Repr

/-- The turn is a request for a connection. -/
def Turn.isRequest : Turn → Bool
  | .interaction (.connection _) => true
  | _ => false

/-- The name that a request gives together with an oid. -/
def Turn.nameGiven? (oid : UInt32) : Turn → Option String
  | .interaction (.connection request) => if request.oid = some oid then request.database else none
  | _ => none

theorem Turn.nameGiven?_of_unnamed {request : ConnectionRequest} (h : request.database = none)
    (oid : UInt32) : (Turn.interaction (.connection request)).nameGiven? oid = none := by
  rw [nameGiven?, h, ite_self]

theorem Turn.nameGiven?_of_other {request : ConnectionRequest} {oid : UInt32}
    (h : request.oid ≠ some oid) :
    (Turn.interaction (.connection request)).nameGiven? oid = none :=
  if_neg h

/-- The last name given together with an oid, or else the one known before. -/
def lastName {World : Type} (oid : UInt32) (turns : List (World × Turn)) (known : String) :
    String :=
  (turns.filterMap fun turn => turn.2.nameGiven? oid).getLast?.getD known

theorem lastName_cons {World : Type} (oid : UInt32) (turn : World × Turn)
    (rest : List (World × Turn)) (known : String) :
    lastName oid (turn :: rest) known = lastName oid rest ((turn.2.nameGiven? oid).getD known) := by
  unfold lastName
  rw [List.filterMap_cons]
  cases turn.2.nameGiven? oid with
  | none => rfl
  | some name => rw [List.getLast?_cons, Option.getD_some, Option.getD_some]

namespace Manager

variable {World : Type}

/-- Do what callers do in one turn. -/
def turn (services : Services World) (turn : Turn) (manager : Manager) (world : World) : Manager :=
  match turn with
  | .interaction interaction => (manager.interact services interaction world).2.1
  | .newPassword password => manager.updatePassword password

/-- One turn after the other, each in the world it finds. -/
def turns (services : Services World) (turns : List (World × Turn)) (manager : Manager) : Manager :=
  turns.foldl (fun manager turn => manager.turn services turn.2 turn.1) manager

/-- The name remembered for an oid. -/
def nameOf? (oid : UInt32) (manager : Manager) : Option String :=
  (manager.databases.get? oid).map DatabaseInfo.name

/-- The oid is looked up in a turn, and the server tells the name. -/
inductive LookedUp (services : Services World) (oid : UInt32) (manager : Manager) (world : World) :
    Turn → String → Prop where
  | describe {request : ConnectionRequest} {maintenance : String} {found : DatabaseInfo}
      {connected : Manager} {final : World} (hLooksUp : request.LooksUp manager oid maintenance)
      (hDescribes : Describes services (manager.forLookup maintenance).1 oid
        (manager.forLookup maintenance).2 world found connected final) :
      LookedUp services oid manager world (.interaction (.connection request)) found.name

theorem LookedUp.unknown {services : Services World} {oid : UInt32} {manager : Manager}
    {world : World} {turn : Turn} {told : String}
    (h : LookedUp services oid manager world turn told) : manager.nameOf? oid = none := by
  obtain ⟨hLooksUp, -⟩ := h
  rw [nameOf?, hLooksUp.unknown, Option.map_none]

/-- An oid is dropped in a turn: by an update, and by a release that takes something and is a full
one, or names the oid, or leaves no connection. -/
def Drops (services : Services World) (oid : UInt32) (manager : Manager) (world : World) :
    Turn → Prop
  | .interaction (.update _) => True
  | .interaction (.release request) =>
    let outcome := manager.release services request world
    outcome.1 = true ∧
      (request = {} ∨ request.oid = some oid ∨ outcome.2.1.registry.isEmpty = true)
  | _ => False

/-- An oid is dropped in the course of some turns. -/
def DroppedAlong (services : Services World) (oid : UInt32) (turns : List (World × Turn))
    (manager : Manager) : Prop :=
  ∃ before turn after, turns = before ++ turn :: after ∧
    Drops services oid (manager.turns services before) turn.1 turn.2

/-- An oid is looked up in the course of some turns and not dropped after that, and this is the
name that it has in the end. -/
def RecalledAlong (services : Services World) (oid : UInt32) (turns : List (World × Turn))
    (manager : Manager) (name : String) : Prop :=
  ∃ before turn between, turns = before ++ turn :: between ∧
    ∃ told, LookedUp services oid (manager.turns services before) turn.1 turn.2 told ∧
      ¬DroppedAlong services oid between (manager.turns services (before ++ [turn])) ∧
      lastName oid between told = name

section Memory

variable (services : Services World)

/-! ## What leaves the memory alone -/

@[simp] theorem connect_databases (number : Nat) (explicit : Option Secret) (manager : Manager)
    (world : World) :
    (manager.connect services number explicit world).2.1.databases = manager.databases := by
  have hCase := connect_case services number explicit manager world
  generalize manager.connect services number explicit world = outcome at hCase ⊢
  cases hCase <;> rfl

@[simp] theorem register_databases (key : ConnectionKey) (database : String)
    (flags : ConnectionFlags) (wasConnected : Bool) (manager : Manager) :
    (manager.register key database flags wasConnected).2.databases = manager.databases := by
  obtain ⟨connections, registry, hFrame⟩ := register_frame key database flags wasConnected manager
  rw [hFrame]

theorem ensureConnected_databases (number : Nat) (manager : Manager) (world : World) :
    (manager.ensureConnected services number world).2.1.databases = manager.databases :=
  ensureConnected_view services (connect_databases services) number manager world

theorem releaseConnection_databases (number : Nat) (manager : Manager) (world : World) :
    (manager.releaseConnection services number world).1.databases = manager.databases := by
  obtain ⟨connections, hFrame, -⟩ := releaseConnection_frame services number manager world
  rw [hFrame]

theorem visit_databases (entry : ConnectionKey × ConnectionSnapshot) (manager : Manager)
    (world : World) :
    (restoreEntries services [entry] manager world).2.1.databases = manager.databases := by
  obtain ⟨key, saved⟩ := entry
  have hRegistered :=
    register_databases key saved.database saved.flags saved.wasConnected manager
  have hCase := visit_case services key saved manager world
  generalize restoreEntries services [(key, saved)] manager world = outcome at hCase ⊢
  cases hCase with
  | settled hRegister =>
      rw [hRegister] at hRegistered
      exact hRegistered
  | @attempted number registered connected after result hRegister hConnect _ =>
      have hConnected := connect_databases services number none registered world
      rw [hConnect] at hConnected
      rw [hRegister] at hRegistered
      exact hConnected.trans hRegistered
  | @refused number registered connected after error hRegister _ hConnect _ =>
      have hConnected := connect_databases services number none registered world
      obtain ⟨connections, registry, hDiscarded, -⟩ := discard_frame services key connected after
      rw [hConnect] at hConnected
      rw [hRegister] at hRegistered
      rw [hDiscarded]
      exact hConnected.trans hRegistered

theorem restoreEntries_databases (entries : List (ConnectionKey × ConnectionSnapshot))
    (manager : Manager) (world : World) :
    (restoreEntries services entries manager world).2.1.databases = manager.databases := by
  induction entries generalizing manager world with
  | nil => rfl
  | cons entry rest ih =>
      have hFirst := visit_databases services entry manager world
      rw [restoreEntries_cons]
      generalize restoreEntries services [entry] manager world = visited at hFirst ⊢
      obtain ⟨result, next, later⟩ := visited
      cases result with
      | ok _ => exact (ih next later).trans hFirst
      | error _ => exact hFirst

theorem restore_databases (snapshot : ManagerSnapshot) (manager : Manager) (world : World) :
    (manager.restore services snapshot world).2.1.databases = manager.databases := by
  unfold restore
  split
  · rfl
  · split
    · rfl
    · exact restoreEntries_databases services _ _ world

theorem reconnectEach_databases (numbers : List Nat) (manager : Manager) (world : World) :
    (reconnectEach services numbers manager world).2.1.databases = manager.databases :=
  reconnectEach_view services (connect_databases services) numbers manager world

/-! ## Releases -/

/-- A release by key forgets the oid that it names, and everything with the last connection. -/
theorem releaseKey_databases (key : ConnectionKey) (number : Nat) (given : Option UInt32)
    (manager : Manager) (world : World) (oid : UInt32) :
    let after := (manager.releaseKey services key number given world).1
    after.databases.get? oid =
      if given = some oid ∨ after.registry.isEmpty = true then none
      else manager.databases.get? oid := by
  obtain ⟨connections, hClosed, -⟩ := releaseConnection_frame services number
    { manager with registry := manager.registry.erase key } world
  unfold releaseKey
  generalize releaseConnection services number
    { manager with registry := manager.registry.erase key } world = closed at hClosed ⊢
  obtain ⟨released, after⟩ := closed
  subst hClosed
  obtain ⟨databases, hForgotten, hDatabases⟩ := forgetDatabase_frame given
    { manager with connections, registry := manager.registry.erase key }
  simp only [hForgotten]
  -- with the last connection everything goes, whatever oid the request names
  by_cases hEmpty : (manager.registry.erase key).isEmpty = true
  · simp only [clearServerState, hEmpty, or_true, if_true, SortedMap.get?_empty]
  · simp only [if_neg hEmpty, hDatabases, or_iff_left hEmpty]

theorem release_databases (request : ReleaseRequest) (manager : Manager) (world : World)
    (oid : UInt32) :
    (Drops services oid manager world (.interaction (.release request)) →
      (manager.release services request world).2.1.databases.get? oid = none) ∧
    (¬Drops services oid manager world (.interaction (.release request)) →
      (manager.release services request world).2.1.databases.get? oid =
        manager.databases.get? oid) := by
  unfold Drops
  by_cases hAll : request.isAll = true
  · obtain ⟨connections, hReleased, -⟩ := releaseAll_frame services manager world
    have hEmpty : request = {} := ReleaseRequest.isAll_iff.mp hAll
    simp only [release, if_pos hAll, hReleased]
    exact ⟨fun _ => rfl, fun hKept => absurd ⟨trivial, .inl hEmpty⟩ hKept⟩
  · have hSome : request ≠ {} := mt ReleaseRequest.isAll_iff.mpr hAll
    simp only [release, if_neg hAll, hSome, false_or]
    cases manager.releaseKey? request with
    | none => exact ⟨fun hDropped => absurd hDropped.1 Bool.false_ne_true, fun _ => rfl⟩
    | some key =>
        cases hNumber : manager.registry.get? key with
        | none =>
            simp only [hNumber]
            exact ⟨fun hDropped => absurd hDropped.1 Bool.false_ne_true, fun _ => trivial⟩
        | some number =>
            simp only [hNumber, releaseKey_databases, true_and]
            exact ⟨fun hDropped => if_pos hDropped, fun hKept => if_neg hKept⟩

/-! ## Requests -/

/-- Nothing is remembered or renamed once the database of a request has been found. -/
theorem connection_databases (request : ConnectionRequest) (manager : Manager) (world : World) :
    (manager.connection services request world).2.1.databases =
      (manager.resolveDatabase services request world).2.1.databases := by
  unfold connection
  generalize manager.resolveDatabase services request world = resolution
  obtain ⟨result, resolved, final⟩ := resolution
  cases result with
  | error _ => rfl
  | ok database? =>
      dsimp only
      split
      · rfl
      · cases database? with
        | none =>
            obtain ⟨error, tunnel, hLost⟩ := noDatabase_frame services request resolved final
            simp only [hLost]
        | some database => exact register_databases _ database request.flags false resolved

theorem Describes.databases {number : Nat} {oid : UInt32} {manager connected : Manager}
    {world final : World} {found : DatabaseInfo}
    (h : Describes services number oid manager world found connected final) :
    connected.databases = manager.databases := by
  have hEnsured := ensureConnected_databases services number manager world
  obtain ⟨middle, info, rows, hEnsure, -⟩ := h.answered
  rwa [hEnsure] at hEnsured

theorem FetchCase.databases_of_error {number : Nat} {oid : UInt32} {manager after : Manager}
    {world final : World} {error : Error}
    (h : FetchCase services number oid manager world (.error error, after, final)) :
    after.databases = manager.databases := by
  have hEnsured := ensureConnected_databases services number manager world
  cases h with
  | unconnected hEnsure => rwa [hEnsure] at hEnsured
  | uninformed hEnsure _ => rwa [hEnsure] at hEnsured
  | unanswered hEnsure _ _ => rwa [hEnsure] at hEnsured
  | absent hEnsure _ _ _ => rwa [hEnsure] at hEnsured

/-- A lookup that fails leaves the memory as it was. -/
theorem resolveDatabase_databases_of_error {request : ConnectionRequest} {manager : Manager}
    {world : World} {error : Error}
    (hError : (manager.resolveDatabase services request world).1 = .error error) :
    (manager.resolveDatabase services request world).2.1.databases = manager.databases := by
  have hCase := resolveDatabase_case services request manager world
  generalize manager.resolveDatabase services request world = resolution at hCase hError ⊢
  cases hCase with
  | named | unnamed | remembered | nowhere | found => cases hError
  | unfound _ hFetch =>
      exact hFetch.databases_of_error.trans (register_databases _ _ _ _ manager)

/-- After a request that has an oid looked up, the name is remembered that the server has told. -/
theorem resolveDatabase_of_lookedUp {oid : UInt32} {request : ConnectionRequest}
    {manager : Manager} {world : World} {told : String}
    (h : LookedUp services oid manager world (.interaction (.connection request)) told) :
    (manager.resolveDatabase services request world).2.1.nameOf? oid = some told := by
  cases h with
  | @describe _ maintenance found connected final hLooksUp hDescribes =>
      obtain ⟨middle, info, rows, hEnsure, hInfo, hRows, hFound⟩ := hDescribes.answered
      have hRequire : connected.requireInfo = .ok info := by rw [requireInfo, hInfo]
      have hFetch : (manager.forLookup maintenance).2.fetchDatabase services
          (manager.forLookup maintenance).1 oid world =
            (.ok found.name,
              { connected with databases := connected.databases.insert oid found }, final) := by
        simp only [fetchDatabase, hEnsure, hRequire, hRows, hFound]
      rw [forLookup] at hFetch
      simp only [resolveDatabase, hLooksUp.unnamed, hLooksUp.given, hLooksUp.unknown,
        hLooksUp.known, hFetch, nameOf?, SortedMap.get?_insert_self, Option.map_some]

/-- Any other request leaves what is remembered for an oid, or gives it another name. -/
theorem resolveDatabase_of_not_lookedUp {oid : UInt32} {request : ConnectionRequest}
    {manager : Manager} {world : World}
    (h : ∀ told, ¬LookedUp services oid manager world (.interaction (.connection request)) told) :
    (manager.resolveDatabase services request world).2.1.databases.get? oid =
      (manager.databases.get? oid).map fun info =>
        { info with
          name := ((Turn.interaction (.connection request)).nameGiven? oid).getD info.name } := by
  have hCase := resolveDatabase_case services request manager world
  generalize manager.resolveDatabase services request world = resolution at hCase ⊢
  cases hCase with
  | @named name hName =>
      cases hOid : request.oid with
      | none => simp [Turn.nameGiven?, hOid]
      | some given =>
          simp only [Option.elim_some, renameDatabase, SortedMap.get?_modify, Turn.nameGiven?, hOid,
            Option.some.injEq, hName]
          split <;> simp
  | unnamed hName _ | remembered hName _ _ | nowhere hName _ _ _ =>
      simp [Turn.nameGiven?_of_unnamed hName]
  | unfound hLooksUp hFetch =>
      have hSame := hFetch.databases_of_error.trans (register_databases _ _ _ _ manager)
      simp [Turn.nameGiven?_of_unnamed hLooksUp.unnamed, hSame]
  | @found given maintenance name after final hLooksUp hFetch =>
      -- of the ways in which a lookup can end, one has a name
      cases hFetch with
      | found hDescribes =>
          -- the name that is told is remembered for the oid of the request, which is another one
          have hOther : given ≠ oid := by
            rintro rfl
            exact h _ (.describe hLooksUp hDescribes)
          have hSame := hDescribes.databases.trans (register_databases _ _ _ _ manager)
          simp [Turn.nameGiven?_of_unnamed hLooksUp.unnamed, SortedMap.get?_insert_of_ne _ hOther,
            hSame]

/-- What is remembered for an oid is left alone by requests that do not give it. -/
theorem resolveDatabase_of_other {oid : UInt32} {request : ConnectionRequest}
    (hOther : request.oid ≠ some oid) (manager : Manager) (world : World) :
    (manager.resolveDatabase services request world).2.1.databases.get? oid =
      manager.databases.get? oid := by
  have hUnasked : ∀ told,
      ¬LookedUp services oid manager world (.interaction (.connection request)) told := by
    rintro told ⟨hLooksUp, -⟩
    exact hOther hLooksUp.given
  rw [resolveDatabase_of_not_lookedUp services hUnasked, Turn.nameGiven?_of_other hOther]
  exact Option.map_id'

/-! ## One turn -/

/-- Everything that a turn can do to the name of an oid: the server tells it, it is dropped, or
another one is given. -/
structure TurnEffect (oid : UInt32) (turn : Turn) (manager : Manager) (world : World)
    (after : Option String) : Prop where
  told : ∀ name, LookedUp services oid manager world turn name → after = some name
  dropped : Drops services oid manager world turn → after = none
  kept : (∀ name, ¬LookedUp services oid manager world turn name) →
    ¬Drops services oid manager world turn →
    after = (manager.nameOf? oid).map (turn.nameGiven? oid).getD

/-- Nothing is looked up but for requests. -/
theorem not_lookedUp {oid : UInt32} {turn : Turn} {manager : Manager} {world : World}
    (h : turn.isRequest = false) (told : String) :
    ¬LookedUp services oid manager world turn told := by
  intro hLookedUp
  cases hLookedUp
  cases h

/-- Most turns have nothing to do with the memory. -/
theorem TurnEffect.of_databases {oid : UInt32} {turn : Turn} {manager after : Manager}
    {world : World} (hSame : after.databases = manager.databases)
    (hUnasked : turn.isRequest = false) (hKept : ¬Drops services oid manager world turn)
    (hGiven : turn.nameGiven? oid = none) :
    TurnEffect services oid turn manager world (after.nameOf? oid) := by
  refine ⟨fun name hTold => absurd hTold (not_lookedUp services hUnasked name),
    fun hDrops => absurd hDrops hKept, ?_⟩
  intro _ _
  rw [nameOf?, hSame, hGiven]
  exact Option.map_id'.symm

theorem turn_effect (oid : UInt32) (turn : Turn) (manager : Manager) (world : World) :
    TurnEffect services oid turn manager world
      ((manager.turn services turn world).nameOf? oid) := by
  cases turn with
  | newPassword password => exact .of_databases services rfl rfl id rfl
  | interaction interaction =>
      cases interaction with
      | update identity =>
          obtain ⟨connections, hUpdated⟩ := update_frame services identity manager world
          refine ⟨fun name hTold => absurd hTold (not_lookedUp services rfl name), fun _ => ?_,
            fun _ hKept => absurd trivial hKept⟩
          simp only [turn, interact, hUpdated, nameOf?, SortedMap.get?_empty, Option.map_none]
      | connection request =>
          have hSame := connection_databases services request manager world
          refine ⟨?_, False.elim, ?_⟩
          · intro name hTold
            have hResolved := resolveDatabase_of_lookedUp services hTold
            simp only [turn, interact, nameOf?, hSame]
            exact hResolved
          · intro hUnasked _
            simp only [turn, interact, nameOf?, hSame,
              resolveDatabase_of_not_lookedUp services hUnasked, Option.map_map]
            rfl
      | release request =>
          have hReleased := release_databases services request manager world oid
          refine ⟨fun name hTold => absurd hTold (not_lookedUp services rfl name), ?_, ?_⟩
          · intro hDrops
            simp only [turn, interact, nameOf?, hReleased.1 hDrops, Option.map_none]
          · intro _ hKept
            simp only [turn, interact, nameOf?, hReleased.2 hKept]
            exact Option.map_id'.symm
      | restore snapshot =>
          exact .of_databases services (restore_databases services snapshot manager world)
            rfl id rfl
      | restoreConnections =>
          exact .of_databases services (reconnectEach_databases services _ manager world)
            rfl id rfl
      | connect number explicit =>
          exact .of_databases services (connect_databases services number explicit manager world)
            rfl id rfl
      | releaseSession number =>
          exact .of_databases services (releaseConnection_databases services number manager world)
            rfl id rfl
      | execute | executeScalar | cancel => exact .of_databases services rfl rfl id rfl

/-- A name is remembered after a turn in which the server tells it, and if one was remembered
before the turn: the same, unless it is dropped or another one is given. -/
theorem nameOf?_turn (oid : UInt32) (turn : Turn) (manager : Manager) (world : World)
    (name : String) :
    (manager.turn services turn world).nameOf? oid = some name ↔
      LookedUp services oid manager world turn name ∨
        ¬Drops services oid manager world turn ∧
          ∃ known, manager.nameOf? oid = some known ∧
            (turn.nameGiven? oid).getD known = name := by
  obtain ⟨hTold, hDropped, hKept⟩ := turn_effect services oid turn manager world
  constructor
  · intro hAfter
    by_cases hAsked : ∃ told, LookedUp services oid manager world turn told
    · obtain ⟨told, hLookedUp⟩ := hAsked
      rw [hTold told hLookedUp, Option.some.injEq] at hAfter
      exact .inl (hAfter ▸ hLookedUp)
    · by_cases hDrops : Drops services oid manager world turn
      · rw [hDropped hDrops] at hAfter
        cases hAfter
      · rw [hKept (not_exists.mp hAsked) hDrops, Option.map_eq_some_iff] at hAfter
        exact .inr ⟨hDrops, hAfter⟩
  · rintro (hLookedUp | ⟨hDrops, known, hKnown, rfl⟩)
    · exact hTold name hLookedUp
    · -- what is remembered is not looked up
      have hUnasked : ∀ told, ¬LookedUp services oid manager world turn told := by
        intro told hLookedUp
        rw [hLookedUp.unknown] at hKnown
        cases hKnown
      rw [hKept hUnasked hDrops, hKnown, Option.map_some]

/-! ## One turn after the other -/

theorem droppedAlong_cons {oid : UInt32} {turn : World × Turn} {rest : List (World × Turn)}
    {manager : Manager} :
    DroppedAlong services oid (turn :: rest) manager ↔
      Drops services oid manager turn.1 turn.2 ∨
        DroppedAlong services oid rest (manager.turn services turn.2 turn.1) :=
  exists_between_cons

theorem recalledAlong_cons {oid : UInt32} {turn : World × Turn} {rest : List (World × Turn)}
    {manager : Manager} {name : String} :
    RecalledAlong services oid (turn :: rest) manager name ↔
      (∃ told, LookedUp services oid manager turn.1 turn.2 told ∧
        ¬DroppedAlong services oid rest (manager.turn services turn.2 turn.1) ∧
        lastName oid rest told = name) ∨
      RecalledAlong services oid rest (manager.turn services turn.2 turn.1) name :=
  exists_between_cons

/-- A name is remembered after some turns if the oid has been looked up in one of them and not been
dropped since, and if it was remembered before and has not been dropped. -/
theorem nameOf?_turns (oid : UInt32) (steps : List (World × Turn)) (manager : Manager)
    (name : String) :
    (manager.turns services steps).nameOf? oid = some name ↔
      RecalledAlong services oid steps manager name ∨
        ¬DroppedAlong services oid steps manager ∧
          ∃ known, manager.nameOf? oid = some known ∧ lastName oid steps known = name := by
  induction steps generalizing manager with
  | nil =>
      have hNever : ¬DroppedAlong services oid [] manager := by simp [DroppedAlong]
      have hNowhere : ¬RecalledAlong services oid [] manager name := by simp [RecalledAlong]
      simp [turns, lastName, hNever, hNowhere]
  | cons turn rest ih =>
      have hNext : manager.turns services (turn :: rest) =
          (manager.turn services turn.2 turn.1).turns services rest := rfl
      rw [hNext, ih, recalledAlong_cons, droppedAlong_cons]
      -- the name known when the rest begins is told, kept or given in the first turn
      constructor
      · rintro (hLater | ⟨hKept, known, hKnown, hLast⟩)
        · exact .inl (.inr hLater)
        · rcases (nameOf?_turn services oid turn.2 manager turn.1 known).mp hKnown with
            hTold | ⟨hDrops, before, hBefore, rfl⟩
          · exact .inl (.inl ⟨known, hTold, hKept, hLast⟩)
          · rw [← lastName_cons] at hLast
            exact .inr ⟨not_or.mpr ⟨hDrops, hKept⟩, before, hBefore, hLast⟩
      · rintro ((⟨told, hTold, hKept, hLast⟩ | hLater) | ⟨hNever, known, hKnown, hLast⟩)
        · exact .inr ⟨hKept, told, (nameOf?_turn services ..).mpr (.inl hTold), hLast⟩
        · exact .inl hLater
        · obtain ⟨hDrops, hKept⟩ := not_or.mp hNever
          rw [lastName_cons] at hLast
          have hFirst := (nameOf?_turn services oid turn.2 manager turn.1 _).mpr
            (.inr ⟨hDrops, known, hKnown, rfl⟩)
          exact .inr ⟨hKept, _, hFirst, hLast⟩

theorem nameOf?_turns_new (identity : ServerIdentity) (oid : UInt32) (steps : List (World × Turn))
    (name : String) :
    ((new identity).turns services steps).nameOf? oid = some name ↔
      RecalledAlong services oid steps (.new identity) name := by
  have hNothing : (new identity).nameOf? oid = none := rfl
  simp [nameOf?_turns, hNothing]

/-! ## Answers from memory -/

/-- A request is answered with a name that is remembered: no call is made for it, neither while the
database is found nor after that, and unless a key for secrets is missing it gets the connection
to the database with that name. -/
structure AnswersFromMemory (name : String) (request : ConnectionRequest) (manager : Manager)
    (world : Recorded World) : Prop where
  resolved : manager.resolveDatabase services.recorded request world =
    (.ok (some name), manager, world)
  uncalled : (manager.connection services.recorded request world).2.2 = world
  answer : (manager.connection services.recorded request world).1 = .error .cryptKeyMissing ∨
    ∃ number, (manager.connection services.recorded request world).1 = .ok number ∧
      (manager.connection services.recorded request world).2.1.get?
        (.ofRequest request.connectionId name) = some number

theorem answersFromMemory_of_nameOf? {oid : UInt32} {name : String} {request : ConnectionRequest}
    {manager : Manager} (hKnown : manager.nameOf? oid = some name)
    (hUnnamed : request.database = none) (hOid : request.oid = some oid) (world : Recorded World) :
    AnswersFromMemory services name request manager world := by
  obtain ⟨info, hInfo, rfl⟩ := Option.map_eq_some_iff.mp hKnown
  have hResolved : manager.resolveDatabase services.recorded request world =
      (.ok (some info.name), manager, world) := by
    simp only [resolveDatabase, hUnnamed, hOid, hInfo]
  refine ⟨hResolved, ?_, ?_⟩
  · simp only [connection, hResolved]
    split <;> rfl
  · simp only [connection, hResolved]
    split
    · exact .inl rfl
    · exact .inr ⟨_, rfl, register_get?_self manager _ _ _ _⟩

/-- From the turn in which an oid is looked up until one that drops it, every request that gives the
oid alone is answered from memory, with the name that was given last together with the oid, or else
the one that the server told.  A name is remembered in no other way: after any turns there is one
exactly if the oid has been looked up and not been dropped since.  Requests that give another oid
leave what is remembered alone, and so does a request whose database cannot be found. -/
theorem oid_stands_for_last_name (identity : ServerIdentity) (oid : UInt32) :
    let after := fun steps => (new identity).turns services.recorded steps
    (∀ before turn between told,
      LookedUp services.recorded oid (after before) turn.1 turn.2 told →
      ¬DroppedAlong services.recorded oid between (after (before ++ [turn])) →
      ∀ request : ConnectionRequest, request.database = none → request.oid = some oid →
        ∀ world, AnswersFromMemory services (lastName oid between told) request
          (after (before ++ turn :: between)) world) ∧
      (∀ steps name, (after steps).nameOf? oid = some name ↔
        RecalledAlong services.recorded oid steps (.new identity) name) ∧
      (∀ (manager : Manager) (request : ConnectionRequest) world, request.oid ≠ some oid →
        (manager.connection services.recorded request world).2.1.databases.get? oid =
          manager.databases.get? oid) ∧
      ∀ (manager : Manager) (request : ConnectionRequest) world error,
        (manager.resolveDatabase services.recorded request world).1 = .error error →
        (manager.connection services.recorded request world).1 = .error error ∧
          (manager.connection services.recorded request world).2.1.databases =
            manager.databases := by
  intro after
  refine ⟨?_, nameOf?_turns_new services.recorded identity oid, ?_, ?_⟩
  · intro before turn between told hLookedUp hKept request hUnnamed hOid world
    have hKnown : (after (before ++ turn :: between)).nameOf? oid =
        some (lastName oid between told) :=
      (nameOf?_turns_new ..).mpr ⟨before, turn, between, rfl, told, hLookedUp, hKept, rfl⟩
    exact answersFromMemory_of_nameOf? services hKnown hUnnamed hOid world
  · intro manager request world hOther
    rw [connection_databases, resolveDatabase_of_other services.recorded hOther]
  · intro manager request world error hError
    refine ⟨?_, ?_⟩
    · rw [connection]
      generalize manager.resolveDatabase services.recorded request world = resolution at hError ⊢
      obtain ⟨result, resolved, final⟩ := resolution
      cases hError
      rfl
    · rw [connection_databases]
      exact resolveDatabase_databases_of_error services.recorded hError

/-- A database is looked up and then renamed; another one is looked up and released, and a third
oid is not known to the server.  A request with the first oid alone goes to the new name. -/
theorem renamed_oid_stands_for_new_name :
    let services : Services Unit :=
      { Services.steady (.standard "" "") (.ok 0) (.ok []) (.ok ⟨0, 50000⟩) with
        query := fun _ sql world =>
          if sql = databaseQuery 7 160002 then (.ok [], world)
          else (.ok [[("ver", some "PostgreSQL 16.2"), ("sversion", some "160002"),
            ("did", some "5"), ("datname", some "app")]], world) }
    let identity : ServerIdentity :=
      { id := 1, name := "main", host := "db.internal", username := "app" }
    let moment : Recorded Unit := ⟨(), []⟩
    let lookup : Recorded Unit × Turn := (moment, .interaction (.connection { oid := some 5 }))
    let between : List (Recorded Unit × Turn) :=
      [(moment, .interaction (.connection { database := some "ledger", oid := some 5 })),
        (moment, .interaction (.connection { oid := some 6 })),
        (moment, .interaction (.release { oid := some 6 })),
        (moment, .interaction (.connection { oid := some 7 }))]
    LookedUp services.recorded 5 (.new identity) moment lookup.2 "app" ∧
      ¬DroppedAlong services.recorded 5 between ((new identity).turns services.recorded [lookup]) ∧
      AnswersFromMemory services "ledger" { oid := some 5 }
        ((new identity).turns services.recorded (lookup :: between)) moment := by
  intro services identity moment lookup between
  have hLookedUp : LookedUp services.recorded 5 (.new identity) moment lookup.2 "app" := by
    have hAfter : ((new identity).turn services.recorded lookup.2 moment).nameOf? 5 =
        some "app" := by
      decide +kernel
    rcases (nameOf?_turn services.recorded ..).mp hAfter with hTold | ⟨-, known, hKnown, -⟩
    · exact hTold
    · cases hKnown
  have hKept : ¬DroppedAlong services.recorded 5 between
      ((new identity).turns services.recorded [lookup]) := by
    simp only [between, droppedAlong_cons]
    rintro (hDrops | hDrops | hDrops | hDrops | ⟨before, turn, after, hSplit, -⟩)
    · exact hDrops
    · exact hDrops
    · exact absurd hDrops.2 (by decide +kernel)
    · exact hDrops
    · simp at hSplit
  refine ⟨hLookedUp, hKept, ?_⟩
  exact (oid_stands_for_last_name services identity 5).1 [] lookup between "app" hLookedUp hKept
    { oid := some 5 } rfl rfl moment

end Memory

end Manager

end PgConsole
