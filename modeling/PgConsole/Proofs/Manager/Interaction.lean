import PgConsole.Proofs.Manager.Operation

namespace PgConsole

/-!
# Using a manager and the connections it has handed out

Callers keep the connections that a manager hands out.  They connect, release and query them
directly, also after the manager has taken them out of its registry.  `Interaction` lists
everything callers do with a manager and with connections, `Manager.interact` does it and
`Manager.interactAll` does one thing after the other.  As in `Manager.run`, every interaction
comes with the world it finds.

Some interactions ask the manager for an operation (`Interaction.operation?`), the others are about
one connection.  `Manager.callerAttempts` lists the calls of `Manager.connect` that an interaction
makes, as `Manager.attempts` does for operations.
-/

/-- An element of a list that stands between others in a certain way is the first one, or stands so
in the rest. -/
theorem exists_between_cons {α : Type} {Between : List α → α → List α → Prop} {first : α}
    {rest : List α} :
    (∃ before step after, first :: rest = before ++ step :: after ∧ Between before step after) ↔
      Between [] first rest ∨
        ∃ before step after, rest = before ++ step :: after ∧
          Between (first :: before) step after := by
  constructor
  · rintro ⟨before, step, after, hSplit, hBetween⟩
    cases before with
    | nil =>
        obtain ⟨rfl, rfl⟩ := List.cons.inj hSplit
        exact .inl hBetween
    | cons head before =>
        obtain ⟨rfl, hRest⟩ := List.cons.inj hSplit
        exact .inr ⟨before, step, after, hRest, hBetween⟩
  · rintro (hBetween | ⟨before, step, after, rfl, hBetween⟩)
    · exact ⟨[], first, rest, rfl, hBetween⟩
    · exact ⟨first :: before, step, after, rfl, hBetween⟩

/-- What callers do with a manager and with the connections that it has made.  A connection is
given by its number, whether it is still registered or not. -/
inductive Interaction where
  | update (identity : ServerIdentity)
  | connection (request : ConnectionRequest)
  | release (request : ReleaseRequest)
  | restore (snapshot : ManagerSnapshot)
  | restoreConnections
  | connect (number : Nat) (explicit : Option Secret)
  | releaseSession (number : Nat)
  | execute (number : Nat) (sql : String)
  | executeScalar (number : Nat) (sql : String)
  | cancel (number : Nat)
  deriving DecidableEq, Repr

/-- What a manager is asked for by an interaction; none if it is about a connection alone. -/
def Interaction.operation? : Interaction → Option Operation
  | .update identity => some (.update identity)
  | .connection request => some (.connection request)
  | .release request => some (.release request)
  | .restore snapshot => some (.restore snapshot)
  | .restoreConnections => some .restoreConnections
  | _ => none

/-- What callers are told when an interaction succeeds. -/
inductive Reply where
  | done
  | connection (number : Nat)
  | released (found : Bool)
  | rows (rows : List TextRow)
  | value (text : Option String)
  deriving DecidableEq, Repr

namespace Manager

variable {World : Type}

/-- Do what a caller wants. -/
def interact (services : Services World) (interaction : Interaction) (manager : Manager)
    (world : World) : Except Error Reply × Manager × World :=
  match interaction with
  | .update identity => (.ok .done, manager.update services identity world)
  | .connection request =>
    let outcome := manager.connection services request world
    (outcome.1.map .connection, outcome.2)
  | .release request =>
    let outcome := manager.release services request world
    (.ok (.released outcome.1), outcome.2)
  | .restore snapshot =>
    let outcome := manager.restore services snapshot world
    (outcome.1.map fun _ => .done, outcome.2)
  | .restoreConnections =>
    let outcome := manager.restoreConnections services world
    (outcome.1.map fun _ => .done, outcome.2)
  | .connect number explicit =>
    let outcome := manager.connect services number explicit world
    (outcome.1.map fun _ => .done, outcome.2)
  | .releaseSession number => (.ok .done, manager.releaseConnection services number world)
  | .execute number sql =>
    let outcome := manager.execute services number sql world
    (outcome.1.map .rows, manager, outcome.2)
  | .executeScalar number sql =>
    let outcome := manager.executeScalar services number sql world
    (outcome.1.map .value, manager, outcome.2)
  | .cancel number =>
    let outcome := manager.cancel services number world
    (outcome.1.map fun _ => .done, manager, outcome.2)

/-- One interaction after the other, each in the world it finds. -/
def interactAll (services : Services World) (steps : List (World × Interaction))
    (manager : Manager) : Manager :=
  steps.foldl (fun manager step => (manager.interact services step.2 step.1).2.1) manager

/-- The calls of `connect` that an interaction makes, in order. -/
def callerAttempts (services : Services World) (interaction : Interaction) (manager : Manager)
    (world : World) : List (Attempt World) :=
  match interaction with
  | .connect number explicit => [⟨number, explicit, manager, world⟩]
  | _ =>
    match interaction.operation? with
    | some operation => manager.attempts services operation world
    | none => []

/-- The calls of `connect` that are made in the course of some interactions, in order. -/
def allAttempts (services : Services World) :
    List (World × Interaction) → Manager → List (Attempt World)
  | [], _ => []
  | (world, interaction) :: rest, manager =>
    manager.callerAttempts services interaction world ++
      allAttempts services rest (manager.interact services interaction world).2.1

variable (services : Services World)

theorem interact_of_operation {interaction : Interaction} {operation : Operation}
    (hOperation : interaction.operation? = some operation) (manager : Manager) (world : World) :
    (manager.interact services interaction world).2 =
      (manager.perform services operation world).2 := by
  cases interaction <;> cases hOperation
  case connection request =>
      simp only [interact, perform]
      generalize manager.connection services request world = outcome
      obtain ⟨result, after⟩ := outcome
      cases result <;> rfl
  all_goals rfl

theorem callerAttempts_of_operation {interaction : Interaction} {operation : Operation}
    (hOperation : interaction.operation? = some operation) (manager : Manager) (world : World) :
    manager.callerAttempts services interaction world =
      manager.attempts services operation world := by
  cases interaction <;> cases hOperation <;> rfl

end Manager

end PgConsole
