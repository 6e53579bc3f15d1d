import PgConsole.Proofs.SortedMap
import PgConsole.Session.Access

namespace PgConsole.Access

/-!
# Who works on a session at the same time

A lock has one holder at a time, but the lock of a session is not the same for ever.  A session
that is dropped is taken away first and waited for afterwards, so a request that already has its
lock, or waits for it, goes on working on it, while a later one finds no session, creates one
with a lock of its own and works on that.

`Access.advance_case` lists the steps a request can make.  From it follow what every schedule
keeps (`Access.Sound`) and the only way in which a request comes to hold a lock that is no
longer that of its session (`stray_of_happen`).  Together they say exactly when two requests work
on one session at the same time: only after a session was dropped in use, and always possibly
then (`overlap_exactly_after_drop_in_use`).
-/

/-- The request at a place is for a session and has got to its lock. -/
def Uses (access : Access) (place : Nat) (id : String) (lock : Nat) : Prop :=
  access.visitors[place]? = some ⟨.use id, .waiting lock⟩ ∨
    access.visitors[place]? = some ⟨.use id, .holding lock⟩

/-- Two requests work on one session. -/
def Overlaps (access : Access) (id : String) : Prop :=
  ∃ first second, first ≠ second ∧ access.worksOn first id = true ∧
    access.worksOn second id = true

/-- The request at a place is about to take away a session whose lock another request holds or
waits for. -/
def DropsInUse (access : Access) (place : Nat) (id : String) : Prop :=
  ∃ lock user, access.visitors[place]? = some ⟨.drop id, .arriving⟩ ∧
    access.locks.get? id = some lock ∧ access.Uses user id lock

/-- The request at a place has got to a lock that is not that of its session any more. -/
def Stray (access : Access) (place : Nat) (id : String) : Prop :=
  ∃ lock, access.Uses place id lock ∧ access.locks.get? id ≠ some lock

/-- The steps that a request can make. -/
inductive Advanced (place : Nat) (access : Access) : Access → Prop where
  /-- The session is there. -/
  | found {id : String} {lock : Nat}
      (hVisitor : access.visitors[place]? = some ⟨.use id, .arriving⟩)
      (hLock : access.locks.get? id = some lock) :
      Advanced place access
        { access with visitors := access.visitors.set place ⟨.use id, .waiting lock⟩ }
  /-- The session is not there. -/
  | missed {id : String} (hVisitor : access.visitors[place]? = some ⟨.use id, .arriving⟩)
      (hNone : access.locks.get? id = none) :
      Advanced place access
        { access with visitors := access.visitors.set place ⟨.use id, .creating⟩ }
  /-- The session has been created in the meantime. -/
  | joined {id : String} {lock : Nat}
      (hVisitor : access.visitors[place]? = some ⟨.use id, .creating⟩)
      (hLock : access.locks.get? id = some lock) :
      Advanced place access
        { access with visitors := access.visitors.set place ⟨.use id, .waiting lock⟩ }
  /-- The session is created. -/
  | created {id : String} (hVisitor : access.visitors[place]? = some ⟨.use id, .creating⟩)
      (hNone : access.locks.get? id = none) :
      Advanced place access
        { locks := access.locks.insert id access.made, made := access.made + 1
          visitors := access.visitors.set place ⟨.use id, .waiting access.made⟩ }
  /-- The session is taken away. -/
  | taken {id : String} {lock : Nat}
      (hVisitor : access.visitors[place]? = some ⟨.drop id, .arriving⟩)
      (hLock : access.locks.get? id = some lock) :
      Advanced place access
        { access with
          locks := access.locks.erase id
          visitors := access.visitors.set place ⟨.drop id, .waiting lock⟩ }
  /-- There is no session to drop. -/
  | gone {id : String} (hVisitor : access.visitors[place]? = some ⟨.drop id, .arriving⟩) :
      Advanced place access
        { access with visitors := access.visitors.set place ⟨.drop id, .done⟩ }
  /-- The lock is free and taken. -/
  | locked {errand : Errand} {lock : Nat}
      (hVisitor : access.visitors[place]? = some ⟨errand, .waiting lock⟩)
      (hFree : access.isHeld lock = false) :
      Advanced place access
        { access with visitors := access.visitors.set place ⟨errand, .holding lock⟩ }
  /-- The lock is given back. -/
  | left {errand : Errand} {lock : Nat}
      (hVisitor : access.visitors[place]? = some ⟨errand, .holding lock⟩) :
      Advanced place access
        { access with visitors := access.visitors.set place ⟨errand, .done⟩ }

/-- A step of the request at a place, from what it does next. -/
theorem advance_eq {place : Nat} {access changed : Access} {visitor : Visitor}
    {progress : Progress} (hVisitor : access.visitors[place]? = some visitor)
    (hNext : access.nextStep? visitor = some (progress, changed)) :
    access.advance place =
      some { changed with visitors := changed.visitors.set place { visitor with progress } } := by
  simp only [advance, hVisitor, hNext, Option.bind_eq_bind, Option.bind_some]

theorem advance_case {place : Nat} {access after : Access}
    (h : access.advance place = some after) : Advanced place access after := by
  cases hVisitor : access.visitors[place]? with
  | none => simp [advance, hVisitor] at h
  | some visitor =>
      cases hNext : access.nextStep? visitor with
      | none => simp [advance, hVisitor, hNext] at h
      | some next =>
          obtain ⟨progress, changed⟩ := next
          rw [advance_eq hVisitor hNext] at h
          cases h
          obtain ⟨errand, current⟩ := visitor
          cases current with
          | arriving =>
              cases errand with
              | use id =>
                  cases hLock : access.locks.get? id <;> simp only [nextStep?, hLock] at hNext <;>
                    cases hNext
                  · exact .missed hVisitor hLock
                  · exact .found hVisitor hLock
              | drop id =>
                  cases hLock : access.locks.get? id <;> simp only [nextStep?, hLock] at hNext <;>
                    cases hNext
                  · exact .gone hVisitor
                  · exact .taken hVisitor hLock
          | creating =>
              cases errand with
              | use id =>
                  cases hLock : access.locks.get? id <;>
                    simp only [nextStep?, lockFor, hLock] at hNext <;> cases hNext
                  · exact .created hVisitor hLock
                  · exact .joined hVisitor hLock
              | drop id => cases hNext
          | waiting lock =>
              cases hFree : access.isHeld lock <;> simp [nextStep?, hFree] at hNext
              obtain ⟨rfl, rfl⟩ := hNext
              exact .locked hVisitor hFree
          | holding lock =>
              cases hNext
              exact .left hVisitor
          | done => cases hNext

/-- A lock is free when no request holds it. -/
theorem isHeld_eq_false_iff {access : Access} {lock : Nat} :
    access.isHeld lock = false ↔
      ∀ {place : Nat} {errand : Errand},
        access.visitors[place]? ≠ some ⟨errand, .holding lock⟩ := by
  rw [isHeld, List.any_eq_false]
  constructor
  · intro hFree place errand hVisitor
    exact hFree _ (List.mem_of_getElem? hVisitor) (decide_eq_true rfl)
  · intro hFree visitor hMem hHolds
    obtain ⟨place, hVisitor⟩ := List.mem_iff_getElem?.mp hMem
    obtain ⟨errand, progress⟩ := visitor
    obtain rfl : progress = .holding lock := of_decide_eq_true hHolds
    exact hFree hVisitor

/-- Who is found where, after one request has moved. -/
theorem visitor_of_set {visitors : List Visitor} {place other : Nat} {old new visitor : Visitor}
    (hOld : visitors[place]? = some old) (h : (visitors.set place new)[other]? = some visitor) :
    other = place ∧ visitor = new ∨ other ≠ place ∧ visitors[other]? = some visitor := by
  obtain ⟨hBound, -⟩ := List.getElem?_eq_some_iff.mp hOld
  by_cases hSame : place = other
  · subst hSame
    rw [List.getElem?_set_self hBound] at h
    exact .inl ⟨rfl, (Option.some.inj h).symm⟩
  · rw [List.getElem?_set_ne hSame] at h
    exact .inr ⟨Ne.symm hSame, h⟩

/-- Every lock in sight has been made, and no lock has two holders. -/
structure Sound (access : Access) : Prop where
  stored : ∀ {id : String} {lock : Nat},
    access.locks.get? id = some lock → lock < access.made
  waiting : ∀ {place : Nat} {errand : Errand} {lock : Nat},
    access.visitors[place]? = some ⟨errand, .waiting lock⟩ → lock < access.made
  holding : ∀ {place : Nat} {errand : Errand} {lock : Nat},
    access.visitors[place]? = some ⟨errand, .holding lock⟩ → lock < access.made
  exclusive : ∀ {first second : Nat} {errand other : Errand} {lock : Nat},
    access.visitors[first]? = some ⟨errand, .holding lock⟩ →
      access.visitors[second]? = some ⟨other, .holding lock⟩ → first = second

theorem sound_empty : Sound {} := by
  refine ⟨?_, ?_, ?_, ?_⟩
  · intro id lock hLock
    cases hLock
  · intro place errand lock hVisitor
    cases hVisitor
  · intro place errand lock hVisitor
    cases hVisitor
  · intro first second errand other lock hFirst
    cases hFirst

/-- One request moves: its lock has been made, and was free if it is held now. -/
theorem Sound.move {access : Access} (h : access.Sound) {place made : Nat} {old new : Visitor}
    {locks : SortedMap String Nat} (hOld : access.visitors[place]? = some old)
    (hMade : access.made ≤ made) (hStored : ∀ {id lock}, locks.get? id = some lock → lock < made)
    (hWaiting : ∀ lock, new.progress = .waiting lock → lock < made)
    (hHolding : ∀ lock, new.progress = .holding lock →
      lock < made ∧ access.isHeld lock = false) :
    Sound { locks, made, visitors := access.visitors.set place new } := by
  refine ⟨hStored, ?_, ?_, ?_⟩
  · intro other errand lock hVisitor
    rcases visitor_of_set hOld hVisitor with ⟨-, rfl⟩ | ⟨-, hBefore⟩
    · exact hWaiting lock rfl
    · have hBound := h.waiting hBefore
      show lock < made
      omega
  · intro other errand lock hVisitor
    rcases visitor_of_set hOld hVisitor with ⟨-, rfl⟩ | ⟨-, hBefore⟩
    · exact (hHolding lock rfl).1
    · have hBound := h.holding hBefore
      show lock < made
      omega
  · intro first second errand other lock hFirst hSecond
    rcases visitor_of_set hOld hFirst with ⟨rfl, rfl⟩ | ⟨-, hFirstBefore⟩
    · rcases visitor_of_set hOld hSecond with ⟨rfl, -⟩ | ⟨-, hSecondBefore⟩
      · rfl
      · exact absurd hSecondBefore (isHeld_eq_false_iff.mp (hHolding lock rfl).2)
    · rcases visitor_of_set hOld hSecond with ⟨rfl, rfl⟩ | ⟨-, hSecondBefore⟩
      · exact absurd hFirstBefore (isHeld_eq_false_iff.mp (hHolding lock rfl).2)
      · exact h.exclusive hFirstBefore hSecondBefore

theorem Sound.advance {access after : Access} (h : access.Sound) {place : Nat}
    (hStep : access.advance place = some after) : after.Sound := by
  have hStored : ∀ {id lock}, access.locks.get? id = some lock → lock < access.made := h.stored
  cases advance_case hStep with
  | found hVisitor hLock | joined hVisitor hLock =>
      refine h.move hVisitor (Nat.le_refl _) hStored ?_ ?_
      · rintro _ ⟨⟩
        exact h.stored hLock
      · rintro _ ⟨⟩
  | missed hVisitor _ | gone hVisitor | left hVisitor =>
      refine h.move hVisitor (Nat.le_refl _) hStored ?_ ?_
      · rintro _ ⟨⟩
      · rintro _ ⟨⟩
  | @created id hVisitor _ =>
      refine h.move hVisitor (Nat.le_succ _) ?_ ?_ ?_
      · intro other lock hLock
        rw [SortedMap.get?_insert] at hLock
        split at hLock
        · cases hLock
          omega
        · have hBound := h.stored hLock
          omega
      · rintro _ ⟨⟩
        omega
      · rintro _ ⟨⟩
  | @taken id lock hVisitor hLock =>
      refine h.move hVisitor (Nat.le_refl _) ?_ ?_ ?_
      · intro other found hFound
        by_cases hSame : other = id
        · subst hSame
          rw [SortedMap.get?_erase_self] at hFound
          cases hFound
        · rw [SortedMap.get?_erase_of_ne _ hSame] at hFound
          exact h.stored hFound
      · rintro _ ⟨⟩
        exact h.stored hLock
      · rintro _ ⟨⟩
  | locked hVisitor hFree =>
      refine h.move hVisitor (Nat.le_refl _) hStored ?_ ?_
      · rintro _ ⟨⟩
      · rintro _ ⟨⟩
        exact ⟨h.waiting hVisitor, hFree⟩

/-- Who is found where, after a request has arrived. -/
theorem visitor_of_arrival {visitors : List Visitor} {errand : Errand} {place : Nat}
    {visitor : Visitor} (h : (visitors ++ [⟨errand, .arriving⟩])[place]? = some visitor) :
    visitor = ⟨errand, .arriving⟩ ∨ visitors[place]? = some visitor := by
  by_cases hOld : place < visitors.length
  · rw [List.getElem?_append_left hOld] at h
    exact .inr h
  · rw [List.getElem?_append_right (by omega)] at h
    have hMem := List.mem_of_getElem? h
    exact .inl (List.mem_singleton.mp hMem)

theorem Sound.arrival {access : Access} (h : access.Sound) (errand : Errand) :
    Sound { access with visitors := access.visitors ++ [⟨errand, .arriving⟩] } := by
  refine ⟨h.stored, ?_, ?_, ?_⟩
  · intro place errand lock hVisitor
    rcases visitor_of_arrival hVisitor with hNew | hBefore
    · cases hNew
    · exact h.waiting hBefore
  · intro place errand lock hVisitor
    rcases visitor_of_arrival hVisitor with hNew | hBefore
    · cases hNew
    · exact h.holding hBefore
  · intro first second errand other lock hFirst hSecond
    rcases visitor_of_arrival hFirst with hNew | hFirstBefore
    · cases hNew
    · rcases visitor_of_arrival hSecond with hNew | hSecondBefore
      · cases hNew
      · exact h.exclusive hFirstBefore hSecondBefore

theorem Sound.happen {access after : Access} (h : access.Sound) {event : Happening}
    (hHappen : access.happen event = some after) : after.Sound := by
  cases event with
  | arrival errand =>
      cases hHappen
      exact h.arrival errand
  | step place => exact h.advance hHappen

theorem Sound.follow {access after : Access} (h : access.Sound) {schedule : List Happening}
    (hFollow : Access.follow schedule access = some after) : after.Sound := by
  induction schedule generalizing access with
  | nil =>
      cases hFollow
      exact h
  | cons event rest ih =>
      obtain ⟨next, hNext, hRest⟩ := Option.bind_eq_some_iff.mp hFollow
      exact ih (h.happen hNext) hRest

theorem worksOn_iff {access : Access} {place : Nat} {id : String} :
    access.worksOn place id = true ↔
      ∃ lock, access.visitors[place]? = some ⟨.use id, .holding lock⟩ := by
  unfold worksOn
  constructor
  · intro hWorks
    split at hWorks
    · rename_i used lock hVisitor
      rw [of_decide_eq_true hWorks] at hVisitor
      exact ⟨lock, hVisitor⟩
    · cases hWorks
  · rintro ⟨lock, hVisitor⟩
    simp only [hVisitor, decide_true]

/-- Of two requests that work on one session, one has a lock that is not that of the session. -/
theorem Overlaps.stray {access : Access} (hSound : access.Sound) {id : String}
    (h : access.Overlaps id) : ∃ place, access.Stray place id := by
  obtain ⟨first, second, hNe, hFirst, hSecond⟩ := h
  obtain ⟨firstLock, hFirstHolds⟩ := worksOn_iff.mp hFirst
  obtain ⟨secondLock, hSecondHolds⟩ := worksOn_iff.mp hSecond
  -- their locks differ, and the session has at most one of them
  by_cases hLock : access.locks.get? id = some firstLock
  · refine ⟨second, secondLock, .inr hSecondHolds, ?_⟩
    intro hSame
    rw [hLock] at hSame
    cases hSame
    exact hNe (hSound.exclusive hFirstHolds hSecondHolds)
  · exact ⟨first, firstLock, .inr hFirstHolds, hLock⟩

/-- Who has got to a lock after one request has moved. -/
theorem uses_of_set {access : Access} {place other made lock : Nat} {old new : Visitor}
    {locks : SortedMap String Nat} {id : String} (hOld : access.visitors[place]? = some old)
    (h : Uses { locks, made, visitors := access.visitors.set place new } other id lock) :
    other = place ∧ (new = ⟨.use id, .waiting lock⟩ ∨ new = ⟨.use id, .holding lock⟩) ∨
      access.Uses other id lock := by
  rcases h with hWaiting | hHolding
  · rcases visitor_of_set hOld hWaiting with ⟨hPlace, hNew⟩ | ⟨-, hBefore⟩
    · exact .inl ⟨hPlace, .inl hNew.symm⟩
    · exact .inr (.inl hBefore)
  · rcases visitor_of_set hOld hHolding with ⟨hPlace, hNew⟩ | ⟨-, hBefore⟩
    · exact .inl ⟨hPlace, .inr hNew.symm⟩
    · exact .inr (.inr hBefore)

/-- A request strays from its session only when the session is taken away from under it. -/
theorem stray_of_advance {access after : Access} {place other : Nat} {id : String}
    (hStep : access.advance place = some after) (hStray : after.Stray other id) :
    access.Stray other id ∨ access.DropsInUse place id := by
  obtain ⟨lock, hUses, hElsewhere⟩ := hStray
  cases advance_case hStep with
  | found hVisitor hLock | joined hVisitor hLock =>
      rcases uses_of_set hVisitor hUses with ⟨-, hNew | hNew⟩ | hBefore
      · cases hNew
        exact absurd hLock hElsewhere
      · cases hNew
      · exact .inl ⟨lock, hBefore, hElsewhere⟩
  | missed hVisitor _ | gone hVisitor | left hVisitor =>
      rcases uses_of_set hVisitor hUses with ⟨-, hNew | hNew⟩ | hBefore
      · cases hNew
      · cases hNew
      · exact .inl ⟨lock, hBefore, hElsewhere⟩
  | @created created hVisitor hNone =>
      rcases uses_of_set hVisitor hUses with ⟨-, hNew | hNew⟩ | hBefore
      · cases hNew
        exact absurd (SortedMap.get?_insert_self ..) hElsewhere
      · cases hNew
      · refine .inl ⟨lock, hBefore, ?_⟩
        intro hThere
        have hNe : created ≠ id := by
          rintro rfl
          rw [hNone] at hThere
          cases hThere
        exact hElsewhere ((SortedMap.get?_insert_of_ne _ hNe _).trans hThere)
  | @taken dropped found hVisitor hLock =>
      -- the one step that can part a request from its session
      rcases uses_of_set hVisitor hUses with ⟨-, hNew | hNew⟩ | hBefore
      · cases hNew
      · cases hNew
      · by_cases hThere : access.locks.get? id = some lock
        · have hDropped : id = dropped := by
            apply Classical.byContradiction
            intro hNe
            exact hElsewhere ((SortedMap.get?_erase_of_ne _ hNe).trans hThere)
          subst hDropped
          exact .inr ⟨lock, other, hVisitor, hThere, hBefore⟩
        · exact .inl ⟨lock, hBefore, hThere⟩
  | locked hVisitor _ =>
      rcases uses_of_set hVisitor hUses with ⟨rfl, hNew | hNew⟩ | hBefore
      · cases hNew
      · cases hNew
        exact .inl ⟨lock, .inl hVisitor, hElsewhere⟩
      · exact .inl ⟨lock, hBefore, hElsewhere⟩

theorem stray_of_happen {access after : Access} {event : Happening} {other : Nat} {id : String}
    (hHappen : access.happen event = some after) (hStray : after.Stray other id) :
    access.Stray other id ∨ ∃ place, event = .step place ∧ access.DropsInUse place id := by
  cases event with
  | arrival errand =>
      cases hHappen
      obtain ⟨lock, hUses, hElsewhere⟩ := hStray
      refine .inl ⟨lock, ?_, hElsewhere⟩
      rcases hUses with hWaiting | hHolding
      · rcases visitor_of_arrival hWaiting with hNew | hBefore
        · cases hNew
        · exact .inl hBefore
      · rcases visitor_of_arrival hHolding with hNew | hBefore
        · cases hNew
        · exact .inr hBefore
  | step place =>
      rcases stray_of_advance hHappen hStray with hBefore | hDrops
      · exact .inl hBefore
      · exact .inr ⟨place, rfl, hDrops⟩

/-- A schedule on which a request strays drops a session in use. -/
theorem dropsInUse_of_follow {start access : Access} {schedule : List Happening} {other : Nat}
    {id : String} (hFollow : follow schedule start = some access)
    (hStray : access.Stray other id) :
    start.Stray other id ∨ ∃ before place after earlier,
      schedule = before ++ .step place :: after ∧ follow before start = some earlier ∧
        earlier.DropsInUse place id := by
  induction schedule generalizing start with
  | nil =>
      cases hFollow
      exact .inl hStray
  | cons event rest ih =>
      obtain ⟨next, hNext, hRest⟩ := Option.bind_eq_some_iff.mp hFollow
      rcases ih hRest with hStrayNext | ⟨before, place, after, earlier, rfl, hBefore, hDrops⟩
      · rcases stray_of_happen hNext hStrayNext with hStrayStart | ⟨place, rfl, hDrops⟩
        · exact .inl hStrayStart
        · exact .inr ⟨[], place, rest, start, rfl, rfl, hDrops⟩
      · refine .inr ⟨event :: before, place, after, earlier, rfl, ?_, hDrops⟩
        exact Option.bind_eq_some_iff.mpr ⟨next, hNext, hBefore⟩

theorem follow_append {first second : List Happening} {start middle final : Access}
    (hFirst : follow first start = some middle) (hSecond : follow second middle = some final) :
    follow (first ++ second) start = some final := by
  induction first generalizing start with
  | nil =>
      cases hFirst
      exact hSecond
  | cons event rest ih =>
      obtain ⟨next, hNext, hRest⟩ := Option.bind_eq_some_iff.mp hFirst
      exact Option.bind_eq_some_iff.mpr ⟨next, hNext, ih hRest⟩

theorem follow_step {place : Nat} {access after : Access}
    (hStep : access.advance place = some after) : follow [.step place] access = some after :=
  Option.bind_eq_some_iff.mpr ⟨after, hStep, rfl⟩

/-- A request that waits for a free lock can take it. -/
theorem advance_of_free {access : Access} {place lock : Nat} {errand : Errand}
    (hVisitor : access.visitors[place]? = some ⟨errand, .waiting lock⟩)
    (hFree : access.isHeld lock = false) :
    access.advance place =
      some { access with visitors := access.visitors.set place ⟨errand, .holding lock⟩ } := by
  refine advance_eq hVisitor ?_
  simp only [nextStep?, hFree, Bool.false_eq_true, if_false]

theorem getElem?_set_of_some {visitors : List Visitor} {place : Nat} {old : Visitor}
    (hOld : visitors[place]? = some old) (new : Visitor) :
    (visitors.set place new)[place]? = some new := by
  obtain ⟨hBound, -⟩ := List.getElem?_eq_some_iff.mp hOld
  exact List.getElem?_set_self hBound

/-- A lock is free once its holder has left. -/
theorem Sound.isHeld_of_left {access : Access} (h : access.Sound) {holder lock : Nat}
    {errand : Errand} (hHolder : access.visitors[holder]? = some ⟨errand, .holding lock⟩) :
    isHeld { access with visitors := access.visitors.set holder ⟨errand, .done⟩ } lock = false := by
  refine isHeld_eq_false_iff.mpr ?_
  intro place other hVisitor
  rcases visitor_of_set hHolder hVisitor with ⟨-, hNew⟩ | ⟨hNe, hBefore⟩
  · cases hNew
  · exact hNe (h.exclusive hBefore hHolder)

/-- A request that has got to a lock can come to hold it, whoever holds it now. -/
theorem exists_holding {access : Access} (hSound : access.Sound) {user lock : Nat} {id : String}
    (hUses : access.Uses user id lock) :
    ∃ steps after, follow steps access = some after ∧
      after.visitors[user]? = some ⟨.use id, .holding lock⟩ ∧ after.locks = access.locks := by
  rcases hUses with hWaiting | hHolding
  · cases hHeld : access.isHeld lock with
    | false =>
        refine ⟨[.step user], _, follow_step (advance_of_free hWaiting hHeld), ?_, rfl⟩
        exact getElem?_set_of_some hWaiting _
    | true =>
        -- the holder leaves first
        obtain ⟨holder, errand, hHolder⟩ : ∃ (holder : Nat) (errand : Errand),
            access.visitors[holder]? = some ⟨errand, .holding lock⟩ := by
          apply Classical.byContradiction
          intro hNone
          have hFree : access.isHeld lock = false := by
            refine isHeld_eq_false_iff.mpr ?_
            intro place errand hVisitor
            exact hNone ⟨place, errand, hVisitor⟩
          rw [hFree] at hHeld
          cases hHeld
        have hLeft : access.advance holder = some { access with
            visitors := access.visitors.set holder ⟨errand, .done⟩ } := advance_eq hHolder rfl
        have hNe : holder ≠ user := by
          rintro rfl
          rw [hWaiting] at hHolder
          cases hHolder
        have hStillWaiting : (access.visitors.set holder ⟨errand, .done⟩)[user]? =
            some ⟨.use id, .waiting lock⟩ := by
          rw [List.getElem?_set_ne hNe]
          exact hWaiting
        have hTaken := @advance_of_free
          { access with visitors := access.visitors.set holder ⟨errand, .done⟩ }
          user lock (.use id) hStillWaiting (hSound.isHeld_of_left hHolder)
        have hBoth := follow_append (follow_step hLeft) (follow_step hTaken)
        exact ⟨_, _, hBoth, getElem?_set_of_some hStillWaiting _, rfl⟩
  · exact ⟨[], access, rfl, hHolding, rfl⟩

/-- Where there is no session, a newcomer can create one and hold its lock at once. -/
theorem exists_newcomer {access : Access} (hSound : access.Sound) {id : String}
    (hNone : access.locks.get? id = none) :
    ∃ steps after, follow steps access = some after ∧
      after.worksOn access.visitors.length id = true ∧
      ∀ place, place < access.visitors.length →
        after.visitors[place]? = access.visitors[place]? := by
  -- the four states that the newcomer goes through
  let place := access.visitors.length
  let arrived : Access := { access with visitors := access.visitors ++ [⟨.use id, .arriving⟩] }
  let missed : Access := { arrived with visitors := arrived.visitors.set place ⟨.use id, .creating⟩ }
  let created : Access :=
    { locks := access.locks.insert id access.made, made := access.made + 1
      visitors := missed.visitors.set place ⟨.use id, .waiting access.made⟩ }
  let final : Access :=
    { created with visitors := created.visitors.set place ⟨.use id, .holding access.made⟩ }
  have hArrived : arrived.visitors[place]? = some ⟨.use id, .arriving⟩ :=
    List.getElem?_concat_length
  have hArriving : arrived.advance place = some missed := by
    refine advance_eq hArrived ?_
    simp only [nextStep?, arrived, hNone]
  have hMissed : missed.visitors[place]? = some ⟨.use id, .creating⟩ :=
    getElem?_set_of_some hArrived _
  have hCreating : missed.advance place = some created := by
    have hNext : missed.nextStep? ⟨.use id, .creating⟩ = some (.waiting access.made,
        { missed with locks := access.locks.insert id access.made, made := access.made + 1 }) := by
      simp only [nextStep?, lockFor, missed, arrived, hNone]
    exact advance_eq hMissed hNext
  have hCreated : created.visitors[place]? = some ⟨.use id, .waiting access.made⟩ :=
    getElem?_set_of_some hMissed _
  have hMissedSound : missed.Sound := (hSound.arrival (.use id)).advance hArriving
  -- the new lock has a number that nobody can hold yet
  have hFree : created.isHeld access.made = false := by
    refine isHeld_eq_false_iff.mpr ?_
    intro other errand hVisitor
    rcases visitor_of_set hMissed hVisitor with ⟨-, hNew⟩ | ⟨-, hBefore⟩
    · cases hNew
    · exact Nat.lt_irrefl access.made (hMissedSound.holding hBefore)
  have hWaiting : created.advance place = some final := advance_of_free hCreated hFree
  refine ⟨[.arrival (.use id), .step place, .step place, .step place], final, ?_, ?_, ?_⟩
  · simp only [follow, happen, Option.bind_some]
    rw [show advance place { access with visitors := access.visitors ++ [{ errand := .use id }] } =
      some missed from hArriving]
    simp only [Option.bind_some, hCreating, hWaiting]
  · exact worksOn_iff.mpr ⟨access.made, getElem?_set_of_some hCreated _⟩
  · intro other hOther
    have hNe : place ≠ other := by omega
    simp only [final, created, missed, arrived, List.getElem?_set_ne hNe,
      List.getElem?_append_left hOther]

/-- Dropping a session in use can always lead to two requests that work on it. -/
theorem overlaps_of_dropsInUse {access : Access} (hSound : access.Sound) {place : Nat}
    {id : String} (h : access.DropsInUse place id) :
    ∃ after later, follow (.step place :: after) access = some later ∧ later.Overlaps id := by
  obtain ⟨lock, user, hDropper, hLock, hUses⟩ := h
  have hStep : access.advance place = some { access with
      locks := access.locks.erase id
      visitors := access.visitors.set place ⟨.drop id, .waiting lock⟩ } := by
    have hNext : access.nextStep? ⟨.drop id, .arriving⟩ =
        some (.waiting lock, { access with locks := access.locks.erase id }) := by
      simp only [nextStep?, hLock]
    exact advance_eq hDropper hNext
  have hNe : place ≠ user := by
    rintro rfl
    rcases hUses with hWaiting | hHolding
    · rw [hDropper] at hWaiting
      cases hWaiting
    · rw [hDropper] at hHolding
      cases hHolding
  have hStillUses : Uses { access with
      locks := access.locks.erase id
      visitors := access.visitors.set place ⟨.drop id, .waiting lock⟩ } user id lock := by
    simpa only [Uses, List.getElem?_set_ne hNe] using hUses
  obtain ⟨waits, held, hWaits, hHolds, hLocks⟩ := exists_holding (hSound.advance hStep) hStillUses
  have hNone : held.locks.get? id = none := by
    rw [hLocks]
    exact SortedMap.get?_erase_self ..
  have hHeldSound := (hSound.advance hStep).follow hWaits
  obtain ⟨enters, later, hEnters, hNewcomer, hOthers⟩ := exists_newcomer hHeldSound hNone
  obtain ⟨hBound, -⟩ := List.getElem?_eq_some_iff.mp hHolds
  refine ⟨waits ++ enters, later, ?_, user, held.visitors.length, Nat.ne_of_lt hBound, ?_,
    hNewcomer⟩
  · exact Option.bind_eq_some_iff.mpr ⟨_, hStep, follow_append hWaits hEnters⟩
  · refine worksOn_iff.mpr ⟨lock, ?_⟩
    rw [hOthers user hBound]
    exact hHolds

/-- When two requests work on one session at the same time.  Whatever has happened so far: if
two do, a session was taken away while a request held or waited for its lock; and whenever
that is about to happen, it can go on so that two do. -/
theorem overlap_exactly_after_drop_in_use {schedule : List Happening} {access : Access}
    (hFollow : follow schedule {} = some access) (id : String) :
    (access.Overlaps id → ∃ before place after earlier,
      schedule = before ++ .step place :: after ∧ follow before {} = some earlier ∧
        earlier.DropsInUse place id) ∧
      ∀ place, access.DropsInUse place id →
        ∃ after later, follow (.step place :: after) access = some later ∧ later.Overlaps id := by
  have hSound := sound_empty.follow hFollow
  refine ⟨?_, ?_⟩
  · intro hOverlaps
    obtain ⟨place, hStray⟩ := hOverlaps.stray hSound
    rcases dropsInUse_of_follow hFollow hStray with ⟨lock, hUses, -⟩ | hDrops
    · rcases hUses with hWaiting | hHolding
      · cases hWaiting
      · cases hHolding
    · exact hDrops
  · intro place hDrops
    exact overlaps_of_dropsInUse hSound hDrops

/-- One request works on a session, another drops it, and a third finds none and works on a new
one. -/
theorem overlap_while_dropped :
    ∃ access, follow [.arrival (.use "s"), .step 0, .step 0, .step 0, .arrival (.drop "s"), .step 1,
        .arrival (.use "s"), .step 2, .step 2, .step 2] {} = some access ∧
      access.Overlaps "s" := by
  refine ⟨_, rfl, 0, 2, by decide, ?_, ?_⟩
  · decide +kernel
  · decide +kernel

/-- The session of that schedule was dropped in use. -/
theorem drop_in_use_while_working :
    ∃ access, follow [.arrival (.use "s"), .step 0, .step 0, .step 0, .arrival (.drop "s")] {} =
        some access ∧
      access.DropsInUse 1 "s" ∧
      ∃ after later, follow (.step 1 :: after) access = some later ∧ later.Overlaps "s" := by
  obtain ⟨access, hFollow, hDrops⟩ : ∃ access, follow [.arrival (.use "s"), .step 0, .step 0, .step 0,
      .arrival (.drop "s")] {} = some access ∧ access.DropsInUse 1 "s" := by
    refine ⟨_, rfl, 0, 0, rfl, ?_, .inr rfl⟩
    decide +kernel
  exact ⟨access, hFollow, hDrops, (overlap_exactly_after_drop_in_use hFollow "s").2 1 hDrops⟩

end PgConsole.Access
