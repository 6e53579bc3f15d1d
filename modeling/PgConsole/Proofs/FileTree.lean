import PgConsole.FileTree

namespace PgConsole.FileTree

/-!
# Paths and regular files

Where a path leads depends on directories and links, not on the regular files of a tree.  So a
path that leads to a place with a regular file, or to a place with nothing, still leads there when
files are written, removed or replaced, whether at this place or elsewhere
(`LeadsTo.of_sameWays`).
-/

/-! ## Places -/

theorem lookup_cons_eq_ite (place other : Place) (node : FileNode)
    (rest : List (Place × FileNode)) :
    ((place, node) :: rest).lookup other =
      if other = place then some node else rest.lookup other := by
  by_cases hOther : other = place
  · simp [hOther]
  · simp [List.lookup_cons, beq_eq_false_iff_ne.mpr hOther, hOther]

theorem lookup_filter_ne (nodes : List (Place × FileNode)) (place other : Place) :
    (nodes.filter fun entry => entry.1 != place).lookup other =
      if other = place then none else nodes.lookup other := by
  induction nodes with
  | nil => simp
  | cons entry rest ih =>
      obtain ⟨first, node⟩ := entry
      rw [lookup_cons_eq_ite]
      by_cases hFirst : first = place
      · rw [List.filter_cons_of_neg (by simpa using hFirst), ih, hFirst]
        by_cases hOther : other = place <;> simp [hOther]
      · rw [List.filter_cons_of_pos (by simpa using hFirst), lookup_cons_eq_ite, ih]
        by_cases hOther : other = first <;> simp [hOther, hFirst]

theorem at?_put {place : Place} (hPlace : place ≠ []) (tree : FileTree) (node : FileNode)
    (other : Place) :
    (tree.put place node).at? other = if other = place then some node else tree.at? other := by
  by_cases hOther : other = place
  · subst hOther
    simp [at?, put, hPlace]
  · simp [at?, put, lookup_cons_eq_ite, lookup_filter_ne, hOther]

theorem at?_remove {place : Place} (hPlace : place ≠ []) (tree : FileTree) (other : Place) :
    (tree.remove place).at? other = if other = place then none else tree.at? other := by
  by_cases hOther : other = place
  · subst hOther
    simp [at?, remove, lookup_filter_ne, hPlace]
  · simp [at?, remove, lookup_filter_ne, hOther]

/-- No path goes on from here: there is a regular file, or nothing. -/
def isLeaf : Option FileNode → Bool
  | none => true
  | some (.file _) => true
  | some _ => false

theorem ne_nil_of_isLeaf {tree : FileTree} {place : Place}
    (hLeaf : isLeaf (tree.at? place) = true) : place ≠ [] := by
  rintro rfl
  cases hLeaf

/-- A step to a name in a directory that is no link. -/
theorem walk_of_not_link {tree : FileTree} {followLast : Bool} {links fuel : Nat} {place : Place}
    {name : String} {rest : List String} {node : FileNode} (hNode : tree.at? place = some node)
    (hDirectory : ¬ (!node.isDirectory) = true) (hHere : ¬ name = ".") (hUp : ¬ name = "..")
    (hShort : ¬ nameLimit < name.utf8ByteSize)
    (hLink : ∀ target, tree.at? (place ++ [name]) = some (.link target) → False) :
    walk tree followLast links (fuel + 1) place (name :: rest) =
      if rest.isEmpty then .ok ⟨place ++ [name], tree.at? (place ++ [name])⟩
      else walk tree followLast links fuel (place ++ [name]) rest := by
  rw [walk, hNode]
  simp only [hDirectory, hHere, hUp, hShort, Bool.false_eq_true, if_false]

/-! ## Trees with the same directories and links -/

/-- Two trees differ in their regular files only. -/
def SameWays (left right : FileTree) : Prop :=
  ∀ place, left.at? place = right.at? place ∨
    (isLeaf (left.at? place) = true ∧ isLeaf (right.at? place) = true)

namespace SameWays

variable {left right : FileTree}

theorem refl (tree : FileTree) : SameWays tree tree := fun _ => .inl rfl

theorem symm (h : SameWays left right) : SameWays right left := fun place =>
  (h place).imp Eq.symm And.symm

theorem trans {middle : FileTree} (hFirst : SameWays left middle)
    (hSecond : SameWays middle right) : SameWays left right := by
  intro place
  rcases hFirst place with hSame | ⟨hLeft, hMiddle⟩
  · rw [hSame]
    exact hSecond place
  · rcases hSecond place with hSame | ⟨-, hRight⟩
    · exact .inr ⟨hLeft, hSame ▸ hMiddle⟩
    · exact .inr ⟨hLeft, hRight⟩

theorem at?_eq (h : SameWays left right) {place : Place}
    (hWay : isLeaf (left.at? place) = false) : right.at? place = left.at? place := by
  rcases h place with hSame | ⟨hLeaf, -⟩
  · exact hSame.symm
  · rw [hWay] at hLeaf
    cases hLeaf

theorem isLeaf_at? (h : SameWays left right) {place : Place}
    (hLeaf : isLeaf (left.at? place) = true) : isLeaf (right.at? place) = true := by
  rcases h place with hSame | ⟨-, hRight⟩
  · rwa [← hSame]
  · exact hRight

theorem directory_eq (h : SameWays left right) {place : Place} {node : FileNode}
    (hNode : left.at? place = some node) (hDirectory : ¬ (!node.isDirectory) = true) :
    right.at? place = some node := by
  rw [← hNode]
  refine h.at?_eq ?_
  rw [hNode]
  cases node <;> first | rfl | exact absurd rfl hDirectory

theorem not_link (h : SameWays left right) {place : Place}
    (hLeft : ∀ target, left.at? place = some (.link target) → False) (target : String) :
    right.at? place = some (.link target) → False := by
  intro hRight
  have hWay : isLeaf (right.at? place) = false := by rw [hRight]; rfl
  exact hLeft target ((h.symm.at?_eq hWay).trans hRight)

/-- A walk that arrives somewhere arrives there in the other tree too. -/
theorem walk_eq (h : SameWays left right) {followLast : Bool} {links fuel : Nat} {place : Place}
    {names : List String} {target : Target}
    (hWalk : walk left followLast links fuel place names = .ok target) :
    walk right followLast links fuel place names =
      .ok ⟨target.place, right.at? target.place⟩ := by
  -- every place that the walk goes on from is a directory, so the trees agree there; they can
  -- differ at the place where it ends
  fun_induction walk left followLast links fuel place names with
  | case1 => cases hWalk
  | case2 fuel links place hFuel =>
      obtain rfl := Except.ok.inj hWalk
      cases fuel with
      | zero => exact absurd rfl hFuel
      | succ fuel => rfl
  | case3 => cases hWalk
  | case4 => cases hWalk
  | case5 links fuel place rest node hNode hDirectory ih =>
      rw [walk, h.directory_eq hNode hDirectory]
      simp only [hDirectory, Bool.false_eq_true, if_false, if_true]
      exact ih hWalk
  | case6 links fuel place rest node hNode hDirectory hUp ih =>
      rw [walk, h.directory_eq hNode hDirectory]
      simp only [hDirectory, hUp, Bool.false_eq_true, if_false, if_true]
      exact ih hWalk
  | case7 => cases hWalk
  | case8 links fuel place name rest node hNode hDirectory hHere hUp hShort next leads hLink
      hLast =>
      obtain rfl := Except.ok.inj hWalk
      have hRight : right.at? next = some (.link leads) :=
        (h.at?_eq (by rw [hLink]; rfl)).trans hLink
      rw [walk, h.directory_eq hNode hDirectory]
      simp only [hDirectory, hHere, hUp, hShort, Bool.false_eq_true, if_false]
      rw [hRight]
      simp only [hLast, if_true]
      rfl
  | case9 => cases hWalk
  | case10 fuel place name rest node hNode hDirectory hHere hUp hShort next leads hLink hLast links
      start ih =>
      have hRight : right.at? next = some (.link leads) :=
        (h.at?_eq (by rw [hLink]; rfl)).trans hLink
      rw [walk, h.directory_eq hNode hDirectory]
      simp only [hDirectory, hHere, hUp, hShort, Bool.false_eq_true, if_false]
      rw [hRight]
      simp only [hLast, Bool.false_eq_true, if_false]
      exact ih hWalk
  | case11 links fuel place name rest node hNode hDirectory hHere hUp hShort next hLast hLink =>
      obtain rfl := Except.ok.inj hWalk
      rw [walk_of_not_link (h.directory_eq hNode hDirectory) hDirectory hHere hUp hShort
        (h.not_link hLink), if_pos hLast]
  | case12 links fuel place name rest node hNode hDirectory hHere hUp hShort next hLast hLink ih =>
      rw [walk_of_not_link (h.directory_eq hNode hDirectory) hDirectory hHere hUp hShort
        (h.not_link hLink), if_neg hLast]
      exact ih hWalk

theorem resolveWith_eq (h : SameWays left right) {followLast : Bool} {path : String}
    {target : Target} (hResolve : resolveWith followLast left path = .ok target) :
    resolveWith followLast right path = .ok ⟨target.place, right.at? target.place⟩ := by
  unfold resolveWith at hResolve ⊢
  split
  · rename_i hEmpty
    rw [if_pos hEmpty] at hResolve
    cases hResolve
  · rename_i hNonempty
    rw [if_neg hNonempty] at hResolve
    split
    · rename_i hNul
      rw [if_pos hNul] at hResolve
      cases hResolve
    · rename_i hClean
      rw [if_neg hClean] at hResolve
      exact h.walk_eq hResolve

end SameWays

/-- Two trees that are the same but for a regular file at one place. -/
structure OnlyAt (place : Place) (left right : FileTree) : Prop where
  before : isLeaf (left.at? place) = true
  after : isLeaf (right.at? place) = true
  elsewhere {other : Place} : other ≠ place → right.at? other = left.at? other

namespace OnlyAt

variable {place : Place} {left right : FileTree}

theorem refl {tree : FileTree} (hLeaf : isLeaf (tree.at? place) = true) : OnlyAt place tree tree :=
  ⟨hLeaf, hLeaf, fun _ => rfl⟩

theorem put {tree : FileTree} (hLeaf : isLeaf (tree.at? place) = true) (content : List UInt8) :
    OnlyAt place tree (tree.put place (.file content)) where
  before := hLeaf
  after := by
    rw [at?_put (ne_nil_of_isLeaf hLeaf), if_pos rfl]
    rfl
  elsewhere hOther := by rw [at?_put (ne_nil_of_isLeaf hLeaf), if_neg hOther]

theorem remove {tree : FileTree} (hLeaf : isLeaf (tree.at? place) = true) :
    OnlyAt place tree (tree.remove place) where
  before := hLeaf
  after := by
    rw [at?_remove (ne_nil_of_isLeaf hLeaf), if_pos rfl]
    rfl
  elsewhere hOther := by rw [at?_remove (ne_nil_of_isLeaf hLeaf), if_neg hOther]

theorem sameWays (h : OnlyAt place left right) : SameWays left right := by
  intro other
  by_cases hOther : other = place
  · subst hOther
    exact .inr ⟨h.before, h.after⟩
  · exact .inl (h.elsewhere hOther).symm

end OnlyAt

/-! ## Paths to regular files -/

/-- A path leads to a place with a regular file or with nothing, without a link at its end. -/
structure LeadsTo (tree : FileTree) (path : String) (place : Place) : Prop where
  leaf : isLeaf (tree.at? place) = true
  resolve (followLast : Bool) : resolveWith followLast tree path = .ok ⟨place, tree.at? place⟩

namespace LeadsTo

variable {tree other : FileTree} {path : String} {place : Place}

theorem of_sameWays (h : LeadsTo tree path place) (hSame : SameWays tree other) :
    LeadsTo other path place where
  leaf := hSame.isLeaf_at? h.leaf
  resolve followLast := hSame.resolveWith_eq (h.resolve followLast)

theorem file_or_none (h : LeadsTo tree path place) :
    tree.at? place = none ∨ ∃ content, tree.at? place = some (.file content) := by
  have hLeaf := h.leaf
  cases hNode : tree.at? place with
  | none => exact .inl rfl
  | some node =>
      rw [hNode] at hLeaf
      cases node with
      | file content => exact .inr ⟨content, rfl⟩
      | _ => cases hLeaf

theorem read_eq_ok_iff (h : LeadsTo tree path place) {content : List UInt8} :
    tree.read path = .ok content ↔ tree.at? place = some (.file content) := by
  rw [read, FileTree.resolve, h.resolve true]
  rcases h.file_or_none with hNone | ⟨held, hFile⟩
  · simp [hNone]
  · simp [hFile]

/-- What is read is what stands at the place. -/
theorem read_congr (h : LeadsTo tree path place) (hOther : LeadsTo other path place)
    (hSame : other.at? place = tree.at? place) : other.read path = tree.read path := by
  rw [read, read, FileTree.resolve, FileTree.resolve, h.resolve true, hOther.resolve true, hSame]

/-- A file that is opened anew is empty. It cannot be opened where nothing can be created. -/
theorem openForWriting_cases (h : LeadsTo tree path place) :
    tree.openForWriting true path = .ok (place, tree.put place (.file [])) ∨
      tree.openForWriting true path = .error .notFound := by
  rw [openForWriting, FileTree.resolve, h.resolve true]
  rcases h.file_or_none with hNone | ⟨held, hFile⟩
  · by_cases hRoom : tree.hasRoomAt place = true
    · exact .inl (by simp only [hNone, hRoom, if_true])
    · exact .inr (by simp only [hNone, hRoom, Bool.false_eq_true, if_false])
  · exact .inl (by simp only [hFile, if_true])

theorem rename_cases {source destination : String} {start finish : Place}
    (hSource : LeadsTo tree source start) (hDestination : LeadsTo tree destination finish) :
    (∃ content, tree.at? start = some (.file content) ∧
        tree.rename source destination =
          .ok ((tree.remove start).put finish (.file content))) ∨
      tree.rename source destination = .error .notFound := by
  rw [rename, hSource.resolve false]
  rcases hSource.file_or_none with hNone | ⟨content, hFile⟩
  · exact .inr (by simp only [hNone])
  · refine .inl ⟨content, hFile, ?_⟩
    simp only [hFile, hDestination.resolve false]
    rcases hDestination.file_or_none with hNone | ⟨held, hHeld⟩
    · simp only [hNone]
    · simp only [hHeld]

end LeadsTo

end PgConsole.FileTree
