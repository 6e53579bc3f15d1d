import PgConsole.Config

/-!
# Directories that follow the data directory

The log directory and the job directory lie under the data directory unless they are set.  They are
treated alike, so `DerivedDir` stands for either of them, and `ConsoleConfig.path_of_load` says
where it is when settings have been loaded with a data directory from the environment.

Whether a directory was derived is not remembered but told from its path.  A data directory in the
file therefore cuts the directories loose that the file does not set: they are neither under the old
data directory of the file nor do they follow the new one (`ConsoleConfig.derived_dir_follows_iff`).
-/

namespace PgConsole.Path

/-! ## Components of a path below another one -/

theorem piecesFrom_append (current left right : List Char) :
    piecesFrom current (left ++ '/' :: right) = piecesFrom current left ++ piecesFrom [] right := by
  induction left generalizing current with
  | nil => simp [piecesFrom]
  | cons c left ih =>
      rw [List.cons_append, piecesFrom, piecesFrom]
      split
      · rw [ih, List.cons_append]
      · rw [ih]

theorem piecesFrom_of_not_mem {name : List Char} (hName : '/' ∉ name) (current : List Char) :
    piecesFrom current name = [current.reverse ++ name] := by
  induction name generalizing current with
  | nil => simp [piecesFrom]
  | cons c name ih =>
      rw [List.mem_cons, not_or] at hName
      rw [piecesFrom, if_neg (Ne.symm hName.1), ih hName.2]
      simp

theorem same_self (path : String) : same path path = true := by
  simp [same]

theorem same_comm (left right : String) : same left right = same right left := by
  rw [same, same, decide_eq_decide]
  exact eq_comm

/-- A name that can stand for one component of a path. -/
structure IsName (name : String) : Prop where
  single : '/' ∉ name.toList
  some : name ≠ ""
  noDot : name ≠ "."

variable {name : String} (hName : IsName name)

include hName

theorem isAbsolute_name : isAbsolute name = false := by
  rw [isAbsolute, decide_eq_false_iff_not]
  intro hHead
  exact hName.single (List.mem_of_head? hHead)

theorem pieces_join (base : String) : pieces (join base name) = pieces base ++ [name] := by
  have hSome : name.toList.isEmpty = false := by
    rw [List.isEmpty_eq_false_iff]
    exact fun hEmpty => hName.some (String.toList_eq_nil_iff.mp hEmpty)
  have hPieces : piecesFrom [] name.toList = [name.toList] := piecesFrom_of_not_mem hName.single []
  rw [join, isAbsolute_name hName, Bool.false_or]
  split
  · rename_i hEmpty
    rw [String.isEmpty_iff.mp hEmpty]
    simp [pieces, hPieces, hSome, piecesFrom]
  · split
    · rename_i hSlash
      obtain ⟨start, hStart⟩ := List.getLast?_eq_some_iff.mp hSlash
      simp [pieces, hStart, List.append_assoc, piecesFrom_append, hPieces, hSome, piecesFrom]
    · simp [pieces, List.append_assoc, piecesFrom_append, hPieces, hSome]

theorem isAbsolute_join (base : String) : isAbsolute (join base name) = isAbsolute base := by
  rw [join, isAbsolute_name hName, Bool.false_or]
  split
  · rename_i hEmpty
    rw [isAbsolute_name hName, String.isEmpty_iff.mp hEmpty]
    rfl
  · rename_i hSome
    cases hBase : base.toList with
    | nil => exact absurd (String.isEmpty_iff.mpr (String.toList_eq_nil_iff.mp hBase)) hSome
    | cons first rest => split <;> simp [isAbsolute, hBase]

/-- A name is the last component of a path that ends in it. -/
theorem components_join (base : String) :
    components (join base name) =
      { components base with names := (components base).names ++ [name] } := by
  have hKept : [name].filter (· != ".") = [name] := by
    simp [hName.noDot]
  have hFirst : decide ((pieces base ++ [name]).head? = some ".") =
      decide ((pieces base).head? = some ".") := by
    cases pieces base with
    | nil => simpa using hName.noDot
    | cons first rest => simp
  simp only [components, pieces_join hName, isAbsolute_join hName, hFirst, List.filter_append,
    hKept]

/-- Paths that end in the same name are the same exactly if what stands before it is. -/
theorem same_join (left right : String) :
    same (join left name) (join right name) = same left right := by
  rw [same, same, components_join hName, components_join hName]
  simp only [Components.mk.injEq, List.append_left_inj, decide_eq_decide]
  constructor
  · rintro ⟨hAbsolute, hDot, hNames⟩
    cases hLeft : components left
    cases hRight : components right
    simp_all
  · intro hSame
    simp [hSame]

end PgConsole.Path

namespace PgConsole

/-! ## Derived directories -/

/-- A directory that lies under the data directory unless it is set. -/
inductive DerivedDir where
  | logs
  | jobs
  deriving DecidableEq, Repr

namespace DerivedDir

/-- Its name under the data directory. -/
def name : DerivedDir → String
  | .logs => "logs"
  | .jobs => "jobs"

/-- The field of a file that sets it. -/
def field : DerivedDir → String
  | .logs => "log_dir"
  | .jobs => "jobs_dir"

/-- The environment variable that sets it. -/
def envName : DerivedDir → String
  | .logs => "PGDECK_LOG_DIR"
  | .jobs => "PGDECK_JOBS_DIR"

/-- Where settings have it. -/
def path (config : ConsoleConfig) : DerivedDir → String
  | .logs => config.logDir
  | .jobs => config.jobsDir

/-- Where it is when it follows a data directory. -/
def under (dataDir : String) (dir : DerivedDir) : String := Path.join dataDir dir.name

theorem isName_name (dir : DerivedDir) : Path.IsName dir.name := by
  cases dir <;> exact ⟨by decide, by decide, by decide⟩

theorem same_under (left right : String) (dir : DerivedDir) :
    Path.same (dir.under left) (dir.under right) = Path.same left right :=
  Path.same_join dir.isName_name left right

/-- Settings with the directory somewhere else. -/
def place (word : String) (config : ConsoleConfig) : DerivedDir → ConsoleConfig
  | .logs => { config with logDir := word }
  | .jobs => { config with jobsDir := word }

theorem path_place (word : String) (config : ConsoleConfig) (dir other : DerivedDir) :
    other.path (dir.place word config) = if other = dir then word else other.path config := by
  cases dir <;> cases other <;> rfl

theorem path_moveDataDir (dataDir : String) (config : ConsoleConfig) (dir : DerivedDir) :
    dir.path (config.moveDataDir dataDir) =
      if Path.same (dir.path config) (dir.under config.dataDir) then dir.under dataDir
      else dir.path config := by
  cases dir <;> rfl

end DerivedDir

namespace ConsoleConfig

/-! ## What the file says -/

/-- The fields that the file sets, if there is one that can be read. -/
def fileFields (tree : FileTree) : Option String → List (String × Json)
  | none => []
  | some path =>
    if tree.pathExists path then
      match tree.readText path with
      | .error _ => []
      | .ok text => ((Json.parse? text).bind (Json.defaultedRecord? fieldNames)).getD []
    else []

/-- The path that a field sets, or else the one that it has without being set. -/
def settled (fields : List (String × Json)) (name unset : String) : String :=
  ((fields.lookup name).bind Json.text?).getD unset

theorem eq_of_defaulted {α : Type} {fields : List (String × Json)} {name : String} {unset value : α}
    {read : Json → Option α} (h : Json.defaulted fields name unset read = some value) :
    value = ((fields.lookup name).bind read).getD unset := by
  unfold Json.defaulted at h
  split at h
  · rename_i hAbsent
    rw [hAbsent]
    exact (Option.some.inj h).symm
  · rename_i written hWritten
    rw [hWritten, Option.bind_some, h, Option.getD_some]

/-- Settings whose directories are those of some fields, over those of other settings. -/
structure ReadOver (base : ConsoleConfig) (fields : List (String × Json))
    (config : ConsoleConfig) : Prop where
  dataDir : config.dataDir = settled fields "data_dir" base.dataDir
  derived : ∀ dir : DerivedDir, dir.path config = settled fields dir.field (dir.path base)

theorem readOver_nil (base : ConsoleConfig) : ReadOver base [] base :=
  ⟨rfl, fun _ => rfl⟩

theorem exists_readOver_of_ofJson? {base config : ConsoleConfig} {value : Json}
    (h : ofJson? base value = some config) :
    ∃ fields, value.defaultedRecord? fieldNames = some fields ∧ ReadOver base fields config := by
  simp only [ofJson?, Option.bind_eq_bind, Option.bind_eq_some_iff] at h
  obtain ⟨fields, hFields, _, -, _, -, _, -, _, -, dataDir, hData, logDir, hLog, jobsDir, hJobs, _,
    -, hConfig⟩ := h
  obtain rfl := Option.some.inj hConfig
  refine ⟨fields, hFields, eq_of_defaulted hData, ?_⟩
  intro dir
  cases dir with
  | logs => exact eq_of_defaulted hLog
  | jobs => exact eq_of_defaulted hJobs

theorem readOver_of_fromFile {base start : ConsoleConfig} {tree : FileTree} {path : String}
    (hExists : tree.pathExists path = true) (h : fromFile base tree path = .ok start) :
    ReadOver base (fileFields tree (some path)) start := by
  unfold fromFile at h
  split at h
  · cases h
  · rename_i text hText
    split at h
    · cases h
    · rename_i settings hSettings
      obtain rfl := Except.ok.inj h
      obtain ⟨value, hValue, hRead⟩ := Option.bind_eq_some_iff.mp hSettings
      obtain ⟨fields, hFields, hOver⟩ := exists_readOver_of_ofJson? hRead
      have hFile : fileFields tree (some path) = fields := by
        simp only [fileFields, hExists, if_true, hText, hValue, Option.bind_some, hFields,
          Option.getD_some]
      rwa [hFile]

/-- Settings that can be loaded come from the file, or from nothing, and then from the
environment. -/
theorem exists_readOver_of_load {base config : ConsoleConfig} {tree : FileTree}
    {path : Option String} {environment : String → Option String}
    (h : load base tree path environment = .ok config) :
    ∃ start, ReadOver base (fileFields tree path) start ∧
      start.applyEnv environment = (none, config) := by
  cases path with
  | none =>
      refine ⟨base, readOver_nil base, ?_⟩
      dsimp only [load] at h
      split at h
      · cases h
      · rename_i hApplied
        rw [hApplied, Except.ok.inj h]
  | some path =>
      dsimp only [load] at h
      split at h
      · cases h
      · rename_i start hStart
        refine ⟨start, ?_, ?_⟩
        · split at hStart
          · rename_i hExists
            exact readOver_of_fromFile hExists hStart
          · rename_i hMissing
            obtain rfl := Except.ok.inj hStart
            rw [fileFields, if_neg hMissing]
            exact readOver_nil base
        · split at h
          · cases h
          · rename_i hApplied
            rw [hApplied, Except.ok.inj h]

/-! ## What the environment says -/

/-- The data directory and those that may be derived from it. -/
def dirs (config : ConsoleConfig) : String × String × String :=
  (config.dataDir, config.logDir, config.jobsDir)

theorem path_eq_of_dirs_eq {left right : ConsoleConfig} (h : left.dirs = right.dirs)
    (dir : DerivedDir) : dir.path left = dir.path right := by
  cases dir with
  | logs => exact congrArg (fun all => all.2.1) h
  | jobs => exact congrArg (fun all => all.2.2) h

/-- A change that leaves the directories where they are. -/
def KeepsDirs (change : Change) : Prop :=
  ∀ before after, change before = .ok after → after.dirs = before.dirs

theorem keepsDirs_changeBy {change : String → Change} (value : Option String)
    (hChange : ∀ word, KeepsDirs (change word)) : KeepsDirs (changeBy value change) := by
  cases value with
  | none =>
      intro before after hSame
      rw [Except.ok.inj hSame]
  | some word => exact hChange word

/-- A change that reads a word and puts what it finds into a setting. -/
theorem keepsDirs_bind {α : Type} {read : Except Error α} {put : α → ConsoleConfig → ConsoleConfig}
    (hPut : ∀ value before, (put value before).dirs = before.dirs) :
    KeepsDirs fun config => do
      let value ← read
      return put value config := by
  intro before after hMade
  cases read with
  | error error => cases hMade
  | ok value =>
      rw [← Except.ok.inj hMade]
      exact hPut value before

theorem keepsDirs_ok {put : ConsoleConfig → ConsoleConfig}
    (hPut : ∀ before, (put before).dirs = before.dirs) :
    KeepsDirs fun config => .ok (put config) := by
  intro before after hMade
  rw [← Except.ok.inj hMade]
  exact hPut before

/-- Changes that are all made are made one after the other. -/
theorem applyChanges_cons {change : Change} {rest : List Change} {before after : ConsoleConfig}
    (h : applyChanges (change :: rest) before = (none, after)) :
    ∃ middle, change before = .ok middle ∧ applyChanges rest middle = (none, after) := by
  rw [applyChanges] at h
  split at h
  · cases h
  · rename_i middle hMade
    exact ⟨middle, hMade, h⟩

/-- Changes at the beginning that keep the directories do not count for them. -/
theorem applyChanges_append {first rest : List Change}
    (hKeeps : ∀ change ∈ first, KeepsDirs change) {before after : ConsoleConfig}
    (h : applyChanges (first ++ rest) before = (none, after)) :
    ∃ middle, middle.dirs = before.dirs ∧ applyChanges rest middle = (none, after) := by
  induction first generalizing before with
  | nil => exact ⟨before, rfl, h⟩
  | cons change first ih =>
      obtain ⟨hChange, hOthers⟩ := List.forall_mem_cons.mp hKeeps
      obtain ⟨made, hMade, hRest⟩ := applyChanges_cons h
      obtain ⟨middle, hDirs, hAfter⟩ := ih hOthers hRest
      exact ⟨middle, hDirs.trans (hChange before made hMade), hAfter⟩

/-- A variable that sets a directory sets this one and no other. -/
theorem path_changeBy_place (dir : DerivedDir) {value : Option String}
    {before after : ConsoleConfig}
    (h : changeBy value (fun word config => .ok (dir.place word config)) before = .ok after)
    (other : DerivedDir) :
    other.path after =
      if other = dir then value.getD (other.path before) else other.path before := by
  cases value with
  | none =>
      rw [← Except.ok.inj h, Option.getD_none, ite_self]
  | some word =>
      rw [← Except.ok.inj h, Option.getD_some, DerivedDir.path_place]

/-- What the environment does to the directories: it moves the data directory, and then sets those
for which it has a variable. -/
theorem path_applyEnv {environment : String → Option String} {before after : ConsoleConfig}
    (h : before.applyEnv environment = (none, after)) {dataDir : String}
    (hData : environment "PGDECK_DATA_DIR" = some dataDir) (dir : DerivedDir) :
    dir.path after = (environment dir.envName).getD
      (if Path.same (dir.path before) (dir.under before.dataDir) then dir.under dataDir
      else dir.path before) := by
  have hOthers : ∀ change ∈ (envChanges environment).take 4, KeepsDirs change := by
    simp only [envChanges, List.take_succ_cons, List.take_zero, List.forall_mem_cons]
    refine ⟨?_, ?_, ?_, ?_, by simp⟩
    · exact keepsDirs_changeBy _ fun word => keepsDirs_bind fun _ _ => rfl
    · exact keepsDirs_changeBy _ fun word => keepsDirs_bind fun _ _ => rfl
    · exact keepsDirs_changeBy _ fun word => keepsDirs_ok fun _ => rfl
    · exact keepsDirs_changeBy _ fun word => keepsDirs_bind fun _ _ => rfl
  have hExecutor : KeepsDirs (changeBy (environment "PGDECK_EXECUTOR") fun word config =>
      .ok { config with executorPath := word }) :=
    keepsDirs_changeBy _ fun word => keepsDirs_ok fun _ => rfl
  have hChanges : applyChanges
      ((envChanges environment).take 4 ++ (envChanges environment).drop 4) before =
        (none, after) := h
  obtain ⟨start, hStart, hRest⟩ := applyChanges_append hOthers hChanges
  obtain ⟨moved, hMoved, hRest⟩ := applyChanges_cons hRest
  obtain ⟨logged, hLogs, hRest⟩ := applyChanges_cons hRest
  obtain ⟨placed, hJobs, hRest⟩ := applyChanges_cons hRest
  obtain ⟨final, hFinal, hDone⟩ := applyChanges_cons hRest
  obtain rfl : final = after := congrArg Prod.snd hDone
  have hMove : dir.path moved =
      if Path.same (dir.path before) (dir.under before.dataDir) then dir.under dataDir
      else dir.path before := by
    have hSame : start.moveDataDir dataDir = moved := by
      rw [hData] at hMoved
      exact Except.ok.inj hMoved
    have hDataDir : start.dataDir = before.dataDir := congrArg Prod.fst hStart
    rw [← hSame, DerivedDir.path_moveDataDir, path_eq_of_dirs_eq hStart, hDataDir]
  have hLogged := path_changeBy_place .logs hLogs dir
  have hPlaced := path_changeBy_place .jobs hJobs dir
  rw [path_eq_of_dirs_eq (hExecutor placed final hFinal), hPlaced, hLogged, hMove]
  cases dir <;> rfl

/-! ## Directories of loaded settings -/

/-- Where a directory is in settings that were loaded with a data directory from the environment:
where its own variable says, or else under that data directory if it was under the one in force
after the file, or else where it was. -/
theorem path_of_load {base config : ConsoleConfig} {tree : FileTree} {path : Option String}
    {environment : String → Option String} (h : load base tree path environment = .ok config)
    {dataDir : String} (hData : environment "PGDECK_DATA_DIR" = some dataDir) (dir : DerivedDir) :
    let fields := fileFields tree path
    let inForce := settled fields "data_dir" base.dataDir
    let found := settled fields dir.field (dir.path base)
    dir.path config = (environment dir.envName).getD
      (if Path.same found (dir.under inForce) then dir.under dataDir else found) := by
  intro fields inForce found
  obtain ⟨start, hStart, hApplied⟩ := exists_readOver_of_load h
  rw [path_applyEnv hApplied hData, hStart.dataDir, hStart.derived dir]

theorem path_standard (dataHome executorPath : String) (dir : DerivedDir) :
    dir.path (standard dataHome executorPath) =
      dir.under (standard dataHome executorPath).dataDir := by
  cases dir <;> rfl

/-- Where a directory is that neither the file nor the environment sets: it follows the data
directory of the environment exactly if the file has left the data directory where it is by default,
or the environment puts it there; otherwise it stays under the default one.  A directory is where
its own variable puts it, and where the file puts it unless that is where it would be anyway. -/
theorem derived_dir_follows_iff (dataHome executorPath : String) {config : ConsoleConfig}
    {tree : FileTree} {path : Option String} {environment : String → Option String}
    (hLoad : load (standard dataHome executorPath) tree path environment = .ok config)
    {dataDir : String} (hData : environment "PGDECK_DATA_DIR" = some dataDir) (dir : DerivedDir) :
    let default := (standard dataHome executorPath).dataDir
    let fields := fileFields tree path
    let inForce := settled fields "data_dir" default
    (fields.lookup dir.field = none → environment dir.envName = none →
      (Path.same (dir.path config) (dir.under dataDir) = true ↔
        Path.same inForce default = true ∨ Path.same dataDir default = true) ∧
      (Path.same inForce default = false → dir.path config = dir.under default)) ∧
    (∀ word, environment dir.envName = some word → dir.path config = word) ∧
    ∀ word, (fields.lookup dir.field).bind Json.text? = some word →
      environment dir.envName = none → Path.same word (dir.under inForce) = false →
        dir.path config = word := by
  intro default fields inForce
  have hPath : dir.path config = (environment dir.envName).getD
      (if Path.same (settled fields dir.field (dir.under default)) (dir.under inForce) then
        dir.under dataDir
      else settled fields dir.field (dir.under default)) := by
    rw [← path_standard]
    exact path_of_load hLoad hData dir
  refine ⟨?_, ?_, ?_⟩
  · intro hUnset hNone
    have hPlace : dir.path config =
        if Path.same inForce default then dir.under dataDir else dir.under default := by
      have hFound : settled fields dir.field (dir.under default) = dir.under default := by
        rw [settled, hUnset]
        rfl
      rw [hPath, hNone, Option.getD_none, hFound, DerivedDir.same_under, Path.same_comm]
    rw [hPlace]
    cases hMoved : Path.same inForce default with
    | true => simp [Path.same_self]
    | false => simp [DerivedDir.same_under, Path.same_comm default]
  · intro word hWord
    rw [hPath, hWord, Option.getD_some]
  · intro word hSet hNone hOther
    have hFound : settled fields dir.field (dir.under default) = word := by
      rw [settled, hSet, Option.getD_some]
    rw [hPath, hNone, Option.getD_none, hFound, if_neg (by simp [hOther])]

theorem eq_ok_of_toOption {α : Type} {result : Except Error α} {value : α}
    (h : result.toOption = some value) : result = .ok value := by
  cases result with
  | error error => cases h
  | ok found => exact congrArg Except.ok (Option.some.inj h)

/-- A directory with a configuration file. -/
def treeWithFile (text : String) : FileTree :=
  FileTree.populate "/w" [("c", .file (Text.Utf8.encode text))]

/-- An environment that sets the data directory. -/
def movedData (name : String) : Option String :=
  if name = "PGDECK_DATA_DIR" then some "/n" else none

/-- A file that writes the default data directory in another way and sets one of the two
directories. -/
theorem derived_dirs_with_default_data_dir :
    let tree := treeWithFile "\x7b\"data_dir\":\"/xdg/./pgdeck/\",\"jobs_dir\":\"/j\"\x7d"
    ∃ config, load (standard "/xdg" "executor") tree (some "/w/c") movedData = .ok config ∧
      movedData "PGDECK_DATA_DIR" = some "/n" ∧
      Path.same config.logDir "/n/logs" = true ∧ config.jobsDir = "/j" := by
  intro tree
  have hLoad := eq_ok_of_toOption
    (show (load (standard "/xdg" "executor") tree (some "/w/c") movedData).toOption =
      some ⟨true, true, "pgdeck", 10, "/n", "/n/logs", "/j", "executor"⟩ by decide +kernel)
  have hData : movedData "PGDECK_DATA_DIR" = some "/n" := by decide
  have hLogs := (derived_dir_follows_iff "/xdg" "executor" hLoad hData .logs).1
    (by decide +kernel) (by decide)
  have hJobs := (derived_dir_follows_iff "/xdg" "executor" hLoad hData .jobs).2.2 "/j"
    (by decide +kernel) (by decide) (by decide +kernel)
  exact ⟨_, hLoad, hData, hLogs.1.mpr (.inl (by decide +kernel)), hJobs⟩

/-- A file that sets nothing but the data directory: with another data directory from the
environment, both derived directories stay under the default one. -/
theorem derived_dirs_left_behind :
    let tree := treeWithFile "\x7b\"data_dir\":\"/d\"\x7d"
    (fileFields tree (some "/w/c")).lookup "log_dir" = none ∧
      (fileFields tree (some "/w/c")).lookup "jobs_dir" = none ∧
      movedData "PGDECK_DATA_DIR" = some "/n" ∧ movedData "PGDECK_LOG_DIR" = none ∧
      movedData "PGDECK_JOBS_DIR" = none ∧
      ∃ config, load (standard "/xdg" "executor") tree (some "/w/c") movedData = .ok config ∧
        config.dataDir = "/n" ∧
        config.logDir = "/xdg/pgdeck/logs" ∧ Path.same config.logDir "/n/logs" = false ∧
        config.jobsDir = "/xdg/pgdeck/jobs" ∧ Path.same config.jobsDir "/n/jobs" = false := by
  intro tree
  have hLoad := eq_ok_of_toOption
    (show (load (standard "/xdg" "executor") tree (some "/w/c") movedData).toOption =
      some ⟨true, true, "pgdeck", 10, "/n", "/xdg/pgdeck/logs", "/xdg/pgdeck/jobs", "executor"⟩
      by decide +kernel)
  exact ⟨by decide +kernel, by decide +kernel, by decide, by decide, by decide, _, hLoad, rfl, rfl,
    by decide +kernel, rfl, by decide +kernel⟩

end ConsoleConfig

end PgConsole
