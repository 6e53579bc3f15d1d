import PgConsole.Job.Launcher
import PgConsole.Proofs.ConnectionKey

namespace PgConsole.Job

/-!
# Jobs handed over to an executor

A launcher writes a request into the arguments and the environment of an executor, and the
executor reads its job from there.  Directory, program, arguments and password arrive as they
were asked for, with one exception: an argument that already stands between two markers and has
no double quote in it is not protected, but it is stripped of its markers all the same.

`Argument.unprotect_protect_iff` says this of one argument and `executor_reads_request_iff` of a
whole request.  A password that was not asked for can only come from the environment that the
launcher itself runs in.
-/

namespace Argument

/-- What is found between markers is what stands between them. -/
theorem between?_eq_some_iff {text inner : List Char} :
    between? text = some inner ↔ text = marker.toList ++ inner ++ marker.toList := by
  constructor
  · intro hBetween
    simp only [between?, Option.bind_eq_bind, Option.bind_eq_some_iff, Option.some.injEq]
      at hBetween
    obtain ⟨rest, hRest, reversed, hReversed, rfl⟩ := hBetween
    have hEnd := congrArg List.reverse (Text.eq_append_of_stripStart? hReversed)
    simp only [List.reverse_reverse, List.reverse_append] at hEnd
    rw [Text.eq_append_of_stripStart? hRest, hEnd, List.append_assoc]
  · rintro rfl
    simp only [between?, List.append_assoc, Text.stripStart?_append, List.reverse_append,
      Option.bind_eq_bind, Option.bind_some, List.reverse_reverse]

/-- Two markers are taken off whatever stands between them. -/
theorem unprotect_between (inner : String) : unprotect (marker ++ inner ++ marker) = inner := by
  have hBetween : between? (marker ++ inner ++ marker).toList = some inner.toList := by
    rw [between?_eq_some_iff, String.toList_append, String.toList_append]
  rw [unprotect, hBetween]
  exact String.ofList_toList

/-- Without two markers nothing is taken off. -/
theorem unprotect_of_unmarked {argument : String}
    (hUnmarked : ∀ inner, argument ≠ marker ++ inner ++ marker) :
    unprotect argument = argument := by
  unfold unprotect
  split
  · rename_i inner hBetween
    refine absurd ?_ (hUnmarked (String.ofList inner))
    rw [← String.toList_inj, String.toList_append, String.toList_append, String.toList_ofList]
    exact between?_eq_some_iff.mp hBetween
  · rfl

/-- The markers themselves have no double quote. -/
theorem quote_mem_between (inner : String) :
    '"' ∈ (marker ++ inner ++ marker).toList ↔ '"' ∈ inner.toList := by
  have hMarker : '"' ∉ marker.toList := by decide
  simp [String.toList_append, hMarker]

/-- An argument comes back as it was, unless it stands between markers and has no double
quote. -/
theorem unprotect_protect_iff (argument : String) :
    unprotect (protect argument) = argument ↔
      ∀ inner, argument = marker ++ inner ++ marker → '"' ∈ inner.toList := by
  by_cases hQuote : '"' ∈ argument.toList
  · have hProtect : protect argument = marker ++ argument ++ marker := by
      rw [protect, if_pos (List.contains_iff_mem.mpr hQuote)]
    rw [hProtect, unprotect_between]
    refine iff_of_true rfl ?_
    rintro inner rfl
    exact (quote_mem_between inner).mp hQuote
  · have hProtect : protect argument = argument := by
      rw [protect, if_neg (hQuote ∘ List.contains_iff_mem.mp)]
    rw [hProtect]
    constructor
    · rintro hSame inner rfl
      -- eight characters are gone, so this cannot be the same text
      rw [unprotect_between] at hSame
      have hLength := congrArg String.length hSame
      have hMarker : marker.length = 4 := rfl
      simp only [String.length_append, hMarker] at hLength
      omega
    · intro hMarked
      refine unprotect_of_unmarked ?_
      rintro inner rfl
      exact hQuote ((quote_mem_between inner).mpr (hMarked inner rfl))

end Argument

/-- A launch site together with the programs that were run on it, in order. -/
structure Invoked (World : Type) where
  world : World
  invocations : List Invocation := []

variable {World : Type}

/-- The same site, with every program that is run on it recorded. -/
def LaunchSite.recorded (site : LaunchSite World) : LaunchSite (Invoked World) where
  createDirectory path invoked :=
    let (result, world) := site.createDirectory path invoked.world
    (result, { invoked with world })
  invoke invocation invoked :=
    let (result, world) := site.invoke invocation invoked.world
    (result, ⟨world, invoked.invocations ++ [invocation]⟩)

/-- The environment of a program that inherits one and is given further variables. -/
def Invocation.environment (invocation : Invocation) (inherited : String → Option String)
    (name : String) : Option String :=
  (invocation.settings.lookup name).or (inherited name)

/-- Once the directory of a job is there, launching the job runs its executor and nothing
else. -/
theorem Launcher.invocations_launch (launcher : Launcher) (site : LaunchSite World) (id : JobId)
    (request : JobRequest) {world made : World}
    (hMade : site.createDirectory (launcher.directoryOf id) world = (.ok (), made)) :
    (launcher.launch site.recorded id request { world }).2.invocations =
      [launcher.invocation id request] := by
  simp only [launch, LaunchSite.recorded, hMade, List.nil_append]
  split
  · rename_i hInvoked
    exact (congrArg (fun answer => answer.2.invocations) hInvoked).symm
  · rename_i hInvoked
    have hRecorded := congrArg (fun answer => answer.2.invocations) hInvoked
    split <;> exact hRecorded.symm

namespace Launcher

theorem directoryOf_ne_empty (launcher : Launcher) (id : JobId) :
    (launcher.directoryOf id).isEmpty = false := by
  have hText : id.text ≠ "" := by
    intro hEmpty
    have hLength := congrArg String.length hEmpty
    simp [JobId.text, String.intercalate_cons_cons] at hLength
  rw [String.isEmpty_eq_false_iff, directoryOf, BackgroundJob.directoryOf, Path.join]
  split
  · exact hText
  · split <;> simp [hText]

theorem passwordVariable_ne (id : JobId) :
    passwordVariable id ≠ JobSpec.directoryVariable ∧ passwordVariable id ≠ JobSpec.nameVariable ∧
      (passwordVariable id).isEmpty = false := by
  refine ⟨?_, ?_, ?_⟩
  · intro h
    simp [passwordVariable, JobSpec.directoryVariable, ← String.toList_inj] at h
  · intro h
    simp [passwordVariable, JobSpec.nameVariable, ← String.toList_inj] at h
  · simp [passwordVariable]

variable (launcher : Launcher) (id : JobId) (request : JobRequest)
  (inherited : String → Option String)

theorem environment_directoryVariable :
    (launcher.invocation id request).environment inherited JobSpec.directoryVariable =
      some (launcher.directoryOf id) := by
  simp [Invocation.environment, invocation, variablesFor]

theorem environment_nameVariable :
    (launcher.invocation id request).environment inherited JobSpec.nameVariable =
      some (passwordVariable id) := by
  have hOther : (JobSpec.nameVariable == JobSpec.directoryVariable) = false := by decide
  simp [Invocation.environment, invocation, variablesFor, List.lookup_cons, hOther]

/-- The password's variable holds the password of the request; without one it is inherited. -/
theorem environment_passwordVariable :
    (launcher.invocation id request).environment inherited (passwordVariable id) =
      request.password.or (inherited (passwordVariable id)) := by
  obtain ⟨hDirectory, hName, -⟩ := passwordVariable_ne id
  cases hPassword : request.password <;>
    simp [Invocation.environment, invocation, variablesFor, List.lookup_cons, hPassword,
      beq_eq_false_iff_ne.mpr hDirectory, beq_eq_false_iff_ne.mpr hName]

/-- What an executor reads from the arguments and the environment it is given. -/
theorem ofParts_invocation {isDirectory : String → Bool}
    (hDirectory : isDirectory (launcher.directoryOf id) = true) :
    JobSpec.ofParts isDirectory (launcher.invocation id request).arguments
        ((launcher.invocation id request).environment inherited) =
      .ok ⟨launcher.directoryOf id, passwordVariable id,
        (request.program :: request.arguments).map fun word =>
          Argument.unprotect (Argument.protect word),
        request.password.or (inherited (passwordVariable id))⟩ := by
  have hArguments : (launcher.invocation id request).arguments.map Argument.unprotect =
      (request.program :: request.arguments).map fun word =>
        Argument.unprotect (Argument.protect word) := by
    simp [invocation, argumentsFor]
  simp only [JobSpec.ofParts, JobSpec.requireVariable, environment_directoryVariable,
    environment_nameVariable, environment_passwordVariable, directoryOf_ne_empty,
    (passwordVariable_ne id).2.2, hDirectory, hArguments, List.map_cons, Bool.false_eq_true,
    if_false, Bool.not_true]

/-- The words of a command come back as they were exactly if each of them does. -/
theorem map_unprotect_protect_iff (words : List String) :
    (words.map fun word => Argument.unprotect (Argument.protect word)) = words ↔
      ∀ word ∈ words, ∀ inner, word = Argument.marker ++ inner ++ Argument.marker →
        '"' ∈ inner.toList := by
  induction words with
  | nil => simp
  | cons word rest ih =>
      rw [List.map_cons, List.cons.injEq, ih, Argument.unprotect_protect_iff,
        List.forall_mem_cons]

/-- An argument comes back as it was unless it stands between markers and has no double quote.
When the directory of a job has been made, launching the job runs one program, and what that
program finds in its arguments and its environment is a job in this directory.  Its command is
the program and the arguments of the request exactly if each of them comes back as it was, and
its password is that of the request exactly if a password that was not asked for is not
inherited either. -/
theorem executor_reads_request_iff (launcher : Launcher) (site : LaunchSite World) (id : JobId)
    (request : JobRequest) {world made : World}
    (hMade : site.createDirectory (launcher.directoryOf id) world = (.ok (), made))
    {isDirectory : String → Bool} (hDirectory : isDirectory (launcher.directoryOf id) = true)
    (inherited : String → Option String) :
    (∀ argument, Argument.unprotect (Argument.protect argument) = argument ↔
      ∀ inner, argument = Argument.marker ++ inner ++ Argument.marker → '"' ∈ inner.toList) ∧
    ∃ invocation spec,
      (launcher.launch site.recorded id request { world }).2.invocations = [invocation] ∧
      JobSpec.ofParts isDirectory invocation.arguments (invocation.environment inherited) =
        .ok spec ∧
      spec.directory = launcher.directoryOf id ∧
      (spec.words = request.program :: request.arguments ↔
        ∀ word ∈ request.program :: request.arguments, ∀ inner,
          word = Argument.marker ++ inner ++ Argument.marker → '"' ∈ inner.toList) ∧
      (spec.password = request.password ↔
        (request.password = none → inherited (passwordVariable id) = none)) := by
  have hSpec := launcher.ofParts_invocation id request inherited hDirectory
  refine ⟨Argument.unprotect_protect_iff, _, _,
    launcher.invocations_launch site id request hMade, hSpec, ?_, ?_, ?_⟩
  · dsimp only
  · exact map_unprotect_protect_iff (request.program :: request.arguments)
  · cases request.password with
    | none => simp
    | some password => simp

/-- A request with a double quote, with half a pair of markers and with a password. -/
theorem executor_reads_quoted_request :
    let launcher : Launcher := ⟨"pgdeck-executor", "/jobs"⟩
    let site : LaunchSite Unit :=
      ⟨fun _ world => (.ok (), world), fun _ world => (.ok (.exited 0), world)⟩
    let request : JobRequest := ⟨"echo", ["say \"hi\"", "#DQ#"], some "pw"⟩
    let isDirectory : String → Bool := fun path => path == launcher.directoryOf ⟨1⟩
    (site.createDirectory (launcher.directoryOf ⟨1⟩) () = (.ok (), ()) ∧
        isDirectory (launcher.directoryOf ⟨1⟩) = true) ∧
      ∃ invocation spec,
        (launcher.launch site.recorded ⟨1⟩ request { world := () }).2.invocations = [invocation] ∧
        JobSpec.ofParts isDirectory invocation.arguments
          (invocation.environment fun _ => none) = .ok spec ∧
        spec.words = ["echo", "say \"hi\"", "#DQ#"] ∧ spec.password = some "pw" := by
  intro launcher site request isDirectory
  have hMade : site.createDirectory (launcher.directoryOf ⟨1⟩) () = (.ok (), ()) := rfl
  have hDirectory : isDirectory (launcher.directoryOf ⟨1⟩) = true := beq_self_eq_true _
  obtain ⟨hArgument, invocation, spec, hInvoked, hSpec, -, hWords, hPassword⟩ :=
    executor_reads_request_iff launcher site ⟨1⟩ request hMade hDirectory fun _ => none
  refine ⟨⟨hMade, hDirectory⟩, invocation, spec, hInvoked, hSpec, hWords.mpr ?_, ?_⟩
  · simp only [request, List.forall_mem_cons, ← hArgument]
    exact ⟨by decide +kernel, by decide +kernel, by decide +kernel, by simp⟩
  · exact hPassword.mpr fun _ => rfl

/-- An argument between two markers without a double quote loses them on the way. -/
theorem marked_argument_stripped :
    let launcher : Launcher := ⟨"pgdeck-executor", "/jobs"⟩
    let site : LaunchSite Unit :=
      ⟨fun _ world => (.ok (), world), fun _ world => (.ok (.exited 0), world)⟩
    let request : JobRequest := { program := "echo", arguments := ["#DQ#x#DQ#"] }
    let isDirectory : String → Bool := fun path => path == launcher.directoryOf ⟨1⟩
    Argument.unprotect (Argument.protect "#DQ#x#DQ#") = "x" ∧
      ∃ invocation spec,
        (launcher.launch site.recorded ⟨1⟩ request { world := () }).2.invocations = [invocation] ∧
        JobSpec.ofParts isDirectory invocation.arguments
          (invocation.environment fun _ => none) = .ok spec ∧
        spec.words = ["echo", "x"] ∧ spec.words ≠ request.program :: request.arguments := by
  intro launcher site request isDirectory
  have hDirectory : isDirectory (launcher.directoryOf ⟨1⟩) = true := beq_self_eq_true _
  have hWords : ((request.program :: request.arguments).map fun word =>
      Argument.unprotect (Argument.protect word)) = ["echo", "x"] := by decide +kernel
  refine ⟨by decide +kernel, launcher.invocation ⟨1⟩ request, _,
    launcher.invocations_launch site ⟨1⟩ request rfl,
    launcher.ofParts_invocation ⟨1⟩ request (fun _ => none) hDirectory, hWords, ?_⟩
  intro hSame
  exact absurd (hWords.symm.trans hSame) (by decide)

end Launcher

end PgConsole.Job
