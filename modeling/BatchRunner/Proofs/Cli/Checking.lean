import BatchRunner.Cli.Check
import BatchRunner.Cli.RunOptions
import BatchRunner.Machine.Host
import BatchRunner.Proofs.Files.Resolving
import BatchRunner.Proofs.Host.Prompt
import BatchRunner.Proofs.Task.Calls

/-!
# What a check tells of a start

A process is started under a name with a slash, which is its path, or under a bare name, which is looked for in the
search path among the variables of the process itself (`Launch.finds`). A check looks for every program of a batch
in the search path of the checking program. So it tells whether the start of an entry will find a program if the
entry leaves the search path as it is (`TaskEntry.problems_eq_nil_iff`), and may be wrong if the entry sets its own.
-/

namespace BatchRunner

namespace Launch

variable {launch : Launch} {space : Workspace}

/-- Where a program with a bare name is looked for: in the search path that its process is given, or else in the
usual directories. -/
def searchPath (launch : Launch) : String :=
  ((Machine.processVariables launch.vars).lookup "PATH").getD Machine.defaultSearchPath

/-- The paths at which a program may be, in order. -/
def places (launch : Launch) : List String :=
  if launch.program.toList.contains '/' then [launch.program]
  else (Files.searchDirectories launch.searchPath).map (Files.join · launch.program)

/-- Whether a start finds a file that may be run. -/
def finds (launch : Launch) (space : Workspace) : Bool :=
  launch.places.any (Files.isProgram space.tree space.cwd)

theorem finds_of_slash (h : '/' ∈ launch.program.toList) :
    launch.finds space = Files.isProgram space.tree space.cwd launch.program := by
  have hplaces : launch.places = [launch.program] := if_pos (List.contains_iff_mem.2 h)
  rw [finds, hplaces, List.any_cons, List.any_nil, Bool.or_false]

theorem finds_of_bare (h : '/' ∉ launch.program.toList) :
    launch.finds space = (Files.searchDirectories launch.searchPath).any fun dir =>
      Files.isProgram space.tree space.cwd (Files.join dir launch.program) := by
  have hplaces : launch.places = (Files.searchDirectories launch.searchPath).map (Files.join · launch.program) :=
    if_neg fun hcontains => h (List.contains_iff_mem.1 hcontains)
  rw [finds, hplaces, List.any_map]
  rfl

end Launch

namespace Task

variable {κ W : Type} {task : Task κ} {host : Host W} {source : EnvironmentSource} {w : W} {request : Launch}

/-- What the process of a task is started with. -/
def launch (task : Task κ) (host : Host W) (source : EnvironmentSource) (w : W) : Except Error Launch :=
  (task.resolveVariables host source w).map fun vars =>
    ⟨task.spec.program, task.spec.args, vars, task.separateErrors⟩

theorem launch_eq_ok_iff : task.launch host source w = .ok request ↔
    ∃ vars, task.resolveVariables host source w = .ok vars ∧
      request = ⟨task.spec.program, task.spec.args, vars, task.separateErrors⟩ := by
  unfold Task.launch
  cases task.resolveVariables host source w with
  | error error => simp [Except.map]
  | ok vars => simp [Except.map, eq_comm]

/-- A queued task is executed by starting its process with that. -/
theorem execute_launch (hstate : task.state.canMoveTo .executing = true)
    (h : task.launch host source w = .ok request) : ∃ after, task.execute host source w =
      .ok (match (host.spawn request w).1 with
        | .ok _ => .ok ()
        | .error cause => .error (.spawn task.spec.program cause), after, (host.spawn request w).2) := by
  have hmove : task.checkMove .executing = .ok () := if_pos hstate
  obtain ⟨vars, hvars, rfl⟩ := launch_eq_ok_iff.1 h
  unfold execute
  rw [hmove, hvars]
  rcases hspawn : host.spawn ⟨task.spec.program, task.spec.args, vars, task.separateErrors⟩ w with ⟨cause | child, w'⟩
  · exact ⟨{ task with state := .finished, completedAt := some (host.now w') }, by
      simp [hspawn, bind, Except.bind, pure, Except.pure]⟩
  · exact ⟨{ task with
      pid := some child.pid
      process := some child
      state := .executing
      startedAt := some (host.now w') }, by simp [hspawn, bind, Except.bind, pure, Except.pure]⟩

theorem launch_program (h : task.launch host source w = .ok request) : request.program = task.spec.program := by
  obtain ⟨vars, -, rfl⟩ := launch_eq_ok_iff.1 h
  rfl

end Task

namespace TaskEntry

variable {κ W : Type} {entry : TaskEntry} {space : Workspace}

theorem problems_eq_nil (entry : TaskEntry) (space : Workspace) (searchPath : Option String) :
    entry.problems space searchPath = [] ↔
      (Files.findProgram space.tree space.cwd entry.program searchPath).isSome = true := by
  unfold problems
  cases Files.findProgram space.tree space.cwd entry.program searchPath <;> simp

/-- A check finds no problem with an entry exactly if the start of its task finds a program. This is so for a bare
name if the entry leaves the search path as the check sees it, and for a relative one with a slash if its end and its
length are not lost when the working directory is put in front. -/
theorem problems_eq_nil_iff {task : Task κ} (hspec : task.spec = entry.spec) {host : Host W} {w : W} {launch : Launch}
    (hlaunch : task.launch host .ambient w = .ok launch) (hplaced : Files.IsPlaced space.tree space.cwd)
    {searchPath : Option String} (hbare : '/' ∉ entry.program.toList → searchPath = some launch.searchPath)
    (hrelative : '/' ∈ entry.program.toList → Files.isAbsolute entry.program = false →
      entry.program.endsWith "/" = false ∧ entry.program.endsWith "/." = false ∧
        ((Files.anchored space.cwd entry.program).utf8ByteSize < Files.pathLimit ↔
          entry.program.utf8ByteSize < Files.pathLimit)) :
    entry.problems space searchPath = [] ↔ launch.finds space = true := by
  have hprogram : launch.program = entry.program := by
    rw [Task.launch_program hlaunch, hspec]
    rfl
  rw [problems_eq_nil]
  by_cases hslash : '/' ∈ entry.program.toList
  · rw [Files.findProgram_of_slash hplaced searchPath hslash (hrelative hslash),
      Launch.finds_of_slash (hprogram ▸ hslash), hprogram]
  · rw [hbare hslash, Files.findProgram_of_bare _ _ _ hslash, Launch.finds_of_bare (hprogram ▸ hslash), hprogram]

/-- A working directory with a program in a directory of its own. -/
def toolSpace : Workspace where
  tree := { entries := [(["work"], .directory), (["work", "tools"], .directory),
    (["work", "tools", "hello"], .file 0o755 .empty)] }
  cwd := ["work"]

theorem toolSpace_placed : Files.IsPlaced toolSpace.tree toolSpace.cwd where
  names := by
    intro name hmem
    obtain rfl := List.mem_singleton.1 hmem
    exact ⟨⟨by decide, by decide⟩, by decide, by decide, by decide, by decide⟩
  directory := by
    intro front hfront
    rcases List.prefix_cons_iff.1 hfront with rfl | ⟨rest, rfl, hrest⟩
    · rfl
    · obtain rfl := List.prefix_nil.1 hrest
      rfl

/-- An entry that names the program in the directory of tools. -/
def toolEntry (program : String) (env : List String) : TaskEntry := { program, env }

/-- What the process of an entry with a search path of its own is started with. -/
theorem launch_toolEntry (program dirs : String)
    (hdirs : Environment.ofEntries ["PATH=" ++ dirs] = .ok [("PATH", dirs)]) :
    (Task.queued (.ofNat 0) (toolEntry program ["PATH=" ++ dirs]).spec () false 0).launch (.prompt fun _ => .ok 0)
      .ambient 0 = .ok ⟨program, [], [("PATH", dirs)], false⟩ := by
  unfold Task.launch Task.resolveVariables
  show (Environment.ofEntries ["PATH=" ++ dirs]).map _ = _
  rw [hdirs]
  rfl

/-- The program is found by its path, and by its name in a search path that the entry and the check share. Another one
is not found. -/
theorem problems_eq_nil_iff_of_tool :
    (toolEntry "tools/hello" []).problems toolSpace none = [] ∧
      (toolEntry "hello" ["PATH=/bin:tools"]).problems toolSpace (some "/bin:tools") = [] ∧
      (toolEntry "hallo" ["PATH=/bin:tools"]).problems toolSpace (some "/bin:tools") ≠ [] := by
  have hown : Environment.ofEntries ["PATH=" ++ "/bin:tools"] = .ok [("PATH", "/bin:tools")] := by decide
  refine ⟨?_, ?_, ?_⟩
  · have hlaunch : (Task.queued (.ofNat 0) (toolEntry "tools/hello" []).spec () false 0).launch
        (.prompt fun _ => .ok 0) .ambient 0 = .ok ⟨"tools/hello", [], [], false⟩ := rfl
    refine (problems_eq_nil_iff rfl hlaunch toolSpace_placed ?_ ?_).2 ?_
    · exact fun h => absurd (by decide) h
    · exact fun _ _ => by decide +kernel
    · decide +kernel
  · refine (problems_eq_nil_iff rfl (launch_toolEntry "hello" "/bin:tools" hown) toolSpace_placed ?_ ?_).2 ?_
    · exact fun _ => by decide +kernel
    · exact fun h => absurd h (by decide)
    · decide +kernel
  · refine (not_congr (problems_eq_nil_iff rfl (launch_toolEntry "hallo" "/bin:tools" hown) toolSpace_placed ?_ ?_)).2 ?_
    · exact fun _ => by decide +kernel
    · exact fun h => absurd h (by decide)
    · decide +kernel

/-- An entry with a search path of its own is started by its name, but the check does not find its program. -/
theorem problem_of_own_search_path : ∃ request,
    (Task.queued (.ofNat 0) (toolEntry "hello" ["PATH=tools"]).spec () false 0).launch (.prompt fun _ => .ok 0)
        .ambient 0 = .ok request ∧
      request.finds toolSpace = true ∧
      (toolEntry "hello" ["PATH=tools"]).problems toolSpace (some "/usr/bin:/bin") =
        ["program 'hello' not found or not executable"] := by
  have hown : Environment.ofEntries ["PATH=" ++ "tools"] = .ok [("PATH", "tools")] := by decide
  exact ⟨_, launch_toolEntry "hello" "tools" hown, by decide +kernel, by decide +kernel⟩

end TaskEntry

end BatchRunner
