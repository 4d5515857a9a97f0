import GladeGo.CommandLine.Run
import GladeGo.Proofs.Conversion.File
import GladeGo.Proofs.Conversion.Interleaving

/-! # Running the command among other processes

Without leave to replace it, the command never replaces its output, whatever other processes do
between its requests (`keeps_output_of_runs`). That the output exists is reported in the same way
whether the command looks for it or its temporary file is refused. -/

namespace GladeGo.CommandLine

variable {files files' : FileSystem} {turns : List Turn}

/-- The turns of a command that writes a file and may not replace anything, and its result. -/
inductive Commands (input output : String) : List Turn → Except CommandFault String → Prop
  | noInput {time : Int} {files : FileSystem} :
      Commands input output [.answered (.isFile input) time files] (.error (.inputNotFound input))
  | outputExists {time time' : Int} {files files' : FileSystem} (hthere : files'.isThere output = true) :
      Commands input output
        [.answered (.isFile input) time files, .answered (.isThere output) time' files']
        (.error (.outputExists output))
  | converts {time time' : Int} {files files' : FileSystem} {turns : List Turn}
      {result : Except ConversionFailure Unit} (hthere : files'.isThere output = false)
      (h : Converts input output turns result) :
      Commands input output
        (.answered (.isFile input) time files :: .answered (.isThere output) time' files' :: turns)
        ((result.mapError .ofFailure).map fun _ => "")

theorem perform_isFile {time : Int} {path : String} :
    Request.perform time files (.isFile path) = (files.isFile path, files) := rfl

theorem perform_isThere {time : Int} {path : String} :
    Request.perform time files (.isThere path) = (files.isThere path, files) := rfl

theorem commands_of_runs {arguments : Arguments} {output : String}
    (htask : arguments.task = .write output) (hforce : arguments.force = false)
    {result : Except CommandFault String}
    (h : (runCommand arguments : Program (List String) CommandFault String).Runs files turns result
      files') : Commands arguments.input output turns result := by
  obtain ⟨time, before, later, -, rfl, hinput⟩ :=
    Program.runs_request_bind.mp (Program.runs_record_bind.mp h)
  rw [perform_isFile] at hinput
  dsimp only at hinput
  split at hinput
  · rw [htask] at hinput
    dsimp only at hinput
    obtain ⟨written, rfl, hwrite⟩ : ∃ written : Except CommandFault Unit,
        result = written.map (fun _ => "") ∧
          (writeFile arguments output).Runs before later written files' := by
      rcases Program.runs_bind.mp hinput with
        ⟨failure, rfl, hwrite⟩ | ⟨_, _, writing, _, rfl, hwrite, hdone⟩
      · exact ⟨.error failure, rfl, hwrite⟩
      · obtain ⟨rfl, rfl, rfl⟩ := Program.runs_done.mp hdone
        rw [List.append_nil]
        exact ⟨.ok (), rfl, hwrite⟩
    obtain ⟨time', before', last, -, rfl, houtput⟩ := Program.runs_request_bind.mp hwrite
    rw [perform_isThere, hforce] at houtput
    dsimp only at houtput
    split at houtput
    · rename_i hthere
      obtain ⟨rfl, rfl, -⟩ := Program.runs_fail.mp houtput
      exact .outputExists (by simpa using hthere)
    · rename_i hthere
      obtain ⟨converted, rfl, hconvert⟩ :=
        Program.runs_mapFault.mp (Program.runs_record_bind.mp houtput)
      exact .converts (by simpa using hthere) (converts_of_runs hconvert)
  · obtain ⟨rfl, rfl, -⟩ := Program.runs_fail.mp hinput
    exact .noInput

/-- The command fails as the conversion fails if it finds the input and not the output. -/
theorem runs_runCommand_of_convertFile {arguments : Arguments} {output : String}
    {failure : ConversionFailure} (htask : arguments.task = .write output)
    (hforce : arguments.force = false) (hinput : files.isFile arguments.input = true)
    (houtput : files.isThere output = false)
    (h : (convertFile arguments.input output arguments.options false :
      Program (List String) ConversionFailure Unit).Runs files turns (.error failure) files') :
    (runCommand arguments : Program (List String) CommandFault String).Runs files
      (.answered (.isFile arguments.input) 0 files :: .answered (.isThere output) 0 files :: turns)
      (.error (.ofFailure failure)) files' := by
  refine Program.runs_record_bind.mpr (Program.runs_request_bind.mpr ⟨0, files, _, rfl, rfl, ?_⟩)
  rw [perform_isFile, hinput, if_pos rfl, htask]
  refine Program.runs_bind.mpr (.inl ⟨_, rfl, Program.runs_request_bind.mpr
    ⟨0, files, turns, rfl, rfl, ?_⟩⟩)
  rw [perform_isThere, houtput, hforce]
  exact Program.runs_record_bind.mpr (Program.runs_mapFault.mpr ⟨.error failure, rfl, h⟩)

theorem Commands.requests {input output : String} {result : Except CommandFault String}
    (h : Commands input output turns result) : ∃ content temporary, turns.map Turn.request <+:
      [.isFile input, .isThere output, .read input, .now,
        .createTemporary (FilePath.directory output) content, .persist temporary output false,
        .discard temporary] := by
  cases h with
  | noInput => exact ⟨ByteArray.empty, [], List.prefix_append [_] _⟩
  | outputExists hthere => exact ⟨ByteArray.empty, [], List.prefix_append [_, _] _⟩
  | converts hthere hconvert =>
    obtain ⟨content, temporary, hrequests⟩ := hconvert.requests
    exact ⟨content, temporary, (List.prefix_append_right_inj [_, _]).mpr hrequests⟩

theorem Commands.keeps {input output : String} {result : Except CommandFault String}
    (h : Commands input output turns result) : ∀ turn ∈ turns, turn.Keeps output := by
  have hinput : ∀ {time before}, Turn.Keeps output (.answered (.isFile input) time before) :=
    keeps_of_after_eq rfl
  have houtput : ∀ {time before}, Turn.Keeps output (.answered (.isThere output) time before) :=
    keeps_of_after_eq rfl
  cases h with
  | noInput => exact List.forall_mem_singleton.mpr hinput
  | outputExists hthere =>
    exact List.forall_mem_cons.mpr ⟨hinput, List.forall_mem_singleton.mpr houtput⟩
  | converts hthere hconvert =>
    exact List.forall_mem_cons.mpr ⟨hinput, List.forall_mem_cons.mpr ⟨houtput, hconvert.keeps⟩⟩

/-- The command fails if something stands where its temporary file is to be moved, and its fault is
that the output exists if the move is refused because of that. -/
theorem Commands.persist {input output path : String} {result : Except CommandFault String}
    {temporary : List String} {replace : Bool} {before after : FileSystem}
    {answer : Except FileFault Unit} (h : Commands input output turns result)
    (hturn : ⟨.persist temporary path replace, before, answer, after⟩ ∈ turns) :
    path = output ∧ replace = false ∧
      (∀ entry, before.find output = .ok entry →
        (answer = .error .alreadyExists ∨ before.entry? temporary = none) ∧
        ∀ lines, (exitOf lines result).code = 1) ∧
      (answer = .error .alreadyExists → result = .error (.outputExists output)) := by
  cases h with
  | noInput => exact absurd hturn (by simp [Turn.answered])
  | outputExists hthere => exact absurd hturn (by simp [Turn.answered])
  | converts hthere hconvert =>
    obtain ⟨code, writing, hwrite, hmem⟩ :=
      hconvert.exists_writesFile (by simpa [Turn.answered] using hturn)
    obtain ⟨hpath, hreplace, hfound, hanswer⟩ := hwrite.persist hmem
    refine ⟨hpath, hreplace, fun entry hentry => ?_, fun hexists => ?_⟩
    · obtain ⟨⟨failure, hfailure⟩, hreason⟩ := hfound entry hentry
      exact ⟨hreason, fun lines => by rw [hfailure]; rfl⟩
    · rw [hanswer hexists]
      rfl

/-- If the command finds something when it looks for its output, its fault is that the output
exists. -/
theorem Commands.isThere {input output path : String} {result : Except CommandFault String}
    {before after : FileSystem} (h : Commands input output turns result)
    (hturn : ⟨.isThere path, before, true, after⟩ ∈ turns) :
    path = output ∧ result = .error (.outputExists output) := by
  cases h with
  | noInput => exact absurd hturn (by simp [Turn.answered])
  | outputExists hthere =>
    rcases List.mem_cons.mp hturn with hturn | hturn
    · exact absurd (congrArg Turn.request hturn) (by simp [Turn.answered])
    · have hrequest := congrArg Turn.request (List.mem_singleton.mp hturn)
      exact ⟨Request.isThere.inj hrequest, rfl⟩
  | @converts _ _ _ found _ _ hthere hconvert =>
    rcases List.mem_cons.mp hturn with hturn | hturn
    · exact absurd (congrArg Turn.request hturn) (by simp [Turn.answered])
    · rcases List.mem_cons.mp hturn with hturn | hturn
      · obtain ⟨hrequest, -, hanswer, -⟩ := Turn.mk.inj hturn
        obtain rfl := Request.isThere.inj hrequest
        have hfound : true = found.isThere path := eq_of_heq hanswer
        exact absurd (hfound.trans hthere) (by simp)
      · obtain ⟨content, temporary, hrequests⟩ := hconvert.requests
        exact absurd (hrequests.subset (List.mem_map_of_mem hturn)) (by simp)

/-- **Without leave to replace it, an output is never replaced**, whatever other processes do between
the requests of the command. Each request keeps what is at the output when it is made. If something
is there when the temporary file is to be moved to it, the move is refused because of that, unless
the temporary file is gone, and the exit code is 1. The fault is the same whether the command finds
the output or its temporary file is refused. -/
theorem keeps_output_of_runs {arguments : Arguments} {output : String}
    (htask : arguments.task = .write output) (hforce : arguments.force = false)
    {result : Except CommandFault String}
    (h : (runCommand arguments : Program (List String) CommandFault String).Runs files turns result
      files') :
    (∃ content temporary, turns.map Turn.request <+:
      [.isFile arguments.input, .isThere output, .read arguments.input, .now,
        .createTemporary (FilePath.directory output) content, .persist temporary output false,
        .discard temporary]) ∧
    (∀ turn ∈ turns, turn.Keeps output) ∧
    (∀ temporary path replace before answer after,
      ⟨.persist temporary path replace, before, answer, after⟩ ∈ turns →
      path = output ∧ replace = false ∧
      (∀ entry, before.find output = .ok entry →
        (answer = .error .alreadyExists ∨ before.entry? temporary = none) ∧
        ∀ lines, (exitOf lines result).code = 1) ∧
      (answer = .error .alreadyExists → result = .error (.outputExists output))) ∧
    (∀ path before after, ⟨.isThere path, before, true, after⟩ ∈ turns →
      path = output ∧ result = .error (.outputExists output)) := by
  have hcommands := commands_of_runs htask hforce h
  exact ⟨hcommands.requests, hcommands.keeps,
    fun temporary path replace before answer after hturn => hcommands.persist hturn,
    fun path before after hturn => hcommands.isThere hturn⟩

/-- Arguments for the document of the sample. -/
def sampleArguments : Arguments := ⟨"a.wxg", .write "a.go", false, "main", "wx", 0⟩

/-- Another process writes the output after the command has looked for it. -/
theorem runs_writeText_sampleFiles (code : String) : ∃ fresh before turns files',
    (writeText "a.go" code false : Program (List String) ConversionFailure Unit).Runs sampleFiles
      turns (.error (.outputExists "a.go")) files' ∧
    before.find "a.go" = .ok (.file "other".toUTF8) ∧
    ⟨.persist fresh "a.go" false, before, .error .alreadyExists, before⟩ ∈ turns := by
  have hlocate : sampleFiles.locate "a.go" = .ok ["tmp", "workingdir", "a.go"] :=
    eq_ok_of_toOption (by decide +kernel)
  obtain ⟨fresh, created, hcreate⟩ :=
    FileSystem.createFresh_directory hlocate (eq_ok_of_toOption (by decide +kernel)) code.toUTF8
  obtain ⟨location, -, -, rfl, hcreated⟩ := FileSystem.createFresh_eq_ok hcreate
  have hfree := FileSystem.entry?_eq_none (by simp)
    (@FileSystem.freshName_free sampleFiles location)
  have hne : ["tmp", "workingdir", "a.go"] ≠ location ++ [sampleFiles.freshName] :=
    @FileSystem.concat_freshName_ne sampleFiles "a.go" (by decide) ["tmp", "workingdir"] location
  have hnone : created.entry? ["tmp", "workingdir", "a.go"] = none := by
    rw [hcreated]
    exact FileSystem.entry?_put_of_ne hne _
  have hlocate' : created.locate "a.go" = .ok ["tmp", "workingdir", "a.go"] := by
    rw [hcreated]
    exact FileSystem.locate_put_file (by simp [hfree]) hlocate
  have hfound : FileSystem.find (created.put ["tmp", "workingdir", "a.go"] (.file "other".toUTF8))
      "a.go" = .ok (.file "other".toUTF8) :=
    FileSystem.find_eq_ok.mpr ⟨_, FileSystem.locate_put_file (by simp [hnone]) hlocate',
      FileSystem.entry?_put_self (by simp) _⟩
  obtain ⟨fault, hmove, hreason⟩ := @FileSystem.move_of_find _ _ (location ++ [sampleFiles.freshName])
    _ hfound
  have hsource : FileSystem.entry?
      (created.put ["tmp", "workingdir", "a.go"] (.file "other".toUTF8))
      (location ++ [sampleFiles.freshName]) = some (.file code.toUTF8) := by
    rw [FileSystem.entry?_put_of_ne (Ne.symm hne), hcreated, FileSystem.entry?_put_self (by simp)]
  rw [hsource] at hreason
  obtain rfl : fault = .alreadyExists := hreason.resolve_right (Option.some_ne_none _)
  obtain ⟨turns, hruns, hmem⟩ := runs_writeText_refused hcreate hmove rfl
  exact ⟨_, _, turns, _, hruns, hfound, hmem⟩

theorem keeps_output_of_runs_sampleFiles : ∃ turns result files',
    (runCommand sampleArguments : Program (List String) CommandFault String).Runs sampleFiles turns
      result files' ∧
    sampleFiles.isThere "a.go" = false ∧
    (∃ fresh before, ⟨.persist fresh "a.go" false, before, .error .alreadyExists, before⟩ ∈ turns ∧
      before.find "a.go" = .ok (.file "other".toUTF8)) ∧
    result = .error (.outputExists "a.go") ∧ ∀ lines, (exitOf lines result).code = 1 := by
  obtain ⟨code, hcode⟩ := generate_sampleText "a.wxg" sampleArguments.options 0
  obtain ⟨fresh, before, writing, files', hwrite, hfound, hmem⟩ := runs_writeText_sampleFiles code
  have hinput : sampleFiles.isFile "a.wxg" = true := by decide +kernel
  have houtput : sampleFiles.isThere "a.go" = false := by decide +kernel
  have hruns := @runs_runCommand_of_convertFile _ _ _ sampleArguments _ _ rfl rfl hinput houtput
    (runs_convertFile_of_writeText read_sampleFiles (fromUTF8?_eq_some.mpr rfl) hcode hwrite)
  obtain ⟨-, -, hpersist, -⟩ := keeps_output_of_runs rfl rfl hruns
  have hturn := List.mem_append_right [.answered (.isFile "a.wxg") 0 sampleFiles,
    .answered (.isThere "a.go") 0 sampleFiles, .answered (.read "a.wxg") 0 sampleFiles,
    .answered .now 0 sampleFiles] hmem
  obtain ⟨-, -, hkept, hexists⟩ := hpersist _ _ _ _ _ _ hturn
  exact ⟨_, _, files', hruns, houtput, ⟨fresh, before, hturn, hfound⟩, hexists rfl,
    (hkept _ hfound).2⟩

end GladeGo.CommandLine
