import GladeGo.Proofs.CommandLine.Arguments
import GladeGo.Proofs.CommandLine.Race
import GladeGo.Proofs.Conversion.Detail

/-! # Showing plans and writing files

A run that shows the plans of a document and one that writes its Go file read the document in the
same way. They come to the same plans or to the same fault (`planned`), and only then part ways. So
a document whose plans are shown is one that can be converted, to any fresh output beside which a
temporary file can be made and from there moved to it, and the file holds the code for the plans
shown (`dump_agrees`). -/

namespace GladeGo

variable {time : Int} {files : FileSystem} {input path text : String}
  {place : FileSystem.Place}

/-! ### Plans -/

/-- The plans of the windows of the document in a file, if it is read and resolved. -/
def FileSystem.plansOf (files : FileSystem) (input : String) :
    Except ConversionFailure (List WindowPlan) := do
  let text ← files.textOf input
  (planWindows text).result

theorem plansOf_eq_ok {plans : List WindowPlan} : files.plansOf input = .ok plans ↔
    ∃ text, files.read input = .ok text.toUTF8 ∧ (planWindows text).result = .ok plans := by
  rw [FileSystem.plansOf, bind_eq_ok]
  exact exists_congr fun text => and_congr_left fun _ => FileSystem.textOf_eq_ok

/-- The code for the document in a file is that of its plans. -/
theorem codeOf_eq_map (options : ConversionOptions) : files.codeOf input options time =
    (files.plansOf input).map (Go.sourceFile options.toFileOptions
      ⟨options.tool, FilePath.fileName input, time⟩) := by
  rw [FileSystem.codeOf, FileSystem.plansOf]
  cases files.textOf input with
  | error fault => rfl
  | ok text =>
    rw [ok_bind, ok_bind, generate, Logged.result_bind]
    cases (planWindows text).result <;> rfl

namespace CommandLine

variable {arguments : Arguments} {output : String} {setting : Option String}

/-! ### Results of runs -/

/-- The plans that a run comes to, or the fault that keeps it from them. -/
def planned (files : FileSystem) (input : String) : Except CommandFault (List WindowPlan) :=
  if files.isFile input then (files.plansOf input).mapError .ofFailure
  else .error (.inputNotFound input)

theorem plansOf_of_planned {plans : List WindowPlan} (h : planned files input = .ok plans) :
    files.plansOf input = .ok plans := by
  rw [planned] at h
  split at h
  · exact mapError_eq_ok.mp h
  · cases h

/-- The text that shows plans. -/
def shownText (plans : List WindowPlan) : String := dumpPlans plans ++ "\n"

/-- The code that a run writes for plans. -/
def writtenCode (arguments : Arguments) (time : Int) (plans : List WindowPlan) : String :=
  Go.sourceFile arguments.options.toFileOptions
    ⟨arguments.options.tool, FilePath.fileName arguments.input, time⟩ plans

theorem run_showPlans (input : String) : ∃ records,
    (showPlans input : Program (List String) CommandFault String).run time files =
      ⟨records, ((files.plansOf input).mapError .ofFailure).map shownText, files⟩ := by
  rw [showPlans, run_mapFault, Program.run_bind, run_readText, FileSystem.plansOf]
  cases files.textOf input with
  | error fault => exact ⟨_, rfl⟩
  | ok text =>
    rw [andThen_of_ok rfl, Program.run_bind, run_ofLogged, ok_bind]
    cases hplans : (planWindows text).result with
    | error fault =>
      rw [andThen_of_error rfl]
      exact ⟨_, rfl⟩
    | ok plans =>
      rw [andThen_of_ok rfl]
      exact ⟨_, rfl⟩

theorem run_without_input (hinput : files.isFile arguments.input = false) : ∃ records,
    (runCommand arguments : Program (List String) CommandFault String).run time files =
      ⟨records, .error (.inputNotFound arguments.input), files⟩ := by
  rw [runCommand, run_record_bind, run_request_bind, perform_isFile, hinput]
  exact ⟨_, rfl⟩

/-- **A run that shows plans** changes no file. -/
theorem run_dump (htask : arguments.task = .dump) : ∃ records,
    (runCommand arguments : Program (List String) CommandFault String).run time files =
      ⟨records, (planned files arguments.input).map shownText, files⟩ := by
  rw [planned]
  cases hinput : files.isFile arguments.input with
  | false => exact run_without_input hinput
  | true =>
    obtain ⟨records, hshown⟩ := @run_showPlans time files arguments.input
    rw [runCommand, run_record_bind, run_request_bind, perform_isFile, hinput, if_pos rfl,
      if_pos rfl, htask]
    dsimp only
    rw [hshown]
    exact ⟨_, rfl⟩

/-- A run that writes a file converts its input if the output is not there. -/
theorem run_conversion (htask : arguments.task = .write output)
    (hinput : files.isFile arguments.input = true) (houtput : files.isThere output = false)
    {converted : Outcome ConversionFailure Unit}
    (hconverted : (convertFile arguments.input output arguments.options arguments.force :
      Program (List String) ConversionFailure Unit).run time files = converted) : ∃ records,
    (runCommand arguments : Program (List String) CommandFault String).run time files =
      ⟨records, (converted.result.mapError .ofFailure).map fun _ => "", converted.files⟩ := by
  rw [runCommand, run_record_bind, run_request_bind, perform_isFile, hinput, if_pos rfl, htask]
  dsimp only
  rw [Program.run_bind, writeFile, run_request_bind, perform_isThere, houtput, Bool.false_and,
    if_neg Bool.false_ne_true, run_record_bind, run_mapFault, hconverted]
  cases hresult : converted.result with
  | error failure =>
    rw [andThen_of_error rfl]
    exact ⟨_, rfl⟩
  | ok value =>
    rw [andThen_of_ok rfl]
    exact ⟨_, rfl⟩

/-- **A run that writes a fresh output** fails where a run that shows plans does, with the same
fault. -/
theorem run_write_error (htask : arguments.task = .write output)
    (houtput : files.isThere output = false) {fault : CommandFault}
    (hplanned : planned files arguments.input = .error fault) : ∃ records,
    (runCommand arguments : Program (List String) CommandFault String).run time files =
      ⟨records, .error fault, files⟩ := by
  rw [planned] at hplanned
  split at hplanned
  · rename_i hinput
    obtain ⟨failure, hplans, rfl⟩ := mapError_eq_error.mp hplanned
    have hcode : files.codeOf arguments.input arguments.options time = .error failure := by
      rw [codeOf_eq_map, hplans]
      rfl
    obtain ⟨records, hconverted⟩ :=
      @run_convertFile_error _ _ _ output _ arguments.force _ hcode
    exact run_conversion htask hinput houtput hconverted
  · rename_i hinput
    obtain rfl := Except.error.inj hplanned
    exact run_without_input (Bool.eq_false_iff.mpr hinput)

/-- A run that writes a fresh output and comes to plans writes their code. -/
theorem run_write_ok (htask : arguments.task = .write output)
    (houtput : files.isThere output = false) {plans : List WindowPlan}
    (hplanned : planned files arguments.input = .ok plans)
    {written : Outcome ConversionFailure Unit}
    (hwritten : (writeText output (writtenCode arguments time plans) arguments.force :
      Program (List String) ConversionFailure Unit).run time files = written) : ∃ records,
    (runCommand arguments : Program (List String) CommandFault String).run time files =
      ⟨records, (written.result.mapError .ofFailure).map fun _ => "", written.files⟩ := by
  have hinput : files.isFile arguments.input = true := by
    by_contra hinput
    rw [planned, if_neg hinput] at hplanned
    cases hplanned
  have hcode : files.codeOf arguments.input arguments.options time =
      .ok (writtenCode arguments time plans) := by
    rw [codeOf_eq_map, plansOf_of_planned hplanned]
    rfl
  obtain ⟨_, hconverted⟩ := run_convertFile_ok hcode hwritten
  obtain ⟨records, hrun⟩ := run_conversion htask hinput houtput hconverted
  exact ⟨records, hrun⟩

/-! ### What a run shows -/

theorem logsDetails_runCommand {τ : Type} (arguments : Arguments) :
    (runCommand arguments : Program τ CommandFault String).LogsDetails := by
  refine (Program.logsDetails_record (by decide) _ _).bind fun _ => ?_
  refine (Program.logsDetails_request _).bind fun isFile => ?_
  split
  · split
    · refine Program.LogsDetails.mapFault ?_ _
      refine (logsDetails_readText arguments.input).bind fun text => ?_
      exact (Program.logsDetails_ofLogged (logsDetails_planWindows text)).bind fun plans => trivial
    · rename_i output htask
      refine Program.LogsDetails.bind ?_ fun _ => trivial
      refine (Program.logsDetails_request _).bind fun isThere => ?_
      split
      · exact trivial
      · refine (Program.logsDetails_record (by decide) _ _).bind fun _ => ?_
        exact (logsDetails_convertFile _ _ _ _).mapFault _
  · exact trivial

/-- Warnings and errors are all that is shown by default. -/
theorem not_shows_of_isDetail {record : Record} (h : record.IsDetail) :
    (LogFilter.upTo .warn).shows record = false := by
  have hdirective : (LogFilter.upTo .warn).directiveFor record.topic = some ⟨none, some .warn⟩ :=
    rfl
  rw [LogFilter.shows, hdirective]
  simp only [Option.bind_some, Option.any_some, Bool.and_eq_false_iff, decide_eq_false_iff_not]
  exact .inl (Nat.not_le.mpr h)

/-- **How a process ends**, from how its run ends. By default it logs nothing. -/
theorem runOn_eq {records : List Record} {result : Except CommandFault String}
    {files' : FileSystem} (h : (runCommand arguments :
      Program (List String) CommandFault String).run time files = ⟨records, result, files'⟩)
    (setting : Option String) : ∃ lines,
      runOn time setting files arguments = (exitOf lines result, files') ∧
        (setting = none → arguments.verbosity = 0 → lines = []) := by
  rw [runOn, h]
  refine ⟨_, rfl, fun hsetting hverbosity => ?_⟩
  have hdetails := (logsDetails_runCommand arguments).records_run time files
  rw [h] at hdetails
  rw [hsetting, hverbosity]
  have hnone : records.filter (LogFilter.upTo .warn).shows = [] :=
    List.filter_eq_nil_iff.mpr fun record hrecord =>
      Bool.eq_false_iff.mp (not_shows_of_isDetail (hdetails record hrecord))
  simp only [levelOfVerbosity, hnone, List.map_nil, List.append_nil]

/-! ### Agreement -/

theorem code_exitOf_eq_zero_iff {lines : List String} {result : Except CommandFault String} :
    (exitOf lines result).code = 0 ↔ ∃ text, result = .ok text := by
  cases result <;> simp [exitOf]

theorem code_dump_eq_zero_iff (htask : arguments.task = .dump) :
    (runOn time setting files arguments).1.code = 0 ↔
      ∃ plans, planned files arguments.input = .ok plans := by
  obtain ⟨records, hrun⟩ := @run_dump time files arguments htask
  obtain ⟨lines, hexit, -⟩ := runOn_eq hrun setting
  rw [hexit, code_exitOf_eq_zero_iff]
  cases planned files arguments.input <;> simp [Except.map]

theorem code_write_eq_zero_iff (htask : arguments.task = .write output)
    (houtput : files.isThere output = false) {plans : List WindowPlan}
    (hplanned : planned files arguments.input = .ok plans) :
    (runOn time setting files arguments).1.code = 0 ↔
      files.TakesFile output (writtenCode arguments time plans).toUTF8 arguments.force := by
  obtain ⟨records, hrun⟩ := run_write_ok htask houtput hplanned rfl
  obtain ⟨lines, hexit, -⟩ := runOn_eq hrun setting
  rw [hexit, code_exitOf_eq_zero_iff, ← @result_writeText_eq_ok_iff time]
  cases ((writeText output (writtenCode arguments time plans) arguments.force :
    Program (List String) ConversionFailure Unit).run time files).result <;>
    simp [Except.map, Except.mapError]

/-- A run that succeeds leaves the code for the plans at its output. -/
theorem isWritten_of_run (htask : arguments.task = .write output)
    (houtput : files.isThere output = false) {plans : List WindowPlan}
    (hplanned : planned files arguments.input = .ok plans)
    (hcode : (runOn time setting files arguments).1.code = 0) : ∃ target,
    IsWritten output (writtenCode arguments time plans).toUTF8 target files
      (runOn time setting files arguments).2 := by
  have hok := (@result_writeText_eq_ok_iff time _ _ _ _).mpr
    ((code_write_eq_zero_iff htask houtput hplanned).mp hcode)
  generalize hwritten : (writeText output (writtenCode arguments time plans) arguments.force :
    Program (List String) ConversionFailure Unit).run time files = written at hok
  obtain ⟨records, hrun⟩ := run_write_ok htask houtput hplanned hwritten
  obtain ⟨lines, hexit, -⟩ := runOn_eq hrun setting
  rcases run_writeText_cases hwritten with ⟨⟨failure, hfailure⟩, -⟩ | ⟨-, target, htarget, -⟩
  · cases hok.symm.trans hfailure
  · rw [hexit]
    exact ⟨target, htarget⟩

/-- **Showing plans and writing files agree.** A run that is given `--dump-units` changes no file.
If it fails, then a run that writes a fresh output for the same input fails as well and reports the
same fault, which is all that the two show if neither the arguments nor the setting `RUST_LOG` of the
environment ask for more. If it succeeds, then the other run succeeds exactly if its temporary file
can be made in the directory of the output and moved to it; and the output is then the code for the
plans that are shown, with the run's own options, and every other entry is what it was.

A file system here has no access restrictions and no limits of room. What it refuses, it refuses for
the names and paths and for what stands at them. -/
theorem dump_agrees {line : List String} {shown : Arguments}
    (hline : readInvocation line = .ok (.run shown)) (hdump : "--dump-units" ∈ line)
    (htask : arguments.task = .write output) (hinput : arguments.input = shown.input)
    (time time' : Int) (setting : Option String) (files : FileSystem) :
    (runOn time setting files shown).2 = files ∧
    ∀ place, files.IsFresh output place →
      ((runOn time setting files shown).1.code ≠ 0 →
        (runOn time' setting files arguments).1.code ≠ 0 ∧ ∃ fault lines lines',
        (runOn time setting files shown).1.standardError =
          String.join lines ++ faultLine fault ∧
        (runOn time' setting files arguments).1.standardError =
          String.join lines' ++ faultLine fault ∧
        (setting = none → shown.verbosity = 0 → lines = []) ∧
        (setting = none → arguments.verbosity = 0 → lines' = [])) ∧
      ((runOn time setting files shown).1.code = 0 → ∃ text plans,
        files.read arguments.input = .ok text.toUTF8 ∧
        (planWindows text).result = .ok plans ∧
        (runOn time setting files shown).1.standardOutput = dumpPlans plans ++ "\n" ∧
        ((runOn time' setting files arguments).1.code = 0 ↔
          files.TakesFile output (writtenCode arguments time' plans).toUTF8 arguments.force) ∧
        ((runOn time' setting files arguments).1.code = 0 → ∃ target,
          IsWritten output (writtenCode arguments time' plans).toUTF8 target files
            (runOn time' setting files arguments).2)) := by
  have hshown := task_of_dumpUnits hline hdump
  obtain ⟨records, hrun⟩ := @run_dump time files shown hshown
  obtain ⟨lines, hexit, hlines⟩ := runOn_eq hrun setting
  refine ⟨congrArg Prod.snd hexit, fun place hfresh => ?_⟩
  cases hplanned : planned files shown.input with
  | error fault =>
    refine ⟨fun _ => ?_, fun hcode => ?_⟩
    · obtain ⟨records', hrun'⟩ :=
        @run_write_error time' _ _ _ htask hfresh.not_isThere _ (hinput ▸ hplanned)
      obtain ⟨lines', hexit', hlines'⟩ := runOn_eq hrun' setting
      rw [hexit, hexit', hplanned]
      exact ⟨Nat.one_ne_zero, fault, lines, lines', rfl, rfl, hlines, hlines'⟩
    · obtain ⟨plans, hok⟩ := (code_dump_eq_zero_iff hshown).mp hcode
      cases hplanned.symm.trans hok
  | ok plans =>
    have hwriting : planned files arguments.input = .ok plans := hinput ▸ hplanned
    refine ⟨fun hcode => ?_, fun _ => ?_⟩
    · exact absurd ((code_dump_eq_zero_iff hshown).mpr ⟨plans, hplanned⟩) hcode
    · obtain ⟨text, hread, hresult⟩ := plansOf_eq_ok.mp (plansOf_of_planned hwriting)
      refine ⟨text, plans, hread, hresult, ?_,
        code_write_eq_zero_iff htask hfresh.not_isThere hwriting,
        isWritten_of_run htask hfresh.not_isThere hwriting⟩
      rw [hexit, hplanned]
      rfl

/-- The plans of the sample are to be shown, and an output is named as well. -/
def dumpLine (input : String) : List String :=
  ["--in", input, "--out", "a.go", "--force", "--dump-units"]

/-- The arguments of such a run. -/
def dumpArguments (input : String) : Arguments :=
  ⟨input, .dump, true, "main", Go.FileOptions.standard.wxImport, 0⟩

theorem readInvocation_dumpLine {input : String} (hlooks : looksLikeOption input = false)
    (hempty : input ≠ "") :
    readInvocation (dumpLine input) = .ok (.run (dumpArguments input)) := by
  have houtput : looksLikeOption "a.go" = false := by decide
  have hread : readArguments ⟨[], []⟩ (dumpLine input) =
      .ok ⟨[(.output, "a.go"), (.input, input)], [.dumpUnits, .force]⟩ := by
    simp [dumpLine, readArguments, valueOption?, flag?, ValueOption.name, Flag.name, hlooks,
      houtput, Given.addValue, Given.addFlag, ValueOption.isPath, hempty, ok_bind]
  rw [readInvocation, hread]
  rfl

theorem planned_sampleFiles : ∃ plans, planned sampleFiles "a.wxg" = .ok plans := by
  obtain ⟨code, hcode⟩ := generate_sampleText "a.wxg" .standard 0
  rw [generate, Logged.result_bind] at hcode
  obtain ⟨plans, hplans, -⟩ := bind_eq_ok.mp hcode
  refine ⟨plans, ?_⟩
  rw [planned, if_pos (by decide +kernel),
    plansOf_eq_ok.mpr ⟨sampleText, read_sampleFiles, hplans⟩]
  rfl

theorem not_planned_sampleFiles (plans : List WindowPlan) :
    planned sampleFiles "a/b/c" ≠ .ok plans := by
  intro hplanned
  obtain ⟨text, hread, hplans⟩ := plansOf_eq_ok.mp (plansOf_of_planned hplanned)
  have hlocate : sampleFiles.locate "a/b/c" = .ok ["tmp", "workingdir", "a", "b", "c"] :=
    eq_ok_of_toOption (by decide +kernel)
  have hfind : sampleFiles.find "a/b/c" = .ok (.file "keep".toUTF8) :=
    FileSystem.find_eq_ok.mpr ⟨_, hlocate, rfl⟩
  have hkeep : sampleFiles.read "a/b/c" = .ok "keep".toUTF8 := by
    rw [FileSystem.read, hfind, ok_bind]
  have htext := Except.ok.inj (hread.symm.trans hkeep)
  obtain rfl : text = "keep" := Option.some.inj
    ((fromUTF8?_eq_some.mpr rfl).symm.trans (fromUTF8?_eq_some.mpr htext))
  have hfails : (planWindows "keep").result.toOption = none := by decide +kernel
  rw [hplans] at hfails
  cases hfails

theorem dump_agrees_sampleFiles :
    (runOn 0 none sampleFiles (dumpArguments "a.wxg")).2 = sampleFiles ∧
    (runOn 1 none sampleFiles sampleArguments).1.code = 0 ∧
    (∃ text plans target, sampleFiles.read "a.wxg" = .ok text.toUTF8 ∧
      (planWindows text).result = .ok plans ∧
      (runOn 0 none sampleFiles (dumpArguments "a.wxg")).1.standardOutput =
        dumpPlans plans ++ "\n" ∧
      IsWritten "a.go" (Go.sourceFile ⟨"main", "wx"⟩ ⟨"wxg-to-go", "a.wxg", 1⟩ plans).toUTF8 target
        sampleFiles (runOn 1 none sampleFiles sampleArguments).2) ∧
    ∃ fault,
      (runOn 0 none sampleFiles (dumpArguments "a/b/c")).1.standardError = faultLine fault ∧
      (runOn 1 none sampleFiles { sampleArguments with input := "a/b/c" }).1.standardError =
        faultLine fault := by
  obtain ⟨hfiles, hplace⟩ := @dump_agrees sampleArguments "a.go" _ (dumpArguments "a.wxg")
    (readInvocation_dumpLine (by decide) (by decide)) (by decide) rfl rfl 0 1 none sampleFiles
  obtain ⟨-, hsucceeds⟩ := hplace _ isFresh_sampleFiles
  obtain ⟨text, plans, hread, hplans, hshown, hcode, hwritten⟩ :=
    hsucceeds ((code_dump_eq_zero_iff rfl).mpr planned_sampleFiles)
  have hzero := hcode.mpr (takesFile_sampleFiles _ _)
  obtain ⟨target, htarget⟩ := hwritten hzero
  obtain ⟨-, hplace'⟩ := @dump_agrees { sampleArguments with input := "a/b/c" } "a.go" _
    (dumpArguments "a/b/c") (readInvocation_dumpLine (by decide) (by decide)) (by decide) rfl rfl 0 1
    none sampleFiles
  obtain ⟨hfails, -⟩ := hplace' _ isFresh_sampleFiles
  have hnonzero : (runOn 0 none sampleFiles (dumpArguments "a/b/c")).1.code ≠ 0 := by
    rw [Ne, code_dump_eq_zero_iff rfl]
    exact fun ⟨plans, hplans⟩ => not_planned_sampleFiles plans hplans
  obtain ⟨-, fault, lines, lines', hshown', hwriting, hlines, hlines'⟩ := hfails hnonzero
  rw [hlines rfl rfl] at hshown'
  rw [hlines' rfl rfl] at hwriting
  have hname : FilePath.fileName "a.wxg" = "a.wxg" := by decide +kernel
  rw [writtenCode, show sampleArguments.input = "a.wxg" from rfl, hname] at htarget
  exact ⟨hfiles, hzero, ⟨text, plans, target, hread, hplans, hshown, htarget⟩, fault, hshown',
    hwriting⟩

/-! A fresh output that the operating system does not admit. -/

/-- The name of a file with one byte too many. -/
def longName : String := String.ofList (List.replicate 256 'y')

theorem toList_longName : longName.toList = List.replicate 256 'y' := String.toList_ofList

theorem size_replicate (n : Nat) : (String.ofList (List.replicate n 'y')).utf8ByteSize = n := by
  rw [String.utf8ByteSize_ofList]
  induction n with
  | zero => rfl
  | succ n ih =>
    have hletter : 'y'.utf8Size = 1 := by decide
    rw [List.replicate_succ, String.utf8Len_cons, ih, hletter]

theorem size_longName : longName.utf8ByteSize = 256 := size_replicate 256

theorem longName_ne {name : String} (h : name.utf8ByteSize < 256) : longName ≠ name := by
  rintro rfl
  rw [size_longName] at h
  omega

theorem isFresh_longName : sampleFiles.IsFresh longName ⟨["tmp", "workingdir"], longName⟩ where
  leads := by
    have hmem : ∀ c ∈ longName.toList, c = 'y' := by
      rw [toList_longName]
      exact fun c hc => List.eq_of_mem_replicate hc
    have hpieces : FilePath.pieces longName = [longName] :=
      FilePath.pieces_of_name fun hslash => absurd (hmem _ hslash) (by decide)
    have hcheck : FileSystem.checkPath longName = .ok () :=
      FileSystem.checkPath_eq_ok.mpr ⟨fun hzero => absurd (hmem _ hzero) (by decide),
        longName_ne (by decide), by rw [size_longName]; decide⟩
    have habsolute : FilePath.isAbsolute longName = false := by
      rw [FilePath.isAbsolute, toList_longName]
      rfl
    refine FileSystem.place?_eq_some_iff.mpr
      ⟨hcheck, [], ?_, ?_, rfl, longName_ne (by decide), longName_ne (by decide)⟩
    · rw [FilePath.steps, hpieces]
      simp [longName_ne (by decide : "".utf8ByteSize < 256)]
    · rw [FileSystem.start, habsolute]
      rfl
  free := by
    have hshort : ∀ entry ∈ sampleFiles.entries, ∀ name ∈ entry.1, name.utf8ByteSize < 256 := by
      decide
    refine FileSystem.entry?_eq_none (by simp) fun entry hentry hlocation => ?_
    exact longName_ne (hshort entry hentry longName (by simp [hlocation])) rfl

/-- The path of a new file whose temporary file would have a path with too many bytes. -/
def farName : String := farDirectory ++ "/" ++ "d"

theorem isFresh_slash : sampleFiles.IsFresh "new/" ⟨["tmp", "workingdir"], "new"⟩ where
  leads := FileSystem.place?_eq_some_iff.mpr
    ⟨by decide, [], by decide, rfl, rfl, by decide, by decide⟩
  free := rfl

theorem isFresh_farName :
    sampleFiles.IsFresh farName ⟨["tmp", "workingdir", "a", "b"], "d"⟩ where
  leads := by
    have hlast : FilePath.steps "d" = ["d"] := by decide
    refine FileSystem.place?_eq_some_iff.mpr ⟨checkPath_far (by decide) (by decide),
      "a" :: (List.replicate 2043 "." ++ ["b"]), ?_, ?_, rfl, by decide, by decide⟩
    · rw [farName, steps_far, hlast, List.cons_append, List.append_assoc, List.singleton_append]
    · rw [farName, start_far]
      exact locateFrom_far (eq_ok_of_toOption (by decide +kernel))
  free := rfl

/-- The plans are shown, and there are fresh outputs to which the code is not written: those with a
long name, with a slash at the end and with a temporary file whose path is too long. -/
theorem dump_without_output :
    (runOn 0 none sampleFiles (dumpArguments "a.wxg")).1.code = 0 ∧
    ∀ output ∈ [longName, "new/", farName], (∃ place, sampleFiles.IsFresh output place) ∧
      (runOn 0 none sampleFiles { sampleArguments with task := .write output }).1.code ≠ 0 := by
  refine ⟨(code_dump_eq_zero_iff rfl).mpr planned_sampleFiles, ?_⟩
  obtain ⟨plans, hplanned⟩ := planned_sampleFiles
  have hcode : ∀ {output place}, sampleFiles.IsFresh output place →
      ¬ sampleFiles.Admits output place →
      (runOn 0 none sampleFiles { sampleArguments with task := .write output }).1.code ≠ 0 := by
    intro output place hfresh hadmits hzero
    have htakes := (@code_write_eq_zero_iff 0 sampleFiles
      { sampleArguments with task := .write output } output none rfl hfresh.not_isThere plans
      hplanned).mp hzero
    exact hadmits (hfresh.takesFile_iff.mp htakes)
  simp only [List.forall_mem_cons]
  refine ⟨⟨⟨_, isFresh_longName⟩, hcode isFresh_longName fun h => ?_⟩,
    ⟨⟨_, isFresh_slash⟩, hcode isFresh_slash fun h => ?_⟩,
    ⟨⟨_, isFresh_farName⟩, hcode isFresh_farName fun h => ?_⟩, ?_⟩
  · exact absurd (size_longName ▸ h.name) (by decide)
  · exact absurd h.noSlash (by decide)
  · obtain ⟨_, _, _, hcreate, -⟩ :=
      (@FileSystem.IsFresh.takesFile_iff _ _ _ ByteArray.empty false isFresh_farName).mpr h
    have hdirectory : FilePath.directory farName = farDirectory :=
      FilePath.directory_append pieces_farDirectory (by decide) (by decide) (by decide)
    rw [hdirectory, createFresh_farDirectory] at hcreate
    cases hcreate
  · exact List.forall_mem_nil _

end CommandLine
end GladeGo
