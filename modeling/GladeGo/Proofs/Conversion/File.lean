import GladeGo.Conversion.File
import GladeGo.Proofs.Files.Fresh
import GladeGo.Proofs.Files.Program
import GladeGo.Proofs.Window.Resolution

/-! # A conversion is all or nothing

A conversion that fails leaves the files as they were, and one that succeeds puts the code at the
end of the output's path and changes nothing else (`convertFile_allOrNothing`). -/

namespace GladeGo

open FilePath (temporaryName)

variable {time : Int} {files files' : FileSystem} {input output path text : String}
  {options : ConversionOptions} {replace : Bool}

theorem fromUTF8?_eq_some {content : ByteArray} :
    String.fromUTF8? content = some text ↔ content = text.toUTF8 := by
  unfold String.fromUTF8?
  split
  · rename_i h
    exact ⟨fun h' => by rw [← Option.some.inj h']; rfl, fun h' => by subst h'; rfl⟩
  · rename_i h
    exact ⟨fun h' => (nomatch h'), fun h' => absurd (h' ▸ text.isValidUTF8) h⟩

/-! ### Reading -/

/-- The text in a file. -/
def FileSystem.textOf (files : FileSystem) (path : String) : Except ConversionFailure String :=
  match files.read path with
  | .error fault => .error (.file fault)
  | .ok content =>
    match String.fromUTF8? content with
    | some text => .ok text
    | none => .error (.file .invalidText)

theorem FileSystem.textOf_eq_ok : files.textOf path = .ok text ↔
    files.read path = .ok text.toUTF8 := by
  unfold FileSystem.textOf
  cases hread : files.read path with
  | error fault => simp
  | ok content =>
    rw [Except.ok.injEq, ← fromUTF8?_eq_some]
    cases hdecode : String.fromUTF8? content <;> simp [hdecode]

theorem run_readText : (readText path : Program (List String) ConversionFailure String).run time
    files = ⟨[], files.textOf path, files⟩ := by
  refine (run_request_bind (.read path) _).trans ?_
  rw [perform_read]
  unfold FileSystem.textOf
  cases files.read path with
  | error fault => rfl
  | ok content =>
    dsimp only
    cases String.fromUTF8? content with
    | none => rfl
    | some text => rfl

/-- The Go code for the document in a file, if it is read and converted. -/
def FileSystem.codeOf (files : FileSystem) (input : String) (options : ConversionOptions)
    (time : Int) : Except ConversionFailure String := do
  let text ← files.textOf input
  (generate text (FilePath.fileName input) options time).result

/-! ### Writing -/

/-- A file at `target` with the given content is what one file system has more than another. -/
structure IsWritten (path : String) (content : ByteArray) (target : List String)
    (files files' : FileSystem) : Prop where
  locate : files.locate path = .ok target
  read : files'.read path = .ok content
  /-- Every other entry is what it was. -/
  others : ∀ other, other ≠ target → files'.entry? other = files.entry? other
  /-- Every path leads where it led. -/
  leads : ∀ path location, files.locate path = .ok location → files'.locate path = .ok location
  workingDirectory : files'.workingDirectory = files.workingDirectory

theorem isWritten_put {content : ByteArray} {target : List String} (htarget : target ≠ [])
    (hentry : files.entry? target ≠ some .directory) (hlocate : files.locate path = .ok target) :
    IsWritten path content target files (files.put target (.file content)) where
  locate := hlocate
  read := by
    have hfind : (files.put target (.file content)).find path = .ok (.file content) :=
      FileSystem.find_eq_ok.mpr ⟨target, FileSystem.locate_put_file hentry hlocate,
        FileSystem.entry?_put_self htarget _⟩
    rw [FileSystem.read, hfind, ok_bind]
  others other hother := FileSystem.entry?_put_of_ne hother _
  leads path location h := FileSystem.locate_put_file hentry h
  workingDirectory := rfl

theorem run_writeText (path text : String) (replace : Bool) :
    (writeText path text replace : Program (List String) ConversionFailure Unit).run time files =
      match files.createFresh (FilePath.directory path) text.toUTF8 with
      | .error fault => ⟨[], .error (.file fault), files⟩
      | .ok (fresh, files) =>
        match files.move fresh path replace with
        | .ok files => ⟨[], .ok (), files⟩
        | .error fault =>
          ⟨[], .error (if fault = .alreadyExists then .outputExists path else .file fault),
            files.erase fresh⟩ := by
  refine (run_request_bind (.createTemporary _ _) _).trans ?_
  cases hcreate : files.createFresh (FilePath.directory path) text.toUTF8 with
  | error fault =>
    rw [perform_createTemporary_error hcreate]
    rfl
  | ok created =>
    obtain ⟨fresh, files'⟩ := created
    rw [perform_createTemporary_ok hcreate]
    refine (run_request_bind (.persist _ _ _) _).trans ?_
    dsimp only
    cases hmove : files'.move fresh path replace with
    | ok files'' =>
      rw [perform_persist_ok hmove]
      rfl
    | error fault =>
      rw [perform_persist_error hmove]
      rfl

/-- **A temporary file that is moved** is written to the end of the path, and a temporary file that
is not moved leaves no trace. -/
theorem isWritten_of_move {directory : String} {content : ByteArray} {fresh : List String}
    (hcreate : files.createFresh directory content = .ok (fresh, files')) :
    files'.erase fresh = files ∧ ∀ files'', files'.move fresh path replace = .ok files'' →
      ∃ target, IsWritten path content target files files'' ∧
        (replace = false → files.entry? target = none) := by
  obtain ⟨location, -, -, rfl, rfl⟩ := FileSystem.createFresh_eq_ok hcreate
  have herase := FileSystem.erase_put (@FileSystem.freshName_free files location) (.file content)
  refine ⟨herase, fun files'' hmove => ?_⟩
  obtain ⟨target, entry, hlocate, ⟨directory, name, rfl, hname⟩, hsource, hnone, hdirectory, rfl⟩ :=
    FileSystem.move_eq_ok hmove
  have hne := @FileSystem.concat_freshName_ne files _ hname directory location
  rw [FileSystem.entry?_put_self (by simp)] at hsource
  rw [FileSystem.entry?_put_of_ne hne] at hnone hdirectory
  rw [herase, ← Option.some.inj hsource]
  exact ⟨_, isWritten_put (by simp) hdirectory
    (FileSystem.locate_of_locate_put_file (by simp) hlocate), hnone⟩

/-- Writing a text fails without a trace, or writes it, over nothing if nothing may be replaced. -/
theorem run_writeText_cases {written : Outcome ConversionFailure Unit}
    (hwritten : (writeText path text replace :
      Program (List String) ConversionFailure Unit).run time files = written) :
    (∃ failure, written.result = .error failure) ∧ written.files = files ∨
      written.result = .ok () ∧ ∃ target, IsWritten path text.toUTF8 target files written.files ∧
        (replace = false → files.entry? target = none) := by
  rw [← hwritten, run_writeText]
  split
  · exact .inl ⟨⟨_, rfl⟩, rfl⟩
  · rename_i fresh files' hcreate
    obtain ⟨herase, hmoved⟩ := isWritten_of_move hcreate
    split
    · rename_i files'' hmove
      exact .inr ⟨rfl, hmoved files'' hmove⟩
    · exact .inl ⟨⟨_, rfl⟩, herase⟩

/-- A temporary file that is refused is all that happens. -/
theorem run_writeText_of_refused {fault : FileFault}
    (h : files.createFresh (FilePath.directory path) text.toUTF8 = .error fault) :
    (writeText path text replace : Program (List String) ConversionFailure Unit).run time files =
      ⟨[], .error (.file fault), files⟩ := by
  rw [run_writeText, h]

/-- A temporary file beside something that may not be replaced is not moved there. -/
theorem run_writeText_of_isThere (hthere : files.isThere path = true)
    {created : List String × FileSystem}
    (hcreate : files.createFresh (FilePath.directory path) text.toUTF8 = .ok created) :
    ((writeText path text false : Program (List String) ConversionFailure Unit).run time
      files).result = .error (.outputExists path) := by
  obtain ⟨entry, hfind⟩ := FileSystem.isThere_iff.mp hthere
  obtain ⟨fresh, files'⟩ := created
  rw [run_writeText, hcreate]
  obtain ⟨location, -, -, rfl, rfl⟩ := FileSystem.createFresh_eq_ok hcreate
  have hnone := FileSystem.entry?_eq_none (by simp) (@FileSystem.freshName_free files location)
  have hfind' := FileSystem.find_put hnone (.file text.toUTF8) hfind
  obtain ⟨fault, hmove, hfault⟩ :=
    @FileSystem.move_of_find _ path (location ++ [files.freshName]) entry hfind'
  rw [FileSystem.entry?_put_self (by simp)] at hfault
  obtain rfl : fault = .alreadyExists := hfault.resolve_right (Option.some_ne_none _)
  dsimp only
  rw [hmove]
  rfl

/-- A text is written exactly if its temporary file is made and moved. -/
theorem result_writeText_eq_ok_iff :
    ((writeText path text replace : Program (List String) ConversionFailure Unit).run time
      files).result = .ok () ↔ files.TakesFile path text.toUTF8 replace := by
  rw [run_writeText, FileSystem.TakesFile]
  cases hcreate : files.createFresh (FilePath.directory path) text.toUTF8 with
  | error fault => simp
  | ok created =>
    obtain ⟨fresh, between⟩ := created
    cases hmove : between.move fresh path replace <;> simp [hmove]

/-! ### Converting -/

theorem run_convertFile_error {failure : ConversionFailure}
    (h : files.codeOf input options time = .error failure) :
    ∃ records, (convertFile input output options replace :
      Program (List String) ConversionFailure Unit).run time files =
        ⟨records, .error failure, files⟩ := by
  unfold FileSystem.codeOf at h
  rw [convertFile, Program.run_bind, run_readText]
  cases htext : files.textOf input with
  | error fault =>
    rw [htext] at h
    obtain rfl : fault = failure := Except.error.inj h
    exact ⟨_, andThen_of_error rfl _⟩
  | ok text =>
    rw [htext, ok_bind] at h
    rw [andThen_of_ok rfl, run_request_bind, Program.run_bind, run_ofLogged, andThen_of_error h]
    exact ⟨_, rfl⟩

theorem run_convertFile_ok {code : String} {written : Outcome ConversionFailure Unit}
    (h : files.codeOf input options time = .ok code)
    (hwritten : (writeText output code replace :
      Program (List String) ConversionFailure Unit).run time files = written) :
    ∃ records, (convertFile input output options replace :
      Program (List String) ConversionFailure Unit).run time files =
        ⟨records, written.result, written.files⟩ := by
  unfold FileSystem.codeOf at h
  obtain ⟨text, htext, hcode⟩ := bind_eq_ok.mp h
  rw [convertFile, Program.run_bind, run_readText, htext, andThen_of_ok rfl, run_request_bind,
    perform_now]
  dsimp only
  rw [Program.run_bind, run_ofLogged, andThen_of_ok hcode, Program.run_bind, hwritten]
  cases hresult : written.result with
  | error failure =>
    rw [andThen_of_error hresult]
    exact ⟨_, rfl⟩
  | ok value =>
    rw [andThen_of_ok hresult]
    exact ⟨_, rfl⟩

theorem codeOf_eq_ok {code : String} : files.codeOf input options time = .ok code ↔
    ∃ text, files.read input = .ok text.toUTF8 ∧
      (generate text (FilePath.fileName input) options time).result = .ok code := by
  rw [FileSystem.codeOf, bind_eq_ok]
  exact exists_congr fun text => and_congr_left fun _ => FileSystem.textOf_eq_ok

/-! ### Short paths and long ones -/

/-- A working directory with the document of `sampleText` in a file, and another file further
down. -/
def sampleFiles : FileSystem where
  workingDirectory := ["tmp", "workingdir"]
  entries := [(["tmp"], .directory), (["tmp", "workingdir"], .directory),
    (["tmp", "workingdir", "a.wxg"], .file sampleText.toUTF8),
    (["tmp", "workingdir", "a"], .directory), (["tmp", "workingdir", "a", "b"], .directory),
    (["tmp", "workingdir", "a", "b", "c"], .file "keep".toUTF8)]

theorem read_sampleFiles : sampleFiles.read "a.wxg" = .ok sampleText.toUTF8 := by
  have hlocate : sampleFiles.locate "a.wxg" = .ok ["tmp", "workingdir", "a.wxg"] :=
    eq_ok_of_toOption (by decide +kernel)
  have hfind : sampleFiles.find "a.wxg" = .ok (.file sampleText.toUTF8) :=
    FileSystem.find_eq_ok.mpr ⟨_, hlocate, rfl⟩
  rw [FileSystem.read, hfind, ok_bind]

theorem isFresh_sampleFiles : sampleFiles.IsFresh "a.go" ⟨["tmp", "workingdir"], "a.go"⟩ where
  leads := FileSystem.place?_eq_some_iff.mpr
    ⟨by decide, [], by decide, rfl, rfl, by decide, by decide⟩
  free := rfl

theorem takesFile_sampleFiles (content : ByteArray) (replace : Bool) :
    sampleFiles.TakesFile "a.go" content replace :=
  isFresh_sampleFiles.takesFile_iff.mpr
    ⟨by decide, by decide, eq_ok_of_toOption (by decide +kernel)⟩

theorem generate_sampleText (sourceName : String) (options : ConversionOptions) (time : Int) :
    ∃ code, (generate sampleText sourceName options time).result = .ok code := by
  have hsome : (resolveDocument .wxgo sampleDocument).result.toOption.isSome = true := by
    decide +kernel
  obtain ⟨plans, hplans⟩ := Option.isSome_iff_exists.mp hsome
  have hwindows : (planWindows sampleText).result = .ok plans := by
    rw [planWindows, Logged.result_bind, Logged.result_liftM, parse_sampleText]
    exact mapError_eq_ok.mpr (eq_ok_of_toOption hplans)
  refine ⟨Go.sourceFile options.toFileOptions ⟨options.tool, sourceName, time⟩ plans, ?_⟩
  rw [generate, Logged.result_bind, hwindows]
  rfl

/-! A path may be short enough while that of a temporary file beside its end is not. -/

/-- A path that stays where it is `n` times before it goes on. -/
def idle : Nat → String → String
  | 0, path => path
  | n + 1, path => "." ++ "/" ++ idle n path

theorem idle_spec (n : Nat) (path : String) :
    FilePath.pieces (idle n path) = List.replicate n "." ++ FilePath.pieces path ∧
    (idle n path).utf8ByteSize = 2 * n + path.utf8ByteSize ∧
    ('\x00' ∉ path.toList → '\x00' ∉ (idle n path).toList) := by
  induction n with
  | zero => exact ⟨rfl, by simp [idle], id⟩
  | succ n ih =>
    obtain ⟨hpieces, hsize, hzero⟩ := ih
    refine ⟨?_, ?_, fun h => ?_⟩
    · rw [idle, FilePath.pieces_append, hpieces, List.replicate_succ, List.cons_append]
      rfl
    · have hprefix : ("." ++ "/" : String).utf8ByteSize = 2 := by decide
      rw [idle, String.utf8ByteSize_append, hprefix, hsize]
      omega
    · rw [idle, String.toList_append, List.mem_append, not_or]
      exact ⟨by decide, hzero h⟩

theorem steps_idle (n : Nat) (path : String) :
    FilePath.steps (idle n path) = List.replicate n "." ++ FilePath.steps path := by
  rw [FilePath.steps, (idle_spec n path).1, List.filter_append, List.filter_replicate_of_pos]
  · rfl
  · decide

/-- The directory of `farOutput`. -/
def farDirectory : String := "a" ++ "/" ++ idle 2043 "b"

/-- A path that leads to a file of `sampleFiles`. -/
def farOutput : String := farDirectory ++ "/" ++ "c"

theorem pieces_farDirectory :
    FilePath.pieces farDirectory = ("a" :: List.replicate 2043 ".") ++ ["b"] := by
  rw [farDirectory, FilePath.pieces_append, (idle_spec 2043 "b").1]
  rfl

theorem size_farDirectory : farDirectory.utf8ByteSize = 4089 := by
  have hfront : ("a" ++ "/" : String).utf8ByteSize = 2 := by decide
  have hlast : ("b" : String).utf8ByteSize = 1 := by decide
  rw [farDirectory, String.utf8ByteSize_append, hfront, (idle_spec 2043 "b").2.1, hlast]

theorem zero_not_mem_farDirectory : '\x00' ∉ farDirectory.toList := by
  rw [farDirectory, String.toList_append, List.mem_append, not_or]
  exact ⟨by decide, (idle_spec 2043 "b").2.2 (by decide)⟩

theorem not_isAbsolute_far (rest : String) : FilePath.isAbsolute (farDirectory ++ rest) = false := by
  rw [FilePath.isAbsolute, farDirectory, String.append_assoc, String.append_assoc,
    String.toList_append, show ("a" : String).toList = ['a'] by decide, List.singleton_append]
  rfl

theorem directory_farOutput : FilePath.directory farOutput = farDirectory :=
  FilePath.directory_append pieces_farDirectory (by decide) (by decide) (by decide)

theorem checkPath_far {name : String} (hzero : '\x00' ∉ name.toList)
    (hname : name.utf8ByteSize ≤ 5) : FileSystem.checkPath (farDirectory ++ "/" ++ name) = .ok () := by
  have hslash : ("/" : String).utf8ByteSize = 1 := by decide
  have hsize : (farDirectory ++ "/" ++ name).utf8ByteSize = 4090 + name.utf8ByteSize := by
    rw [String.utf8ByteSize_append, String.utf8ByteSize_append, size_farDirectory, hslash]
  refine FileSystem.checkPath_eq_ok.mpr ⟨?_, fun h => ?_, ?_⟩
  · simp only [String.toList_append, List.mem_append, not_or]
    exact ⟨⟨zero_not_mem_farDirectory, by decide⟩, hzero⟩
  · rw [h] at hsize
    exact absurd hsize (by rw [String.utf8ByteSize_empty]; omega)
  · rw [hsize, FilePath.maxSize]
    omega

theorem steps_far (name : String) : FilePath.steps (farDirectory ++ "/" ++ name) =
    "a" :: (List.replicate 2043 "." ++ "b" :: FilePath.steps name) := by
  have hfirst : FilePath.steps "a" = ["a"] := by decide
  have hlast : FilePath.steps "b" = ["b"] := by decide
  rw [FilePath.steps_append, farDirectory, FilePath.steps_append, steps_idle, hfirst, hlast,
    List.append_assoc, List.append_assoc, List.singleton_append, List.singleton_append]

theorem start_far (name : String) :
    sampleFiles.start (farDirectory ++ "/" ++ name) = ["tmp", "workingdir"] := by
  rw [FileSystem.start, String.append_assoc, not_isAbsolute_far]
  rfl

theorem locateFrom_far {steps target : List String}
    (h : sampleFiles.locateFrom ["tmp", "workingdir", "a"] steps = .ok target) :
    sampleFiles.locateFrom ["tmp", "workingdir"] ("a" :: (List.replicate 2043 "." ++ steps)) =
      .ok target :=
  FileSystem.locateFrom_cons_eq_ok.mpr ⟨rfl, by decide, FileSystem.locateFrom_dots rfl 2043 h⟩

theorem isThere_farOutput : sampleFiles.isThere farOutput = true := by
  have hpath : FileSystem.checkPath farOutput = .ok () := checkPath_far (by decide) (by decide)
  have hslash : FilePath.endsInSlash farOutput = false :=
    FilePath.not_endsInSlash_append (by decide) (by decide)
  refine FileSystem.isThere_iff.mpr ⟨.file "keep".toUTF8, FileSystem.find_eq_ok.mpr
    ⟨["tmp", "workingdir", "a", "b", "c"], FileSystem.locate_eq_ok.mpr ⟨hpath, ?_⟩, rfl⟩⟩
  rw [hslash, if_neg Bool.false_ne_true, List.append_nil, farOutput, start_far, steps_far]
  exact locateFrom_far (eq_ok_of_toOption (by decide +kernel))

theorem createFresh_farDirectory (content : ByteArray) :
    sampleFiles.createFresh farDirectory content = .error .nameTooLong := by
  have htop : sampleFiles.fromTop farDirectory = "/tmp/workingdir" ++ "/" ++ farDirectory := by
    have habsolute : FilePath.isAbsolute farDirectory = false := by
      rw [← @String.append_empty farDirectory, not_isAbsolute_far]
    have hworking : "/" ++ "/".intercalate sampleFiles.workingDirectory = "/tmp/workingdir" := by
      decide
    rw [FileSystem.fromTop, habsolute, if_neg Bool.false_ne_true, hworking, FilePath.inside,
      if_neg (by decide)]
  obtain ⟨slash, hinside, hslash⟩ :=
    FilePath.exists_inside (sampleFiles.fromTop farDirectory) temporaryName
  have hcheck : FileSystem.checkPath (FilePath.inside (sampleFiles.fromTop farDirectory)
      temporaryName) = .error .nameTooLong := by
    have hfront : ("/tmp/workingdir" ++ "/" : String).utf8ByteSize = 16 := by decide
    have hname : temporaryName.utf8ByteSize = 10 := by decide
    rw [hinside, htop]
    refine FileSystem.checkPath_eq_nameTooLong ?_ ?_
    · simp only [String.toList_append, List.mem_append, not_or]
      refine ⟨⟨⟨⟨by decide, by decide⟩, zero_not_mem_farDirectory⟩, ?_⟩, by decide⟩
      rcases hslash with rfl | rfl <;> decide
    · rw [String.utf8ByteSize_append, String.utf8ByteSize_append, String.utf8ByteSize_append,
        hfront, size_farDirectory, hname, FilePath.maxSize]
      omega
  rw [FileSystem.createFresh, hcheck]
  rfl

/-! ### All or nothing -/

/-- **A conversion is all or nothing.** If it fails, the files are what they were. If it succeeds,
the output holds the code for the document that the input held, every other entry is what it was,
and nothing was at the output if nothing may be replaced. If the document can be converted and a
temporary file with its code is refused in the directory of the output, then the conversion fails
for the reason of the refusal; if the temporary file is made, and something is at the output that
may not be replaced, then it fails for that reason. -/
theorem convertFile_allOrNothing (input output : String) (options : ConversionOptions)
    (replace : Bool) (time : Int) (files : FileSystem) :
    let outcome := (convertFile input output options replace :
      Program (List String) ConversionFailure Unit).run time files
    (∀ failure, outcome.result = .error failure → outcome.files = files) ∧
    (outcome.result = .ok () → ∃ text code target,
      files.read input = .ok text.toUTF8 ∧
      (generate text (FilePath.fileName input) options time).result = .ok code ∧
      IsWritten output code.toUTF8 target files outcome.files ∧
      (replace = false → files.isThere output = false)) ∧
    (∀ text code, files.read input = .ok text.toUTF8 →
      (generate text (FilePath.fileName input) options time).result = .ok code →
      (∀ fault, files.createFresh (FilePath.directory output) code.toUTF8 = .error fault →
        outcome.result = .error (.file fault)) ∧
      (∀ created, files.createFresh (FilePath.directory output) code.toUTF8 = .ok created →
        replace = false → files.isThere output = true →
        outcome.result = .error (.outputExists output))) := by
  intro outcome
  cases hcode : files.codeOf input options time with
  | error failure =>
    obtain ⟨records, hrun⟩ := @run_convertFile_error time files input output options replace _ hcode
    rw [show outcome = _ from hrun]
    refine ⟨fun _ _ => rfl, fun hok => (nomatch hok), fun text code hread hgenerate => ?_⟩
    exact absurd (hcode.symm.trans (codeOf_eq_ok.mpr ⟨text, hread, hgenerate⟩)) (by simp)
  | ok code =>
    obtain ⟨text, hread, hgenerate⟩ := codeOf_eq_ok.mp hcode
    generalize hwritten : (writeText output code replace :
      Program (List String) ConversionFailure Unit).run time files = written
    obtain ⟨records, hrun⟩ := run_convertFile_ok hcode hwritten
    rw [show outcome = _ from hrun]
    dsimp only
    refine ⟨fun failure hfailure => ?_, fun hok => ?_, fun text' code' hread' hgenerate' => ?_⟩
    · rcases run_writeText_cases hwritten with ⟨-, hfiles⟩ | ⟨hok, -⟩
      · exact hfiles
      · exact (nomatch hok.symm.trans hfailure)
    · rcases run_writeText_cases hwritten with ⟨⟨failure, hfailure⟩, -⟩ | ⟨-, target, htarget, hnone⟩
      · exact (nomatch hok.symm.trans hfailure)
      · refine ⟨text, code, target, hread, hgenerate, htarget, fun hreplace => ?_⟩
        refine Bool.eq_false_iff.mpr fun hthere => ?_
        obtain ⟨entry, hfind⟩ := FileSystem.isThere_iff.mp hthere
        obtain ⟨location, hlocate, hentry⟩ := FileSystem.find_eq_ok.mp hfind
        obtain rfl : target = location := Except.ok.inj (htarget.locate.symm.trans hlocate)
        exact Option.some_ne_none _ (hentry.symm.trans (hnone hreplace))
    · have hsame := codeOf_eq_ok.mpr ⟨text', hread', hgenerate'⟩
      obtain rfl : code = code' := Except.ok.inj (hcode.symm.trans hsame)
      rw [← hwritten]
      refine ⟨fun fault hcreate => ?_, fun created hcreate hreplace hthere => ?_⟩
      · rw [run_writeText_of_refused hcreate]
      · subst hreplace
        exact run_writeText_of_isThere hthere hcreate

/-- A file that is not there is written; where one is there the output exists; and beside `farOutput`
a temporary file is refused. -/
theorem convertFile_allOrNothing_sampleFiles :
    (∃ code, (generate sampleText "a.wxg" .standard 0).result = .ok code ∧
      FileSystem.read ((convertFile "a.wxg" "a.go" .standard false :
        Program (List String) ConversionFailure Unit).run 0 sampleFiles).files "a.go" =
          .ok code.toUTF8) ∧
    ((convertFile "a.wxg" "a/b/c" .standard false :
      Program (List String) ConversionFailure Unit).run 0 sampleFiles).result =
        .error (.outputExists "a/b/c") ∧
    ((convertFile "a.wxg" "a/b/c" .standard false :
      Program (List String) ConversionFailure Unit).run 0 sampleFiles).files = sampleFiles ∧
    ((convertFile "a.wxg" farOutput .standard true :
      Program (List String) ConversionFailure Unit).run 0 sampleFiles).result =
        .error (.file .nameTooLong) := by
  obtain ⟨code, hcode⟩ := generate_sampleText "a.wxg" .standard 0
  have hcodeOf : sampleFiles.codeOf "a.wxg" .standard 0 = .ok code :=
    codeOf_eq_ok.mpr ⟨sampleText, read_sampleFiles, hcode⟩
  obtain ⟨-, hwritten, -⟩ :=
    convertFile_allOrNothing "a.wxg" "a.go" .standard false 0 sampleFiles
  obtain ⟨hunchanged, -, hconvertible⟩ :=
    convertFile_allOrNothing "a.wxg" "a/b/c" .standard false 0 sampleFiles
  obtain ⟨-, -, hfar⟩ := convertFile_allOrNothing "a.wxg" farOutput .standard true 0 sampleFiles
  have hthere : sampleFiles.isThere "a/b/c" = true := by decide +kernel
  have hlocate : sampleFiles.locate "a/b/c" = .ok ["tmp", "workingdir", "a", "b", "c"] :=
    eq_ok_of_toOption (by decide +kernel)
  obtain ⟨fresh, files, hcreate⟩ := FileSystem.createFresh_directory hlocate
    (eq_ok_of_toOption (by decide +kernel)) code.toUTF8
  have hrefused := (hconvertible sampleText code read_sampleFiles hcode).2 _ hcreate rfl hthere
  refine ⟨⟨code, hcode, ?_⟩, hrefused, hunchanged _ hrefused,
    (hfar sampleText code read_sampleFiles hcode).1 _ ?_⟩
  · have hresult : ((writeText "a.go" code false :
        Program (List String) ConversionFailure Unit).run 0 sampleFiles).result = .ok () :=
      result_writeText_eq_ok_iff.mpr (takesFile_sampleFiles code.toUTF8 false)
    generalize hrunText : (writeText "a.go" code false :
      Program (List String) ConversionFailure Unit).run 0 sampleFiles = written at hresult
    obtain ⟨records, hrun⟩ := run_convertFile_ok hcodeOf hrunText
    obtain ⟨text, code', target, hread, hgenerate, hfile, -⟩ :=
      hwritten ((congrArg Outcome.result hrun).trans hresult)
    have hsame : sampleFiles.codeOf "a.wxg" .standard 0 = .ok code' :=
      codeOf_eq_ok.mpr ⟨text, hread, hgenerate⟩
    rw [Except.ok.inj (hcodeOf.symm.trans hsame)]
    exact hfile.read
  · rw [directory_farOutput, createFresh_farDirectory]

/-- Something is at the output that may not be replaced, and the conversion fails for another
reason: the path of the temporary file is too long. -/
theorem convertFile_farOutput : sampleFiles.isThere farOutput = true ∧
    sampleFiles.read "a.wxg" = .ok sampleText.toUTF8 ∧
    (∃ code, (generate sampleText "a.wxg" .standard 0).result = .ok code) ∧
    ∃ outcome, (convertFile "a.wxg" farOutput .standard false :
      Program (List String) ConversionFailure Unit).run 0 sampleFiles = outcome ∧
      outcome.result = .error (.file .nameTooLong) ∧
      outcome.result ≠ .error (.outputExists farOutput) := by
  obtain ⟨code, hcode⟩ := generate_sampleText "a.wxg" .standard 0
  have hcodeOf : sampleFiles.codeOf "a.wxg" .standard 0 = .ok code :=
    codeOf_eq_ok.mpr ⟨sampleText, read_sampleFiles, hcode⟩
  obtain ⟨records, hrun⟩ := run_convertFile_ok hcodeOf (run_writeText farOutput code false)
  rw [directory_farOutput, createFresh_farDirectory] at hrun
  exact ⟨isThere_farOutput, read_sampleFiles, ⟨code, hcode⟩, _, hrun, rfl, by simp⟩

end GladeGo
