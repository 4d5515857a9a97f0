import GladeGo.Proofs.Conversion.File
import GladeGo.Proofs.Go.Lines

/-! # Where a file says that it comes from

A generated file begins with comments, and the last of them names the document. The name stands in
it as it is. So it stays in the comment exactly if it has no line feed
(`keepsProvenance_iff_of_convertFile`): what follows a line feed in the name of a file is a line of
its own in front of the package clause. -/

namespace GladeGo

open Go

variable {source : String}

/-! ### Headers -/

theorem isLine_paddedDigits (width n : Nat) :
    IsLine (String.ofList (Text.paddedDigits 10 width n)) := by
  have hdigit : ∀ d < 10, '\n' ≠ Nat.digitChar d := by decide
  rw [IsLine, String.toList_ofList, Text.paddedDigits, List.mem_append, not_or]
  refine ⟨fun h => absurd (List.eq_of_mem_replicate h) (by decide), fun h => ?_⟩
  obtain ⟨d, hd, heq⟩ := exists_digitChar_of_mem_toDigits (by omega) h
  exact hdigit d hd heq

theorem isLine_showYear (year : Int) : IsLine (Text.showYear year) := by
  unfold Text.showYear
  dsimp only
  split_ifs
  · exact isLine_append.mpr ⟨by decide, isLine_paddedDigits _ _⟩
  · exact isLine_append.mpr ⟨by decide, isLine_paddedDigits _ _⟩
  · exact isLine_paddedDigits _ _

theorem isLine_showTimestamp (time : Int) : IsLine (Text.showTimestamp time) := by
  simp only [Text.showTimestamp, Text.twoDigits, isLine_append, isLine_showYear,
    isLine_paddedDigits, true_and, and_true]
  decide

/-- The lines of a file behind its package clause. -/
def declarationLines (plans : List WindowPlan) : List String :=
  (["", "import (", indented (string FileOptions.standard.wxImport), ")"] ++
    plans.flatMap planLines).flatMap linesOf ++ [""]

/-- The first line of a file. -/
def toolLine : String := "// Code generated by wxg-to-go. DO NOT EDIT."

/-- The second line of a file. -/
def timeLine (time : Int) : String := "// Generated at " ++ Text.showTimestamp time ++ " UTC"

/-- The lines of a file for which nothing else is asked. -/
theorem linesOf_sourceFile (source : String) (time : Int) (plans : List WindowPlan) :
    linesOf (sourceFile .standard ⟨ConversionOptions.standard.tool, source, time⟩ plans) =
      toolLine :: timeLine time :: (linesOf ("// from " ++ source) ++
        "" :: "package main" :: declarationLines plans) := by
  have htime : IsLine (timeLine time) :=
    isLine_append.mpr ⟨isLine_append.mpr ⟨by decide, isLine_showTimestamp time⟩, by decide⟩
  have hheader : headerLines .standard ⟨ConversionOptions.standard.tool, source, time⟩ =
      toolLine :: timeLine time :: ("// from " ++ source) :: "" :: "package main" ::
        ["", "import (", indented (string FileOptions.standard.wxImport), ")"] := by
    have htool : "// Code generated by " ++ ConversionOptions.standard.tool ++ ". DO NOT EDIT." =
        toolLine := by decide
    have hpackage : "package " ++ FileOptions.standard.packageName = "package main" := by decide
    rw [headerLines, htool, hpackage]
    rfl
  rw [← @String.ofList_toList (sourceFile _ _ _), toList_sourceFile, ← joinLines_append,
    linesOf_joinLines, hheader, declarationLines]
  simp only [List.cons_append, List.flatMap_cons, List.append_assoc,
    linesOf_of_isLine htime, linesOf_of_isLine (show IsLine toolLine by decide),
    linesOf_of_isLine (show IsLine "" by decide),
    linesOf_of_isLine (show IsLine "package main" by decide), List.nil_append]

/-! ### Comments -/

/-- The line is blank or a comment. -/
def IsRemark (line : String) : Prop :=
  line.toList.all Text.isBlank ∨ "//".toList <+: line.toList

/-- The lines of a file in front of its package clause. -/
def frontLines (code : String) : List String :=
  (linesOf code).takeWhile fun line => line ≠ "package main"

/-- Nothing but comments stands in front of the package clause of the file, and the third of them
names its source. -/
structure KeepsProvenance (code source : String) : Prop where
  clause : "package main" ∈ linesOf code
  remarks : ∀ line ∈ frontLines code, IsRemark line
  source : (frontLines code)[2]? = some ("// from " ++ source)

theorem isRemark_append {front : String} (h : "//".toList <+: front.toList) (rest : String) :
    IsRemark (front ++ rest) := by
  rw [IsRemark, String.toList_append]
  exact .inr (h.trans (List.prefix_append _ _))

theorem IsRemark.ne_clause {line : String} (h : IsRemark line) : line ≠ "package main" := by
  rintro rfl
  revert h
  unfold IsRemark
  decide

theorem frontLines_eq {code : String} {front rest : List String}
    (h : linesOf code = front ++ "package main" :: rest)
    (hfront : ∀ line ∈ front, line ≠ "package main") : frontLines code = front := by
  rw [frontLines, h, List.takeWhile_append_of_pos, List.takeWhile_cons_of_neg (by simp),
    List.append_nil]
  exact fun line hline => decide_eq_true (hfront line hline)

theorem isRemark_timeLine (time : Int) : IsRemark (timeLine time) := by
  have hassoc : timeLine time = "// Generated at " ++ (Text.showTimestamp time ++ " UTC") :=
    String.append_assoc
  exact hassoc ▸ isRemark_append (by decide) _

/-- **A name stays in its comment** exactly if it has no line feed. -/
theorem keepsProvenance_iff {code : String} {time : Int} {rest : List String}
    (h : linesOf code = toolLine :: timeLine time :: (linesOf ("// from " ++ source) ++
      "" :: "package main" :: rest)) :
    KeepsProvenance code source ↔ '\n' ∉ source.toList := by
  constructor
  · intro hkeeps
    have hfront := List.mem_of_getElem? hkeeps.source
    have hline := isLine_of_mem_linesOf ((List.takeWhile_sublist _).subset hfront)
    exact (isLine_append.mp hline).2
  · intro hsource
    have hremark : ∀ line ∈ [toolLine, timeLine time, "// from " ++ source, ""],
        IsRemark line := by
      simp only [List.forall_mem_cons]
      exact ⟨.inr (by decide), isRemark_timeLine time, isRemark_append (by decide) _,
        .inl (by decide), fun _ h => nomatch h⟩
    have hlines : linesOf code =
        [toolLine, timeLine time, "// from " ++ source, ""] ++ "package main" :: rest := by
      rw [h, linesOf_of_isLine (isLine_append.mpr ⟨by decide, hsource⟩)]
      rfl
    have hfront := frontLines_eq hlines fun line hline => (hremark line hline).ne_clause
    exact { clause := hlines ▸ List.mem_append_right _ List.mem_cons_self
            remarks := hfront ▸ hremark
            source := by rw [hfront]; rfl }

/-! ### Conversions -/

section Conversion
variable {time : Int} {files : FileSystem} {input output : String} {replace : Bool}

/-- A conversion that succeeds writes the code for the plans of the document. -/
theorem read_of_convertFile {options : ConversionOptions}
    (h : ((convertFile input output options replace :
      Program (List String) ConversionFailure Unit).run time files).result = .ok ()) :
    ∃ text plans, files.read input = .ok text.toUTF8 ∧ (planWindows text).result = .ok plans ∧
      ((convertFile input output options replace :
        Program (List String) ConversionFailure Unit).run time files).files.read output =
          .ok (sourceFile options.toFileOptions
            ⟨options.tool, FilePath.fileName input, time⟩ plans).toUTF8 := by
  cases hcode : files.codeOf input options time with
  | error failure =>
    obtain ⟨records, hrun⟩ := @run_convertFile_error _ _ _ output _ replace _ hcode
    rw [hrun] at h
    cases h
  | ok code =>
    obtain ⟨text, hread, hgenerate⟩ := codeOf_eq_ok.mp hcode
    simp only [generate, Logged.result_bind, Logged.result_pure, bind_eq_ok] at hgenerate
    obtain ⟨plans, hplans, hcode'⟩ := hgenerate
    generalize hwritten : (writeText output code replace :
      Program (List String) ConversionFailure Unit).run time files = written
    obtain ⟨records, hrun⟩ := run_convertFile_ok hcode hwritten
    rw [hrun] at h ⊢
    refine ⟨text, plans, hread, hplans, ?_⟩
    rcases run_writeText_cases hwritten with ⟨⟨failure, hfailure⟩, -⟩ | ⟨-, target, htarget, -⟩
    · cases hfailure.symm.trans h
    · rw [Except.ok.inj hcode']
      exact htarget.read

/-- **What the name of a document adds to its file.** The first line of the name stands in the third
comment; its other lines stand behind it as they are, and nothing else in the file depends on the
name. So all in front of the package clause is comments that tell the name exactly if there is no
line feed in it. -/
theorem keepsProvenance_iff_of_convertFile
    (h : ((convertFile input output .standard replace :
      Program (List String) ConversionFailure Unit).run time files).result = .ok ()) :
    ∃ text plans code first more,
      files.read input = .ok text.toUTF8 ∧ (planWindows text).result = .ok plans ∧
      ((convertFile input output .standard replace :
        Program (List String) ConversionFailure Unit).run time files).files.read output =
          .ok code.toUTF8 ∧
      linesOf (FilePath.fileName input) = first :: more ∧
      linesOf code = toolLine :: timeLine time :: ("// from " ++ first) ::
        (more ++ "" :: "package main" :: declarationLines plans) ∧
      (KeepsProvenance code (FilePath.fileName input) ↔
        '\n' ∉ (FilePath.fileName input).toList) := by
  obtain ⟨text, plans, hread, hplans, hwritten⟩ := read_of_convertFile h
  obtain ⟨first, more, hname, hsource⟩ :=
    exists_linesOf_append (show IsLine "// from " by decide) (FilePath.fileName input)
  have hlines := linesOf_sourceFile (FilePath.fileName input) time plans
  refine ⟨text, plans, _, first, more, hread, hplans, hwritten, hname, ?_,
    keepsProvenance_iff hlines⟩
  rw [hsource] at hlines
  exact hlines

end Conversion

/-- A document in a file is converted if a file is taken for the output. -/
theorem result_convertFile_sampleText {files : FileSystem} {input : String}
    (hread : files.read input = .ok sampleText.toUTF8)
    (htakes : ∀ content, files.TakesFile "a.go" content false) :
    ((convertFile input "a.go" .standard false :
      Program (List String) ConversionFailure Unit).run 0 files).result = .ok () := by
  obtain ⟨code, hcode⟩ := generate_sampleText (FilePath.fileName input) .standard 0
  obtain ⟨records, hrun⟩ := run_convertFile_ok (codeOf_eq_ok.mpr ⟨sampleText, hread, hcode⟩) rfl
  rw [hrun]
  dsimp only
  exact result_writeText_eq_ok_iff.mpr (htakes code.toUTF8)

theorem keepsProvenance_iff_of_convertFile_sampleFiles : ∃ code,
    ((convertFile "a.wxg" "a.go" .standard false :
      Program (List String) ConversionFailure Unit).run 0 sampleFiles).files.read "a.go" =
        .ok code.toUTF8 ∧
    KeepsProvenance code "a.wxg" := by
  have hresult := result_convertFile_sampleText read_sampleFiles fun content =>
    takesFile_sampleFiles content false
  obtain ⟨text, plans, code, first, more, -, -, hwritten, -, -, hkeeps⟩ :=
    keepsProvenance_iff_of_convertFile hresult
  have hname : FilePath.fileName "a.wxg" = "a.wxg" := by decide +kernel
  rw [hname] at hkeeps
  exact ⟨code, hwritten, hkeeps.mpr (by decide)⟩

/-- The name of a file, with a line of code in it. -/
def brokenName : String := "main.wxg\nvar added = 1"

/-- A working directory with a document in a file that is called `brokenName`. -/
def brokenFiles : FileSystem where
  workingDirectory := ["tmp", "workingdir"]
  entries := [(["tmp"], .directory), (["tmp", "workingdir"], .directory),
    (["tmp", "workingdir", brokenName], .file sampleText.toUTF8)]

/-- **A file name may add code**: what follows a line feed in it is no comment. -/
theorem not_keepsProvenance_brokenName : ∃ code,
    ((convertFile brokenName "a.go" .standard false :
      Program (List String) ConversionFailure Unit).run 0 brokenFiles).result = .ok () ∧
    ((convertFile brokenName "a.go" .standard false :
      Program (List String) ConversionFailure Unit).run 0 brokenFiles).files.read "a.go" =
        .ok code.toUTF8 ∧
    FilePath.fileName brokenName = brokenName ∧
    "var added = 1" ∈ frontLines code ∧ ¬IsRemark "var added = 1" ∧
    ¬KeepsProvenance code brokenName := by
  have hlocate : brokenFiles.locate brokenName = .ok ["tmp", "workingdir", brokenName] :=
    eq_ok_of_toOption (by decide +kernel)
  have hfind : brokenFiles.find brokenName = .ok (.file sampleText.toUTF8) :=
    FileSystem.find_eq_ok.mpr ⟨_, hlocate, rfl⟩
  have hread : brokenFiles.read brokenName = .ok sampleText.toUTF8 := by
    rw [FileSystem.read, hfind, ok_bind]
  have hfresh : brokenFiles.IsFresh "a.go" ⟨["tmp", "workingdir"], "a.go"⟩ :=
    ⟨FileSystem.place?_eq_some_iff.mpr
      ⟨by decide, [], by decide, rfl, rfl, by decide, by decide⟩, rfl⟩
  have hresult := result_convertFile_sampleText hread fun content => hfresh.takesFile_iff.mpr
    ⟨by decide, by decide, eq_ok_of_toOption (by decide +kernel)⟩
  obtain ⟨text, plans, -, -, hwritten⟩ := read_of_convertFile hresult
  have hname : FilePath.fileName brokenName = brokenName := by decide +kernel
  have hsource : linesOf ("// from " ++ brokenName) = ["// from main.wxg", "var added = 1"] := by
    decide +kernel
  rw [hname] at hwritten
  have hlines := linesOf_sourceFile brokenName 0 plans
  rw [hsource] at hlines
  have hothers : ∀ line ∈ [toolLine, timeLine 0, "// from main.wxg", "var added = 1", ""],
      line ≠ "package main" := by
    simp only [List.forall_mem_cons]
    exact ⟨by decide, (isRemark_timeLine 0).ne_clause, by decide, by decide, by decide,
      fun _ h => nomatch h⟩
  have hfront := frontLines_eq hlines hothers
  have hcode : "var added = 1" ∈ frontLines
      (sourceFile .standard ⟨ConversionOptions.standard.tool, brokenName, 0⟩ plans) := by
    rw [hfront]
    simp
  have hremark : ¬IsRemark "var added = 1" := by
    unfold IsRemark
    decide
  exact ⟨_, hresult, hwritten, hname, hcode, hremark,
    fun hkeeps => hremark (hkeeps.remarks _ hcode)⟩

end GladeGo
