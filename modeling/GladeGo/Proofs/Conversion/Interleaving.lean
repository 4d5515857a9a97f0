import GladeGo.Conversion.File
import GladeGo.Proofs.Files.Interleaving
import GladeGo.Proofs.Files.Operation

/-! # Writing a file among other processes

The turns of a program that writes a file and may not replace anything. Whatever other processes do,
each turn keeps what it finds at the end of the path, and if that is something when the temporary
file is to be moved there, the program fails. -/

namespace GladeGo

open FileSystem (createFresh_eq_ok move_of_find find_put)

variable {path text : String} {files files' : FileSystem} {turns : List Turn}

/-- The turns of a program that writes a text where nothing may be replaced, and its result: the
temporary file is not made, or it is moved, or the move is refused and it is removed. -/
inductive WritesFile (path text : String) : List Turn → Except ConversionFailure Unit → Prop
  | notCreated {start : FileSystem} {fault : FileFault}
      (hcreate : start.createFresh (FilePath.directory path) text.toUTF8 = .error fault) :
      WritesFile path text
        [⟨.createTemporary (FilePath.directory path) text.toUTF8, start, .error fault, start⟩]
        (.error (.file fault))
  | moved {start created before after : FileSystem} {fresh : List String}
      (hcreate : start.createFresh (FilePath.directory path) text.toUTF8 = .ok (fresh, created))
      (hmove : before.move fresh path false = .ok after) :
      WritesFile path text
        [⟨.createTemporary (FilePath.directory path) text.toUTF8, start, .ok fresh, created⟩,
          ⟨.persist fresh path false, before, .ok (), after⟩]
        (.ok ())
  | refused {start created before last : FileSystem} {fresh : List String} {fault : FileFault}
      (hcreate : start.createFresh (FilePath.directory path) text.toUTF8 = .ok (fresh, created))
      (hmove : before.move fresh path false = .error fault)
      (hworking : last.workingDirectory = start.workingDirectory) :
      WritesFile path text
        [⟨.createTemporary (FilePath.directory path) text.toUTF8, start, .ok fresh, created⟩,
          ⟨.persist fresh path false, before, .error fault, before⟩,
          ⟨.discard fresh, last, (), last.erase fresh⟩]
        (.error (if fault = .alreadyExists then .outputExists path else .file fault))

theorem answered_eq {request : Request (List String)} {time : Int} {before after : FileSystem}
    {answer : request.Answer} (h : request.perform time before = (answer, after)) :
    Turn.answered request time before = ⟨request, before, answer, after⟩ := by
  rw [Turn.answered, h]

theorem writesFile_of_runs {result : Except ConversionFailure Unit}
    (h : (writeText path text false : Program (List String) ConversionFailure Unit).Runs files turns
      result files') : WritesFile path text turns result := by
  obtain ⟨time, start, later, -, rfl, hcreated⟩ := Program.runs_request_bind.mp h
  cases hcreate : start.createFresh (FilePath.directory path) text.toUTF8 with
  | error fault =>
    have hperform := @perform_createTemporary_error time start fault _ _ hcreate
    rw [hperform] at hcreated
    obtain ⟨rfl, rfl, -⟩ := Program.runs_fail.mp hcreated
    rw [answered_eq hperform]
    exact .notCreated hcreate
  | ok created =>
    obtain ⟨fresh, created⟩ := created
    have hperform := @perform_createTemporary_ok time start created _ _ _ hcreate
    rw [hperform] at hcreated
    rw [answered_eq hperform]
    obtain ⟨time', before, later, hothers, rfl, hmoved⟩ := Program.runs_request_bind.mp hcreated
    cases hmove : before.move fresh path false with
    | ok after =>
      have hperform := @perform_persist_ok time' before after _ _ _ hmove
      rw [hperform] at hmoved
      obtain ⟨rfl, rfl, -⟩ := Program.runs_done.mp hmoved
      rw [answered_eq hperform]
      exact .moved hcreate hmove
    | error fault =>
      have hperform := @perform_persist_error time' before path fault _ _ hmove
      rw [hperform] at hmoved
      obtain ⟨time'', last, later, hothers', rfl, hremoved⟩ := Program.runs_request_bind.mp hmoved
      obtain ⟨rfl, rfl, -⟩ := Program.runs_fail.mp hremoved
      rw [answered_eq hperform]
      refine .refused hcreate hmove ?_
      obtain ⟨location, -, -, -, rfl⟩ := createFresh_eq_ok hcreate
      exact Eq.trans hothers' hothers

/-- The program may meet something at the end of the path that was not there before. -/
theorem runs_writeText_refused {start created before : FileSystem} {fresh : List String}
    {fault : FileFault}
    (hcreate : start.createFresh (FilePath.directory path) text.toUTF8 = .ok (fresh, created))
    (hmove : before.move fresh path false = .error fault)
    (hothers : Interferes created before) : ∃ turns,
      (writeText path text false : Program (List String) ConversionFailure Unit).Runs start turns
        (.error (if fault = .alreadyExists then .outputExists path else .file fault))
        (before.erase fresh) ∧
      ⟨.persist fresh path false, before, .error fault, before⟩ ∈ turns := by
  have hcreated := @perform_createTemporary_ok 0 start created _ _ _ hcreate
  have hrefused := @perform_persist_error 0 before path fault _ _ hmove
  refine ⟨[.answered _ 0 start, .answered (.persist fresh path false) 0 before,
    .answered (.discard fresh) 0 before],
    Program.runs_request_bind.mpr ⟨0, start, _, rfl, rfl, ?_⟩, ?_⟩
  · rw [hcreated]
    refine Program.runs_request_bind.mpr ⟨0, before, _, hothers, rfl, ?_⟩
    rw [hrefused]
    exact Program.runs_request_bind.mpr ⟨0, before, _, rfl, rfl, .fail _ _⟩
  · rw [answered_eq hrefused]
    simp

/-! ### What stands at the end of the path -/

/-- A turn keeps whatever it finds at the end of a path. -/
def Turn.Keeps (path : String) (turn : Turn) : Prop :=
  ∀ entry, turn.before.find path = .ok entry → turn.after.find path = .ok entry

/-- The steps of a path do not begin in a place that has a fresh name on its way. -/
theorem freshName_not_mem_start {content : ByteArray} {fresh : List String}
    (h : files.createFresh (FilePath.directory path) content = .ok (fresh, files')) :
    files.freshName ∉ files.start path := by
  obtain ⟨location, hlocation, hdirectory, -, -⟩ := createFresh_eq_ok h
  obtain ⟨first, hfirst⟩ :=
    FileSystem.entry?_start (FileSystem.find_eq_ok.mpr ⟨location, hlocation, hdirectory⟩)
  rw [FileSystem.start_directory] at hfirst
  exact FileSystem.freshName_not_mem_of_entry? hfirst

theorem find_erase_fresh {location : List String} {name : String} {entry : FileEntry}
    (hlong : FilePath.maxNameSize < name.utf8ByteSize) (hstart : name ∉ files.start path)
    (h : files.find path = .ok entry) :
    FileSystem.find (files.erase (location ++ [name])) path = .ok entry := by
  refine @FileSystem.find_of_entries files (files.erase (location ++ [name])) path (· ≠ name)
    (fun other hother hname => ?_) (fun other hother hname => hstart (hname ▸ hother)) rfl
    (fun other hother found hfound => ?_) _ h
  · rw [hname] at hother
    omega
  · have hne : other ≠ location ++ [name] := fun h =>
      hother name (h ▸ List.mem_append_right _ List.mem_cons_self) rfl
    rw [FileSystem.entry?_erase_of_ne hne, hfound]

theorem keeps_of_after_eq {turn : Turn} (h : turn.after = turn.before) : turn.Keeps path :=
  fun _ hentry => h ▸ hentry

/-- **Every turn of the program keeps what it finds at the end of the path**: a temporary file is new
and on the way of no path, and it is not moved over anything. -/
theorem WritesFile.keeps {result : Except ConversionFailure Unit}
    (h : WritesFile path text turns result) : ∀ turn ∈ turns, turn.Keeps path := by
  have hcreated : ∀ {start created : FileSystem} {fresh : List String},
      start.createFresh (FilePath.directory path) text.toUTF8 = .ok (fresh, created) →
      ∀ entry, start.find path = .ok entry → created.find path = .ok entry := by
    intro start created fresh hcreate entry hentry
    obtain ⟨location, -, -, rfl, rfl⟩ := createFresh_eq_ok hcreate
    have hnone := FileSystem.entry?_eq_none (by simp) (@FileSystem.freshName_free start location)
    exact find_put hnone _ hentry
  cases h with
  | notCreated hcreate => exact List.forall_mem_singleton.mpr (keeps_of_after_eq rfl)
  | moved hcreate hmove =>
    refine List.forall_mem_cons.mpr ⟨hcreated hcreate, List.forall_mem_singleton.mpr ?_⟩
    intro entry hentry
    obtain ⟨fault, hrefused, -⟩ := move_of_find hentry
    exact (nomatch hmove.symm.trans hrefused)
  | @refused start created before last fresh fault hcreate hmove hworking =>
    refine List.forall_mem_cons.mpr ⟨hcreated hcreate, List.forall_mem_cons.mpr
      ⟨keeps_of_after_eq rfl, List.forall_mem_singleton.mpr fun entry hentry => ?_⟩⟩
    have hstart := freshName_not_mem_start hcreate
    obtain ⟨location, -, -, rfl, -⟩ := createFresh_eq_ok hcreate
    rw [FileSystem.start, ← hworking, ← FileSystem.start] at hstart
    exact find_erase_fresh (FileSystem.maxNameSize_lt_freshName start) hstart hentry

/-- **The move of the temporary file** is to the end of the path and may not replace anything. If
something is there, it is refused and the program fails, because something is there unless the
temporary file is gone; and that is the reason of the failure wherever it is that of the move. -/
theorem WritesFile.persist {result : Except ConversionFailure Unit} {temporary : List String}
    {target : String} {replace : Bool} {before after : FileSystem} {answer : Except FileFault Unit}
    (h : WritesFile path text turns result)
    (hturn : ⟨.persist temporary target replace, before, answer, after⟩ ∈ turns) :
    target = path ∧ replace = false ∧
    (∀ entry, before.find path = .ok entry → (∃ failure, result = .error failure) ∧
      (answer = .error .alreadyExists ∨ before.entry? temporary = none)) ∧
    (answer = .error .alreadyExists → result = .error (.outputExists path)) := by
  cases h with
  | notCreated hcreate => exact absurd hturn (by simp)
  | moved hcreate hmove =>
    rcases List.mem_cons.mp hturn with hturn | hturn
    · exact (nomatch hturn)
    · cases List.mem_singleton.mp hturn
      refine ⟨rfl, rfl, fun entry hentry => ?_, fun hanswer => (nomatch hanswer)⟩
      obtain ⟨fault, hrefused, -⟩ := move_of_find hentry
      exact (nomatch hmove.symm.trans hrefused)
  | @refused _ _ _ _ _ fault hcreate hmove hworking =>
    rcases List.mem_cons.mp hturn with hturn | hturn
    · exact (nomatch hturn)
    · rcases List.mem_cons.mp hturn with hturn | hturn
      · cases hturn
        refine ⟨rfl, rfl, fun entry hentry => ⟨⟨_, rfl⟩, ?_⟩, fun hanswer => ?_⟩
        · obtain ⟨fault', hrefused, hreason⟩ := move_of_find hentry
          obtain rfl := Except.error.inj (hmove.symm.trans hrefused)
          exact hreason.imp_left fun h => by rw [h]
        · rw [if_pos (Except.error.inj hanswer)]
      · exact absurd hturn (by simp)

/-! ### Converting -/

/-- The turns of a conversion that may not replace anything, and its result: it fails before it
writes, or it writes. -/
inductive Converts (input output : String) : List Turn → Except ConversionFailure Unit → Prop
  | unread {time : Int} {files : FileSystem} {failure : ConversionFailure} :
      Converts input output [.answered (.read input) time files] (.error failure)
  | unconverted {time time' : Int} {files files' : FileSystem} {failure : ConversionFailure} :
      Converts input output
        [.answered (.read input) time files, .answered .now time' files'] (.error failure)
  | written {time time' : Int} {files files' : FileSystem} {code : String} {turns : List Turn}
      {result : Except ConversionFailure Unit} (h : WritesFile output code turns result) :
      Converts input output
        (.answered (.read input) time files :: .answered .now time' files' :: turns) result

theorem turns_of_readText {result : Except ConversionFailure String}
    (h : (readText path : Program (List String) ConversionFailure String).Runs files turns result
      files') : ∃ time before, turns = [.answered (.read path) time before] := by
  obtain ⟨time, before, later, -, rfl, hread⟩ := Program.runs_request_bind.mp h
  suffices hlater : later = [] by exact ⟨time, before, by rw [hlater]⟩
  rw [perform_read] at hread
  cases hcontent : before.read path with
  | error fault =>
    rw [hcontent] at hread
    exact (Program.runs_fail.mp hread).1
  | ok content =>
    rw [hcontent] at hread
    dsimp only at hread
    cases htext : String.fromUTF8? content with
    | none =>
      rw [htext] at hread
      exact (Program.runs_fail.mp hread).1
    | some text =>
      rw [htext] at hread
      exact (Program.runs_done.mp hread).1

theorem converts_of_runs {input output : String} {options : ConversionOptions}
    {result : Except ConversionFailure Unit} (h : (convertFile input output options false :
      Program (List String) ConversionFailure Unit).Runs files turns result files') :
    Converts input output turns result := by
  rcases Program.runs_bind.mp h with
    ⟨failure, rfl, hread⟩ | ⟨text, _, _, rest, rfl, hread, hrest⟩
  · obtain ⟨time, before, rfl⟩ := turns_of_readText hread
    exact .unread
  · obtain ⟨time, before, rfl⟩ := turns_of_readText hread
    obtain ⟨time', before', later, -, rfl, hlater⟩ := Program.runs_request_bind.mp hrest
    rcases Program.runs_bind.mp hlater with
      ⟨failure, rfl, hcode⟩ | ⟨code, _, _, last, rfl, hcode, hlast⟩
    · obtain ⟨rfl, -, -⟩ := Program.runs_ofLogged.mp hcode
      exact .unconverted
    · obtain ⟨rfl, -, -⟩ := Program.runs_ofLogged.mp hcode
      rcases Program.runs_bind.mp hlast with
        ⟨failure, rfl, hwrite⟩ | ⟨_, _, writing, _, rfl, hwrite, hrecord⟩
      · exact .written (writesFile_of_runs hwrite)
      · obtain ⟨rfl, rfl, -⟩ := Program.runs_done.mp (Program.runs_record_bind.mp hrecord)
        rw [List.append_nil]
        exact .written (writesFile_of_runs hwrite)

/-- A conversion that has its code fails as the writing of the code fails. -/
theorem runs_convertFile_of_writeText {input output code : String} {content : ByteArray}
    {options : ConversionOptions} {time : Int} {failure : ConversionFailure}
    (hread : files.read input = .ok content) (htext : String.fromUTF8? content = some text)
    (hcode : (generate text (FilePath.fileName input) options time).result = .ok code)
    (h : (writeText output code false : Program (List String) ConversionFailure Unit).Runs files
      turns (.error failure) files') :
    (convertFile input output options false : Program (List String) ConversionFailure Unit).Runs
      files (.answered (.read input) time files :: .answered .now time files :: turns)
      (.error failure) files' := by
  have hreading : (readText input : Program (List String) ConversionFailure String).Runs files
      [.answered (.read input) time files] (.ok text) files := by
    refine Program.runs_request_bind.mpr ⟨time, files, [], rfl, rfl, ?_⟩
    rw [perform_read, hread]
    dsimp only
    rw [htext]
    exact .done text files
  refine Program.runs_bind.mpr (.inr ⟨text, files, _, _, List.singleton_append.symm, hreading, ?_⟩)
  refine Program.runs_request_bind.mpr ⟨time, files, turns, rfl, rfl, ?_⟩
  refine Program.runs_bind.mpr (.inr ⟨code, files, [], turns, rfl, ?_, ?_⟩)
  · exact Program.runs_ofLogged.mpr ⟨rfl, hcode.symm, rfl⟩
  · exact Program.runs_bind.mpr (.inl ⟨failure, rfl, h⟩)

/-- The order of the requests of a conversion. -/
theorem Converts.requests {input output : String} {result : Except ConversionFailure Unit}
    (h : Converts input output turns result) : ∃ content temporary, turns.map Turn.request <+:
      [.read input, .now, .createTemporary (FilePath.directory output) content,
        .persist temporary output false, .discard temporary] := by
  cases h with
  | unread => exact ⟨ByteArray.empty, [], List.prefix_append [_] _⟩
  | unconverted => exact ⟨ByteArray.empty, [], List.prefix_append [_, _] _⟩
  | @written _ _ _ _ code _ _ hwrite =>
    cases hwrite with
    | notCreated hcreate => exact ⟨code.toUTF8, [], List.prefix_append [_, _, _] _⟩
    | @moved _ _ _ _ fresh hcreate hmove =>
      exact ⟨code.toUTF8, fresh, List.prefix_append [_, _, _, _] _⟩
    | @refused _ _ _ _ fresh _ hcreate hmove hworking =>
      exact ⟨code.toUTF8, fresh, List.prefix_refl _⟩

theorem Converts.keeps {input output : String} {result : Except ConversionFailure Unit}
    (h : Converts input output turns result) : ∀ turn ∈ turns, turn.Keeps output := by
  have hread : ∀ {time before}, Turn.Keeps output (.answered (.read input) time before) :=
    keeps_of_after_eq rfl
  have hnow : ∀ {time before}, Turn.Keeps output (.answered .now time before) :=
    keeps_of_after_eq rfl
  cases h with
  | unread => exact List.forall_mem_singleton.mpr hread
  | unconverted => exact List.forall_mem_cons.mpr ⟨hread, List.forall_mem_singleton.mpr hnow⟩
  | written hwrite =>
    exact List.forall_mem_cons.mpr ⟨hread, List.forall_mem_cons.mpr ⟨hnow, hwrite.keeps⟩⟩

/-- A conversion moves its temporary file when it writes. -/
theorem Converts.exists_writesFile {input output : String} {result : Except ConversionFailure Unit}
    {temporary : List String} {target : String} {replace : Bool} {before after : FileSystem}
    {answer : Except FileFault Unit} (h : Converts input output turns result)
    (hturn : ⟨.persist temporary target replace, before, answer, after⟩ ∈ turns) :
    ∃ code later, WritesFile output code later result ∧
      ⟨.persist temporary target replace, before, answer, after⟩ ∈ later := by
  cases h with
  | unread => exact absurd hturn (by simp [Turn.answered])
  | unconverted => exact absurd hturn (by simp [Turn.answered])
  | @written _ _ _ _ code later _ hwrite =>
    exact ⟨code, later, hwrite, by simpa [Turn.answered] using hturn⟩

end GladeGo
