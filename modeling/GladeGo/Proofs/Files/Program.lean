import GladeGo.Files.Program

/-! # Running programs

How the requests of a program are answered from a file system, and what a program that makes a
request first does. -/

namespace GladeGo

variable {time : Int} {files files' : FileSystem} {path : String} {fault : FileFault}

theorem run_request_bind {ε α : Type} (request : Request (List String))
    (f : request.Answer → Program (List String) ε α) :
    (Program.request request >>= f).run time files =
      (f (request.perform time files).1).run time (request.perform time files).2 := rfl

theorem run_record_bind {ε α : Type} (level : Level) (topic : Topic) (message : String)
    (f : Unit → Program (List String) ε α) :
    (Program.record level topic message >>= f).run time files =
      ⟨⟨level, topic, message⟩ :: ((f ()).run time files).records,
        ((f ()).run time files).result, ((f ()).run time files).files⟩ := rfl

theorem andThen_of_error {ε α β : Type} {first : Outcome ε α} {failure : ε}
    (h : first.result = .error failure) (next : α → FileSystem → Outcome ε β) :
    first.andThen next = ⟨first.records, .error failure, first.files⟩ := by
  rw [Outcome.andThen, h]

theorem andThen_of_ok {ε α β : Type} {first : Outcome ε α} {value : α}
    (h : first.result = .ok value) (next : α → FileSystem → Outcome ε β) :
    first.andThen next = ⟨first.records ++ (next value first.files).records,
      (next value first.files).result, (next value first.files).files⟩ := by
  rw [Outcome.andThen, h]

theorem run_ofLogged {ε α : Type} (computed : Logged ε α) :
    (Program.ofLogged computed : Program (List String) ε α).run time files =
      ⟨computed.records, computed.result, files⟩ := by
  obtain ⟨records, result⟩ := computed
  induction records with
  | nil => cases result <;> rfl
  | cons record records ih =>
    rw [Program.ofLogged] at ih ⊢
    simp only [List.foldr_cons, Program.run, ih]

theorem run_mapFault {ε δ α : Type} (f : ε → δ) (p : Program (List String) ε α)
    (files : FileSystem) : (p.mapFault f).run time files =
      ⟨(p.run time files).records, (p.run time files).result.mapError f,
        (p.run time files).files⟩ := by
  induction p generalizing files with
  | done value => rfl
  | fail fault => rfl
  | log record rest ih => simp only [Program.mapFault, Program.run, ih]
  | ask request rest ih => simp only [Program.mapFault, Program.run, ih]

theorem perform_read : Request.perform time files (.read path) = (files.read path, files) := rfl

theorem perform_now : Request.perform time files .now = (time, files) := rfl

theorem perform_createTemporary_ok {directory : String} {content : ByteArray} {fresh : List String}
    (h : files.createFresh directory content = .ok (fresh, files')) :
    Request.perform time files (.createTemporary directory content) = (.ok fresh, files') := by
  unfold Request.perform
  dsimp only
  rw [h]

theorem perform_createTemporary_error {directory : String} {content : ByteArray}
    (h : files.createFresh directory content = .error fault) :
    Request.perform time files (.createTemporary directory content) = (.error fault, files) := by
  unfold Request.perform
  dsimp only
  rw [h]

theorem perform_persist_ok {source : List String} {replace : Bool}
    (h : files.move source path replace = .ok files') :
    Request.perform time files (.persist source path replace) = (.ok (), files') := by
  unfold Request.perform
  dsimp only
  rw [h]

theorem perform_persist_error {source : List String} {replace : Bool}
    (h : files.move source path replace = .error fault) :
    Request.perform time files (.persist source path replace) = (.error fault, files) := by
  unfold Request.perform
  dsimp only
  rw [h]

end GladeGo
