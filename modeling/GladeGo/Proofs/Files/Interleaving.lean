import GladeGo.Proofs.Files.Program

/-! # Programs among other processes

Before each request of a program, other processes may do anything to the files; only the working
directory of the program stays its own. A run is told by its turns, each of which is one request of
the program with the file systems before and after it. -/

namespace GladeGo

/-- A request of a program, with the file system that it meets, its answer, and the file system that
it leaves. -/
structure Turn where
  request : Request (List String)
  before : FileSystem
  answer : request.Answer
  after : FileSystem

/-- The turn of a request that is made at a moment. -/
def Turn.answered (request : Request (List String)) (time : Int) (before : FileSystem) : Turn :=
  ⟨request, before, (request.perform time before).1, (request.perform time before).2⟩

/-- What other processes may make of a file system. -/
def Interferes (files files' : FileSystem) : Prop :=
  files'.workingDirectory = files.workingDirectory

namespace Program

variable {ε α β : Type}

/-- A program may take the given turns, from one file system to another, and end with a result. -/
inductive Runs : Program (List String) ε α → FileSystem → List Turn → Except ε α → FileSystem → Prop
  | done (value : α) (files : FileSystem) : Runs (.done value) files [] (.ok value) files
  | fail (fault : ε) (files : FileSystem) : Runs (.fail fault) files [] (.error fault) files
  | log (record : Record) {rest : Program (List String) ε α} {files files' : FileSystem}
      {turns : List Turn} {result : Except ε α} (h : Runs rest files turns result files') :
      Runs (.log record rest) files turns result files'
  /-- Other processes come first. -/
  | ask (request : Request (List String)) (time : Int)
      {rest : request.Answer → Program (List String) ε α} {files before files' : FileSystem}
      {turns : List Turn} {result : Except ε α} (hothers : Interferes files before)
      (h : Runs (rest (request.perform time before).1) (request.perform time before).2 turns result
        files') :
      Runs (.ask request rest) files (.answered request time before :: turns) result files'

variable {p : Program (List String) ε α} {f : α → Program (List String) ε β}
  {files files' : FileSystem} {turns : List Turn}

/-- A program that runs alone is one whose run no other process takes part in. -/
theorem runs_run (time : Int) (p : Program (List String) ε α) (files : FileSystem) :
    ∃ turns, p.Runs files turns (p.run time files).result (p.run time files).files := by
  induction p generalizing files with
  | done value => exact ⟨[], .done value files⟩
  | fail fault => exact ⟨[], .fail fault files⟩
  | log record rest ih =>
    obtain ⟨turns, h⟩ := ih files
    exact ⟨turns, .log record h⟩
  | ask request rest ih =>
    obtain ⟨turns, h⟩ := ih (request.perform time files).1 (request.perform time files).2
    exact ⟨_ :: turns, .ask request time rfl h⟩

theorem runs_done {value : α} {result : Except ε α} :
    (done value : Program (List String) ε α).Runs files turns result files' ↔
      turns = [] ∧ result = .ok value ∧ files' = files := by
  constructor
  · intro h
    cases h
    exact ⟨rfl, rfl, rfl⟩
  · rintro ⟨rfl, rfl, rfl⟩
    exact .done value _

theorem runs_fail {fault : ε} {result : Except ε α} :
    (fail fault : Program (List String) ε α).Runs files turns result files' ↔
      turns = [] ∧ result = .error fault ∧ files' = files := by
  constructor
  · intro h
    cases h
    exact ⟨rfl, rfl, rfl⟩
  · rintro ⟨rfl, rfl, rfl⟩
    exact .fail fault _

/-- **A run of one program and then another** is a run of the first that fails, or that goes on with
a run of the second. -/
theorem runs_bind {result : Except ε β} : (p >>= f).Runs files turns result files' ↔
    (∃ fault, result = .error fault ∧ p.Runs files turns (.error fault) files') ∨
    ∃ value middle first last, turns = first ++ last ∧ p.Runs files first (.ok value) middle ∧
      (f value).Runs middle last result files' := by
  rw [bind_eq]
  induction p generalizing files turns with
  | done value =>
    constructor
    · exact fun h => .inr ⟨value, files, [], turns, rfl, .done value files, h⟩
    · rintro (⟨fault, rfl, h⟩ | ⟨value', middle, first, last, rfl, hfirst, hlast⟩)
      · exact (nomatch (runs_done.mp h).2.1)
      · obtain ⟨rfl, hvalue, rfl⟩ := runs_done.mp hfirst
        obtain rfl := Except.ok.inj hvalue
        exact hlast
  | fail fault =>
    constructor
    · intro h
      obtain ⟨rfl, rfl, rfl⟩ := runs_fail.mp h
      exact .inl ⟨fault, rfl, .fail fault _⟩
    · rintro (⟨fault', rfl, h⟩ | ⟨value, middle, first, last, rfl, hfirst, -⟩)
      · obtain ⟨rfl, hfault, rfl⟩ := runs_fail.mp h
        obtain rfl := Except.error.inj hfault
        exact .fail fault' _
      · exact (nomatch (runs_fail.mp hfirst).2.1)
  | log record rest ih =>
    constructor
    · intro h
      cases h with
      | log record h =>
        rcases ih.mp h with ⟨fault, rfl, hfails⟩ | ⟨value, middle, first, last, rfl, hfirst, hlast⟩
        · exact .inl ⟨fault, rfl, .log record hfails⟩
        · exact .inr ⟨value, middle, first, last, rfl, .log record hfirst, hlast⟩
    · rintro (⟨fault, rfl, h⟩ | ⟨value, middle, first, last, rfl, hfirst, hlast⟩)
      · cases h with
        | log record h => exact .log record (ih.mpr (.inl ⟨fault, rfl, h⟩))
      · cases hfirst with
        | log record h =>
          exact .log record (ih.mpr (.inr ⟨value, middle, first, last, rfl, h, hlast⟩))
  | ask request rest ih =>
    constructor
    · intro h
      cases h with
      | ask request time hothers h =>
        rcases (ih _).mp h with
          ⟨fault, rfl, hfails⟩ | ⟨value, middle, first, last, rfl, hfirst, hlast⟩
        · exact .inl ⟨fault, rfl, .ask request time hothers hfails⟩
        · exact .inr ⟨value, middle, _ :: first, last, rfl, .ask request time hothers hfirst, hlast⟩
    · rintro (⟨fault, rfl, h⟩ | ⟨value, middle, first, last, rfl, hfirst, hlast⟩)
      · cases h with
        | ask request time hothers h =>
          exact .ask request time hothers ((ih _).mpr (.inl ⟨fault, rfl, h⟩))
      · cases hfirst with
        | ask request time hothers h =>
          exact .ask request time hothers
            ((ih _).mpr (.inr ⟨value, middle, _, last, rfl, h, hlast⟩))

theorem runs_request_bind {request : Request (List String)}
    {g : request.Answer → Program (List String) ε α} {result : Except ε α} :
    (Program.request request >>= g).Runs files turns result files' ↔
      ∃ time before later, Interferes files before ∧ turns = .answered request time before :: later ∧
        (g (request.perform time before).1).Runs (request.perform time before).2 later result
          files' := by
  constructor
  · intro h
    cases h with
    | ask request time hothers h => exact ⟨time, _, _, hothers, rfl, h⟩
  · rintro ⟨time, before, later, hothers, rfl, h⟩
    exact .ask request time hothers h

theorem runs_record_bind {level : Level} {topic : Topic} {message : String}
    {g : Unit → Program (List String) ε α} {result : Except ε α} :
    (Program.record level topic message >>= g).Runs files turns result files' ↔
      (g ()).Runs files turns result files' := by
  constructor
  · intro h
    cases h with
    | log record h => exact h
  · exact fun h => .log _ h

theorem runs_ofLogged {computed : Logged ε α} {result : Except ε α} :
    (ofLogged computed : Program (List String) ε α).Runs files turns result files' ↔
      turns = [] ∧ result = computed.result ∧ files' = files := by
  obtain ⟨records, ended⟩ := computed
  induction records with
  | nil =>
    cases ended with
    | ok value => exact runs_done
    | error fault => exact runs_fail
  | cons record records ih =>
    refine Iff.trans ⟨fun h => ?_, fun h => .log record h⟩ ih
    cases h with
    | log record h => exact h

theorem runs_mapFault {δ : Type} {g : ε → δ} {result : Except δ α} :
    (p.mapFault g).Runs files turns result files' ↔
      ∃ inner, result = inner.mapError g ∧ p.Runs files turns inner files' := by
  constructor
  · intro h
    induction p generalizing files turns with
    | done value =>
      obtain ⟨rfl, rfl, rfl⟩ := runs_done.mp h
      exact ⟨.ok value, rfl, .done value _⟩
    | fail fault =>
      obtain ⟨rfl, rfl, rfl⟩ := runs_fail.mp h
      exact ⟨.error fault, rfl, .fail fault _⟩
    | log record rest ih =>
      cases h with
      | log record h =>
        obtain ⟨inner, hresult, h⟩ := ih h
        exact ⟨inner, hresult, .log record h⟩
    | ask request rest ih =>
      cases h with
      | ask request time hothers h =>
        obtain ⟨inner, hresult, h⟩ := ih _ h
        exact ⟨inner, hresult, .ask request time hothers h⟩
  · rintro ⟨inner, rfl, h⟩
    induction h with
    | done value files => exact .done value files
    | fail fault files => exact .fail (g fault) files
    | log record h ih => exact .log record ih
    | ask request time hothers h ih => exact .ask request time hothers ih

end Program

end GladeGo
