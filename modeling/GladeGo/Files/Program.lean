import GladeGo.Files.System
import GladeGo.Log

/-! # Programs that work on files

A program is a tree of requests to the file system and the clock: what it does next depends on the
answer to each request. `Program.run` answers the requests from a file system; the command line
answers them from the one that the operating system has. -/

namespace GladeGo

/-- One request of a program. A temporary file is named by `τ`. -/
inductive Request (τ : Type) where
  | isFile (path : String)
  | isThere (path : String)
  | read (path : String)
  /-- The present time, in seconds since the start of 1970. -/
  | now
  /-- Writes a temporary file in a directory. -/
  | createTemporary (directory : String) (content : ByteArray)
  /-- Moves a temporary file to the end of a path. -/
  | persist (temporary : τ) (path : String) (replace : Bool)
  /-- Removes a temporary file. -/
  | discard (temporary : τ)

/-- What a request is answered with. -/
abbrev Request.Answer {τ : Type} : Request τ → Type
  | .isFile _ => Bool
  | .isThere _ => Bool
  | .read _ => Except FileFault ByteArray
  | .now => Int
  | .createTemporary _ _ => Except FileFault τ
  | .persist _ _ _ => Except FileFault Unit
  | .discard _ => Unit

/-- A program that makes log records, fails with an `ε`, or ends with an `α`. -/
inductive Program (τ ε α : Type) where
  | done (value : α)
  | fail (fault : ε)
  | log (record : Record) (rest : Program τ ε α)
  | ask (request : Request τ) (rest : request.Answer → Program τ ε α)

namespace Program

variable {τ ε α β : Type}

/-- Runs one program and then the one that its value selects. -/
def bind : Program τ ε α → (α → Program τ ε β) → Program τ ε β
  | .done value, f => f value
  | .fail fault, _ => .fail fault
  | .log record rest, f => .log record (rest.bind f)
  | .ask request rest, f => .ask request fun answer => (rest answer).bind f

instance : Monad (Program τ ε) where
  pure := .done
  bind := bind

theorem bind_eq (p : Program τ ε α) (f : α → Program τ ε β) : p >>= f = p.bind f := rfl

theorem bind_done (p : Program τ ε α) : p.bind .done = p := by
  induction p with
  | done value => rfl
  | fail fault => rfl
  | log record rest ih => simp only [bind, ih]
  | ask request rest ih => simp only [bind, ih]

theorem bind_bind {γ : Type} (p : Program τ ε α) (f : α → Program τ ε β) (g : β → Program τ ε γ) :
    (p.bind f).bind g = p.bind fun a => (f a).bind g := by
  induction p with
  | done value => rfl
  | fail fault => rfl
  | log record rest ih => simp only [bind, ih]
  | ask request rest ih => simp only [bind, ih]

instance : LawfulMonad (Program τ ε) :=
  LawfulMonad.mk' _ bind_done (fun _ _ => rfl) bind_bind

/-- The program that makes one request. -/
def request (request : Request τ) : Program τ ε request.Answer := .ask request .done

/-- The program that makes one record. -/
def record (level : Level) (topic : Topic) (message : String) : Program τ ε Unit :=
  .log ⟨level, topic, message⟩ (.done ())

/-- The program that ends as a result says. -/
def ofExcept : Except ε α → Program τ ε α
  | .ok value => .done value
  | .error fault => .fail fault

/-- The program that makes the records of a computation and ends as it does. -/
def ofLogged (computed : Logged ε α) : Program τ ε α :=
  computed.records.foldr .log (ofExcept computed.result)

/-- Changes what a failure is. -/
def mapFault {δ : Type} (f : ε → δ) : Program τ ε α → Program τ δ α
  | .done value => .done value
  | .fail fault => .fail (f fault)
  | .log record rest => .log record (rest.mapFault f)
  | .ask request rest => .ask request fun answer => (rest answer).mapFault f

end Program

/-- Answers a request from a file system at a moment. Returns the file system afterwards. -/
def Request.perform (time : Int) (files : FileSystem) :
    (request : Request (List String)) → request.Answer × FileSystem
  | .isFile path => (files.isFile path, files)
  | .isThere path => (files.isThere path, files)
  | .read path => (files.read path, files)
  | .now => (time, files)
  | .createTemporary directory content =>
    match files.createFresh directory content with
    | .ok (location, files) => (.ok location, files)
    | .error fault => (.error fault, files)
  | .persist temporary path replace =>
    match files.move temporary path replace with
    | .ok files => (.ok (), files)
    | .error fault => (.error fault, files)
  | .discard temporary => ((), files.erase temporary)

/-- How a program ends: what it logged, its result, and the file system it leaves. -/
structure Outcome (ε α : Type) where
  records : List Record
  result : Except ε α
  files : FileSystem

/-- Runs a program on a file system. Its clock stands still. -/
def Program.run {ε α : Type} (time : Int) (files : FileSystem) :
    Program (List String) ε α → Outcome ε α
  | .done value => ⟨[], .ok value, files⟩
  | .fail fault => ⟨[], .error fault, files⟩
  | .log record rest =>
    let outcome := rest.run time files
    { outcome with records := record :: outcome.records }
  | .ask request rest =>
    let (answer, files) := request.perform time files
    (rest answer).run time files

/-- The outcome of going on after another one: a failure stays, and a value selects what follows. -/
def Outcome.andThen {ε α β : Type} (first : Outcome ε α) (next : α → FileSystem → Outcome ε β) :
    Outcome ε β :=
  match first.result with
  | .error fault => ⟨first.records, .error fault, first.files⟩
  | .ok value =>
    let last := next value first.files
    { last with records := first.records ++ last.records }

theorem Program.run_bind {ε α β : Type} (time : Int) (p : Program (List String) ε α)
    (f : α → Program (List String) ε β) (files : FileSystem) :
    (p >>= f).run time files =
      (p.run time files).andThen fun value files => (f value).run time files := by
  rw [Program.bind_eq]
  induction p generalizing files with
  | done value => rfl
  | fail fault => rfl
  | log record rest ih =>
    simp only [Program.bind, Program.run, ih, Outcome.andThen]
    split <;> simp
  | ask request rest ih => simp only [Program.bind, Program.run, ih]

end GladeGo
