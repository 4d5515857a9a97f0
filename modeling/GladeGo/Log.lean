import GladeGo.Text.ControlSequence

/-! # Logged computations

A computation that reports what it does, and may fail. The records made before a failure are kept.
`records` and `result` say what a composed computation reports and returns. -/

namespace GladeGo

/-- How important a record is, the most important first. -/
inductive Level where
  | error
  | warn
  | info
  | debug
  | trace
  deriving Repr, DecidableEq

/-- The name of a level. -/
def Level.name : Level → String
  | .error => "ERROR"
  | .warn => "WARN"
  | .info => "INFO"
  | .debug => "DEBUG"
  | .trace => "TRACE"

/-- The place of a level, counted from the most important one. -/
def Level.rank : Level → Nat
  | .error => 1
  | .warn => 2
  | .info => 3
  | .debug => 4
  | .trace => 5

/-- The part of the program that makes a record. -/
inductive Topic where
  | setup
  | command
  | conversion
  | resolution
  | binding
  deriving Repr, DecidableEq

/-- The name of a topic in log lines. -/
def Topic.name : Topic → String
  | .setup => "wxg_to_go::logging"
  | .command => "wxg_to_go"
  | .conversion => "wxg_codegen::convert"
  | .resolution => "wxg_codegen::resolve"
  | .binding => "wxg_codegen::registry::descriptor"

/-- One record of a log. -/
structure Record where
  level : Level
  topic : Topic
  message : String
  deriving Repr, DecidableEq

/-- A text with its lines after the first one indented. -/
def indentLines (s : String) : String :=
  String.ofList (s.toList.flatMap fun c => if c = '\n' then "\n    ".toList else [c])

/-- The line that shows a record, as a terminal would show it. The message may break it into several
lines. -/
def Record.line (record : Record) : String :=
  let level := record.level.name
  let padding := String.ofList (List.replicate (5 - level.length) ' ')
  Text.withoutControls ("[" ++ level ++ padding ++ " " ++ record.topic.name ++ "] " ++
    indentLines record.message ++ "\n")

/-- A result, or a failure, and the records made on the way. -/
structure Logged (ε α : Type) where
  records : List Record
  result : Except ε α

namespace Logged

variable {ε α β : Type}

/-- Runs `f` on the result, if there is one, and keeps the records of both. -/
def bind (x : Logged ε α) (f : α → Logged ε β) : Logged ε β :=
  match x.result with
  | .error fault => ⟨x.records, .error fault⟩
  | .ok a =>
    match f a with
    | ⟨records, result⟩ => ⟨x.records ++ records, result⟩

instance : Monad (Logged ε) where
  pure a := ⟨[], .ok a⟩
  bind := bind

instance : MonadLift (Except ε) (Logged ε) where
  monadLift x := ⟨[], x⟩

/-- Fails without a record. -/
def fail (fault : ε) : Logged ε α := ⟨[], .error fault⟩

/-- Makes one record. -/
def log (level : Level) (topic : Topic) (message : String) : Logged ε Unit :=
  ⟨[⟨level, topic, message⟩], .ok ()⟩

/-- Changes what a failure is. -/
def mapFault {δ : Type} (f : ε → δ) (x : Logged ε α) : Logged δ α :=
  ⟨x.records, x.result.mapError f⟩

@[ext] theorem ext {x y : Logged ε α} (hrecords : x.records = y.records)
    (hresult : x.result = y.result) : x = y := by
  cases x; cases y; simp_all

theorem bind_error {x : Logged ε α} {fault : ε} (h : x.result = .error fault)
    (f : α → Logged ε β) : x >>= f = ⟨x.records, .error fault⟩ := by
  show bind x f = _
  simp only [bind, h]

theorem bind_ok {x : Logged ε α} {a : α} (h : x.result = .ok a) (f : α → Logged ε β) :
    x >>= f = ⟨x.records ++ (f a).records, (f a).result⟩ := by
  show bind x f = _
  simp only [bind, h]

theorem pure_eq (a : α) : (pure a : Logged ε α) = ⟨[], .ok a⟩ := rfl

theorem bind_pure (x : Logged ε α) : x >>= pure = x := by
  cases h : x.result with
  | error fault => rw [bind_error h]; exact ext rfl h.symm
  | ok a => rw [bind_ok h]; exact ext (List.append_nil _) h.symm

theorem pure_bind (a : α) (f : α → Logged ε β) : pure a >>= f = f a := by
  rw [pure_eq, bind_ok rfl]; rfl

theorem bind_assoc {γ : Type} (x : Logged ε α) (f : α → Logged ε β) (g : β → Logged ε γ) :
    x >>= f >>= g = x >>= fun a => f a >>= g := by
  cases h : x.result with
  | error fault => rw [bind_error h, bind_error h, bind_error rfl]
  | ok a =>
    rw [bind_ok h, bind_ok h]
    cases ha : (f a).result with
    | error fault => rw [bind_error rfl, bind_error ha]
    | ok b => rw [bind_ok rfl, bind_ok ha]; simp

instance : LawfulMonad (Logged ε) := LawfulMonad.mk' _ bind_pure pure_bind bind_assoc

@[simp] theorem result_pure (a : α) : (pure a : Logged ε α).result = .ok a := rfl

@[simp] theorem result_bind (x : Logged ε α) (f : α → Logged ε β) :
    (x >>= f).result = x.result >>= fun a => (f a).result := by
  show (bind x f).result = _
  unfold bind
  cases x.result <;> rfl

@[simp] theorem result_liftM (x : Except ε α) : (liftM x : Logged ε α).result = x := rfl

@[simp] theorem result_fail (fault : ε) : (fail fault : Logged ε α).result = .error fault := rfl

@[simp] theorem result_log (level : Level) (topic : Topic) (message : String) :
    (log level topic message : Logged ε Unit).result = .ok () := rfl

end Logged

end GladeGo
