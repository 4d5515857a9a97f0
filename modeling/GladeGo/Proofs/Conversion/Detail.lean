import GladeGo.Conversion.File
import GladeGo.Proofs.Files.Program
import GladeGo.Proofs.Run

/-! # What a conversion logs

No record of a conversion is a warning or an error. Whatever goes wrong is the result of the
conversion, and the records only tell how it came to that. So a log that shows warnings and errors
shows nothing of a conversion (`logsDetails_convertFile`). -/

namespace GladeGo

/-- Whether a record is less important than a warning. -/
def Record.IsDetail (record : Record) : Prop := Level.warn.rank < record.level.rank

/-! ### Logged computations -/

namespace Logged

variable {ε δ α β : Type} {x : Logged ε α}

/-- All records of a computation are details. -/
def LogsDetails (x : Logged ε α) : Prop := ∀ record ∈ x.records, record.IsDetail

theorem logsDetails_pure (a : α) : (pure a : Logged ε α).LogsDetails :=
  fun _ h => absurd h List.not_mem_nil

theorem logsDetails_liftM (x : Except ε α) : (liftM x : Logged ε α).LogsDetails :=
  fun _ h => absurd h List.not_mem_nil

theorem logsDetails_fail (fault : ε) : (fail fault : Logged ε α).LogsDetails :=
  fun _ h => absurd h List.not_mem_nil

theorem logsDetails_log {level : Level} (h : Level.warn.rank < level.rank) (topic : Topic)
    (message : String) : (log level topic message : Logged ε Unit).LogsDetails :=
  List.forall_mem_singleton.mpr h

theorem LogsDetails.bind {f : α → Logged ε β} (hx : x.LogsDetails)
    (hf : ∀ a, (f a).LogsDetails) : (x >>= f).LogsDetails := by
  cases h : x.result with
  | error fault =>
    rw [bind_error h]
    exact hx
  | ok a =>
    rw [bind_ok h]
    exact List.forall_mem_append.mpr ⟨hx, hf a⟩

theorem LogsDetails.mapFault (hx : x.LogsDetails) (f : ε → δ) : (x.mapFault f).LogsDetails := hx

theorem logsDetails_mapM {f : α → Logged ε β} (hf : ∀ a, (f a).LogsDetails) (as : List α) :
    (as.mapM f).LogsDetails := by
  induction as with
  | nil => exact logsDetails_pure []
  | cons a as ih =>
    rw [List.mapM_cons]
    exact (hf a).bind fun b => ih.bind fun bs => logsDetails_pure (b :: bs)

end Logged

open Logged

/-! ### Resolution -/

theorem logsDetails_evaluate (slot : Slot) (scope : Scope) : (slot.evaluate scope).LogsDetails := by
  cases slot with
  | fixed expression => exact logsDetails_pure expression
  | bound binding =>
    unfold Slot.evaluate Binding.evaluate
    dsimp only
    split
    · exact logsDetails_liftM _
    · refine (logsDetails_log (by decide) _ _).bind fun _ => ?_
      split
      · exact logsDetails_fail _
      · exact logsDetails_liftM _

theorem logsDetails_renderArguments (slots : List Slot) (scope : Scope) :
    (renderArguments slots scope).LogsDetails := by
  unfold renderArguments
  split
  · exact logsDetails_pure none
  · exact (logsDetails_mapM (fun slot => logsDetails_evaluate slot scope) slots).bind
      fun _ => logsDetails_pure _

theorem logsDetails_resolve (descriptor : Descriptor) (node : Node) :
    (descriptor.resolve node).LogsDetails := by
  have hwidget : ∀ (widget : WidgetClass) container, (widget.resolve container node).LogsDetails :=
    fun widget container => (logsDetails_renderArguments widget.arguments ⟨node, none⟩).bind
      fun _ => logsDetails_pure _
  cases descriptor with
  | widget w => exact hwidget w none
  | container c => exact hwidget c.toWidgetClass (some c)
  | custom c => exact logsDetails_liftM _

namespace Container

theorem logsDetails_attachObject (container : Container) (item object : Node) :
    (container.attachObject item object).LogsDetails := by
  unfold attachObject
  dsimp only
  split
  · refine (logsDetails_liftM _).bind fun call => ?_
    exact (logsDetails_log (by decide) _ _).bind fun _ => logsDetails_pure _
  · split
    · exact logsDetails_pure none
    · refine (logsDetails_liftM _).bind fun name => ?_
      refine (logsDetails_renderArguments _ _).bind fun extra => ?_
      exact (logsDetails_log (by decide) _ _).bind fun _ => logsDetails_pure _

theorem logsDetails_attachAll (container : Container) : container.attachAll.LogsDetails := by
  refine (logsDetails_liftM _).bind fun holders => ?_
  refine (logsDetails_mapM (fun item => ?_) holders).bind fun attached => logsDetails_pure _
  unfold attachItem
  dsimp only
  split
  · exact (logsDetails_mapM (container.logsDetails_attachObject item) item.objects).bind
      fun attached => logsDetails_pure _
  · exact logsDetails_fail _

end Container

theorem logsDetails_attachments (registry : Registry) (pending : Pending) (name : String)
    (widget : ResolvedWidget) : (attachments registry pending name widget).LogsDetails := by
  unfold attachments
  split
  · exact logsDetails_pure []
  · exact Container.logsDetails_attachAll _

theorem logsDetails_visit (registry : Registry) (plan : WindowPlan) (pending : Pending) :
    (visit registry plan pending).LogsDetails := by
  unfold visit
  dsimp only
  split
  · exact (logsDetails_log (by decide) _ _).bind fun _ => logsDetails_pure _
  · split
    · exact logsDetails_fail _
    · refine (logsDetails_resolve _ _).bind fun widget => ?_
      refine (logsDetails_liftM _).bind fun name => ?_
      split
      · exact logsDetails_fail _
      · refine (logsDetails_log (by decide) _ _).bind fun _ => ?_
        refine (logsDetails_liftM _).bind fun properties => ?_
        refine (logsDetails_liftM _).bind fun bindings => ?_
        exact (logsDetails_attachments registry pending name widget).bind
          fun attached => logsDetails_pure _

theorem logsDetails_walk (registry : Registry) (fresh : List Nat) (queue : List Pending)
    (plan : WindowPlan) : (walk registry fresh queue plan).LogsDetails := by
  fun_induction walk registry fresh queue plan with
  | case1 => exact logsDetails_pure _
  | case2 fresh plan pending queue hfresh ih =>
    exact (logsDetails_visit registry plan pending).bind fun (plan, found) => ih plan found
  | case3 => exact logsDetails_fail _

theorem logsDetails_resolveWindow (registry : Registry) (window : Node) :
    (resolveWindow registry window).LogsDetails := by
  unfold resolveWindow
  dsimp only
  split
  · exact logsDetails_fail _
  · split
    · exact logsDetails_fail _
    · refine (logsDetails_log (by decide) _ _).bind fun _ => ?_
      exact (logsDetails_liftM _).bind fun properties => logsDetails_walk _ _ _ _

theorem logsDetails_planWindows (text : String) : (planWindows text).LogsDetails := by
  refine (logsDetails_liftM _).bind fun document => LogsDetails.mapFault ?_ _
  unfold resolveDocument
  split
  · exact logsDetails_fail _
  · exact logsDetails_mapM (logsDetails_resolveWindow .wxgo) _
  · exact logsDetails_fail _

/-! ### Programs -/

namespace Program

variable {τ ε δ α β : Type} {p : Program τ ε α}

/-- All records of a program are details, whatever its requests are answered with. -/
def LogsDetails : Program τ ε α → Prop
  | .done _ => True
  | .fail _ => True
  | .log record rest => record.IsDetail ∧ rest.LogsDetails
  | .ask _ rest => ∀ answer, (rest answer).LogsDetails

theorem LogsDetails.bind {f : α → Program τ ε β} (hp : p.LogsDetails)
    (hf : ∀ a, (f a).LogsDetails) : (p >>= f).LogsDetails := by
  rw [bind_eq]
  induction p with
  | done value => exact hf value
  | fail fault => exact trivial
  | log record rest ih => exact ⟨hp.1, ih hp.2⟩
  | ask request rest ih => exact fun answer => ih answer (hp answer)

theorem LogsDetails.mapFault (hp : p.LogsDetails) (f : ε → δ) : (p.mapFault f).LogsDetails := by
  induction p with
  | done value => exact trivial
  | fail fault => exact trivial
  | log record rest ih => exact ⟨hp.1, ih hp.2⟩
  | ask request rest ih => exact fun answer => ih answer (hp answer)

theorem logsDetails_request (request : Request τ) :
    (Program.request request : Program τ ε request.Answer).LogsDetails :=
  fun _ => trivial

theorem logsDetails_record {level : Level} (h : Level.warn.rank < level.rank) (topic : Topic)
    (message : String) : (record level topic message : Program τ ε Unit).LogsDetails :=
  ⟨h, trivial⟩

theorem logsDetails_ofLogged {computed : Logged ε α} (h : computed.LogsDetails) :
    (ofLogged computed : Program τ ε α).LogsDetails := by
  obtain ⟨records, result⟩ := computed
  induction records with
  | nil => cases result <;> exact trivial
  | cons record records ih =>
    obtain ⟨hrecord, hrecords⟩ := List.forall_mem_cons.mp h
    exact ⟨hrecord, ih hrecords⟩

/-- What a run logs are details. -/
theorem LogsDetails.records_run {p : Program (List String) ε α} (hp : p.LogsDetails) (time : Int)
    (files : FileSystem) : ∀ record ∈ (p.run time files).records, record.IsDetail := by
  induction p generalizing files with
  | done value => exact fun _ h => absurd h List.not_mem_nil
  | fail fault => exact fun _ h => absurd h List.not_mem_nil
  | log record rest ih => exact List.forall_mem_cons.mpr ⟨hp.1, ih hp.2 files⟩
  | ask request rest ih => exact ih _ (hp _) _

end Program

theorem logsDetails_readText {τ : Type} (path : String) :
    (readText path : Program τ ConversionFailure String).LogsDetails := by
  refine (Program.logsDetails_request _).bind fun answer => ?_
  split
  · exact trivial
  · split <;> exact trivial

theorem logsDetails_writeText {τ : Type} (path text : String) (replace : Bool) :
    (writeText path text replace : Program τ ConversionFailure Unit).LogsDetails := by
  refine (Program.logsDetails_request _).bind fun answer => ?_
  split
  · exact trivial
  · refine (Program.logsDetails_request _).bind fun answer => ?_
    split
    · exact trivial
    · exact (Program.logsDetails_request _).bind fun _ => trivial

/-- **No record of a conversion is a warning or an error.** -/
theorem logsDetails_convertFile {τ : Type} (input output : String) (options : ConversionOptions)
    (replace : Bool) :
    (convertFile input output options replace : Program τ ConversionFailure Unit).LogsDetails := by
  refine (logsDetails_readText input).bind fun text => ?_
  refine (Program.logsDetails_request .now).bind fun time => ?_
  have hgenerate := (logsDetails_planWindows text).bind fun plans => logsDetails_pure
    (Go.sourceFile options.toFileOptions ⟨options.tool, FilePath.fileName input, time⟩ plans)
  refine (Program.logsDetails_ofLogged hgenerate).bind fun code => ?_
  exact (logsDetails_writeText output code replace).bind fun _ =>
    Program.logsDetails_record (by decide) _ _

end GladeGo
