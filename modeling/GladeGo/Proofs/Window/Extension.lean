import GladeGo.Proofs.Window.Resolution

/-! # Registries with one more class

A class that is registered under a new base changes nothing for documents that do not need it. Over
the smaller and the larger registry the same is done, step by step, until the smaller one is asked
for that base (`Keeps`); an object with this base is then what the smaller registry fails on. -/

namespace GladeGo

/-! ### What is registered -/

/-- The registry `larger` has one more class than `registry`, with the base `base`. -/
structure Registry.Extends (larger registry : Registry) (base : String) : Prop where
  ignored : larger.ignored = registry.ignored
  spacer : larger.spacer = registry.spacer
  descriptor : ∀ other, larger.descriptor? other = registry.descriptor? other ∨
    other = base ∧ registry.descriptor? other = none
  window : ∀ other, larger.window? other = registry.window? other ∨
    other = base ∧ registry.window? other = none

/-- A member at the end of a list is found only if nothing before it is. -/
theorem find?_append_singleton {α : Type} {p : α → Bool} (as : List α) (a : α) :
    (as ++ [a]).find? p = as.find? p ∨ p a = true ∧ as.find? p = none := by
  rw [List.find?_append]
  cases as.find? p with
  | some b => exact Or.inl rfl
  | none =>
    cases hp : p a with
    | false => exact Or.inl (by simp [hp])
    | true => exact Or.inr ⟨rfl, rfl⟩

theorem Registry.extends_of_register {larger registry : Registry} {descriptor : Descriptor}
    (h : registry.register descriptor = .ok larger) :
    larger.Extends registry descriptor.base := by
  unfold Registry.register at h
  split at h
  · cases h
  · cases h
    refine ⟨rfl, rfl, fun other => ?_, fun other => Or.inl rfl⟩
    refine (find?_append_singleton registry.descriptors descriptor).imp_right fun ⟨hbase, hnone⟩ => ?_
    exact ⟨(beq_iff_eq.mp hbase).symm, hnone⟩

theorem Registry.extends_of_registerWindow {larger registry : Registry} {window : WindowClass}
    (h : registry.registerWindow window = .ok larger) : larger.Extends registry window.base := by
  unfold Registry.registerWindow at h
  split at h
  · cases h
  · cases h
    refine ⟨rfl, rfl, fun other => Or.inl rfl, fun other => ?_⟩
    refine (find?_append_singleton registry.windows window).imp_right fun ⟨hbase, hnone⟩ => ?_
    exact ⟨(beq_iff_eq.mp hbase).symm, hnone⟩

/-! ### Computations in lockstep -/

/-- The second computation reports and returns what the first one does, unless the first one fails
as it knows no class with the base `base`. -/
def Keeps {α : Type} (base : String) (x y : Logged ResolutionFault α) : Prop :=
  y = x ∨ ∃ className name, x.result = .error (.unknownWidget base className name)

section Keeps
variable {α β : Type} {base : String}

theorem keeps_of_eq {x y : Logged ResolutionFault α} (h : y = x) : Keeps base x y := Or.inl h

theorem Keeps.result_eq_ok {x y : Logged ResolutionFault α} {a : α} (h : Keeps base x y)
    (hx : x.result = .ok a) : y.result = .ok a := by
  rcases h with rfl | ⟨className, name, hfault⟩
  · exact hx
  · rw [hx] at hfault
    cases hfault

theorem Keeps.bind {x y : Logged ResolutionFault α} {f g : α → Logged ResolutionFault β}
    (hxy : Keeps base x y) (hfg : ∀ a, Keeps base (f a) (g a)) :
    Keeps base (x >>= f) (y >>= g) := by
  rcases hxy with rfl | ⟨className, name, hfault⟩
  · cases hy : y.result with
    | error fault => exact Or.inl (by rw [Logged.bind_error hy, Logged.bind_error hy])
    | ok a =>
      rw [Logged.bind_ok hy, Logged.bind_ok hy]
      rcases hfg a with hsame | hfault
      · exact Or.inl (by rw [hsame])
      · exact Or.inr hfault
  · exact Or.inr ⟨className, name, by rw [Logged.bind_error hfault]⟩

theorem keeps_mapM {f g : α → Logged ResolutionFault β} (hfg : ∀ a, Keeps base (f a) (g a))
    (as : List α) : Keeps base (as.mapM f) (as.mapM g) := by
  induction as with
  | nil => exact keeps_of_eq rfl
  | cons a as ih =>
    rw [List.mapM_cons, List.mapM_cons]
    exact (hfg a).bind fun b => ih.bind fun bs => keeps_of_eq rfl

end Keeps

/-! ### Windows -/

section Extends
variable {larger registry : Registry} {base : String} (h : larger.Extends registry base)
include h

theorem isIgnored_of_extends (other : String) :
    larger.isIgnored other = registry.isIgnored other := by
  rw [Registry.isIgnored, Registry.isIgnored, h.ignored]

theorem isSpacer_of_extends (other : String) : larger.isSpacer other = registry.isSpacer other := by
  rw [Registry.isSpacer, Registry.isSpacer, h.spacer]

/-- A container looks no class up: it attaches its objects in the same way. -/
theorem attachments_of_extends (pending : Pending) (name : String) (widget : ResolvedWidget) :
    attachments larger pending name widget = attachments registry pending name widget := by
  unfold attachments
  cases widget.container with
  | none => rfl
  | some rules =>
    have hobject : ∀ childParent item object,
        Container.attachObject ⟨larger, pending.node, name, rules, childParent⟩ item object =
          Container.attachObject ⟨registry, pending.node, name, rules, childParent⟩ item object := by
      intro childParent item object
      unfold Container.attachObject
      dsimp only
      rw [isSpacer_of_extends h, isIgnored_of_extends h]
      rfl
    dsimp only
    unfold Container.attachAll Container.attachItem
    simp only [hobject]
    rfl

theorem keeps_visit (plan : WindowPlan) (pending : Pending) :
    Keeps base (visit registry plan pending) (visit larger plan pending) := by
  unfold visit
  dsimp only
  simp only [isIgnored_of_extends h, attachments_of_extends h]
  split
  · exact keeps_of_eq rfl
  · rcases h.descriptor pending.node.base with hsame | ⟨rfl, hnone⟩
    · rw [hsame]
      exact keeps_of_eq rfl
    · rw [hnone]
      exact Or.inr ⟨_, _, rfl⟩

/-- **The walks do the same** up to the first object whose class only the larger registry has. -/
theorem keeps_walk (fresh : List Nat) (queue : List Pending) (plan : WindowPlan) :
    Keeps base (walk registry fresh queue plan) (walk larger fresh queue plan) := by
  fun_induction walk registry fresh queue plan with
  | case1 fresh plan =>
    rw [walk]
    exact keeps_of_eq rfl
  | case2 fresh plan pending queue hfresh ih =>
    rw [walk, dif_pos hfresh]
    refine (keeps_visit h plan pending).bind fun visited => ?_
    obtain ⟨plan, found⟩ := visited
    exact ih plan found
  | case3 fresh plan pending queue hfresh =>
    rw [walk, dif_neg hfresh]
    exact keeps_of_eq rfl

theorem keeps_resolveWindow (window : Node) :
    Keeps base (resolveWindow registry window) (resolveWindow larger window) := by
  unfold resolveWindow
  dsimp only
  split
  · exact keeps_of_eq rfl
  · rcases h.window window.base with hsame | ⟨rfl, hnone⟩
    · rw [hsame]
      cases registry.window? window.base with
      | none => exact keeps_of_eq rfl
      | some windowClass =>
        refine (keeps_of_eq rfl).bind fun _ => (keeps_of_eq rfl).bind fun properties => ?_
        exact keeps_walk h _ _ _
    · rw [hnone]
      exact Or.inr ⟨_, _, rfl⟩

theorem keeps_resolveDocument (document : Document) :
    Keeps base (resolveDocument registry document) (resolveDocument larger document) := by
  unfold resolveDocument
  split
  · exact keeps_of_eq rfl
  · exact keeps_mapM (keeps_resolveWindow h) _
  · exact keeps_of_eq rfl

end Extends

/-- **A new class changes nothing for documents that do not need it.** A class with a base under
which neither a widget nor a window is registered can be registered. Afterwards every document has
the same plans or the same fault as before, and the same log, unless the fault was that nothing is
registered under this base. So a document that has plans keeps them. -/
theorem resolveDocument_of_register (registry : Registry) :
    (∀ descriptor : Descriptor, registry.knows descriptor.base = false →
      ∃ larger, registry.register descriptor = .ok larger ∧ ∀ document : Document,
        Keeps descriptor.base (resolveDocument registry document)
          (resolveDocument larger document) ∧
        ∀ plans, (resolveDocument registry document).result = .ok plans →
          (resolveDocument larger document).result = .ok plans) ∧
    (∀ window : WindowClass, registry.knows window.base = false →
      ∃ larger, registry.registerWindow window = .ok larger ∧ ∀ document : Document,
        Keeps window.base (resolveDocument registry document) (resolveDocument larger document) ∧
        ∀ plans, (resolveDocument registry document).result = .ok plans →
          (resolveDocument larger document).result = .ok plans) := by
  constructor
  · intro descriptor hnew
    have hregister : registry.register descriptor =
        .ok { registry with descriptors := registry.descriptors ++ [descriptor] } := by
      rw [Registry.register, hnew]
      rfl
    refine ⟨_, hregister, fun document => ?_⟩
    have hkeeps := keeps_resolveDocument (Registry.extends_of_register hregister) document
    exact ⟨hkeeps, fun plans => hkeeps.result_eq_ok⟩
  · intro window hnew
    have hregister : registry.registerWindow window =
        .ok { registry with windows := registry.windows ++ [window] } := by
      rw [Registry.registerWindow, hnew]
      rfl
    refine ⟨_, hregister, fun document => ?_⟩
    have hkeeps := keeps_resolveDocument (Registry.extends_of_registerWindow hregister) document
    exact ⟨hkeeps, fun plans => hkeeps.result_eq_ok⟩

theorem resolveDocument_of_register_wxgo : ∃ plans,
    (resolveDocument .wxgo sampleDocument).result = .ok plans ∧
    (∃ larger, Registry.wxgo.register (.widget (wxWidget "Gauge" [])) = .ok larger ∧
      (resolveDocument larger sampleDocument).result = .ok plans) ∧
    ∃ larger, Registry.wxgo.registerWindow (wxWindow "Wizard") = .ok larger ∧
      (resolveDocument larger sampleDocument).result = .ok plans := by
  have hsome : (resolveDocument .wxgo sampleDocument).result.toOption.isSome = true := by
    decide +kernel
  obtain ⟨plans, hplans⟩ := Option.isSome_iff_exists.mp hsome
  have hplans := eq_ok_of_toOption hplans
  obtain ⟨withGauge, hgauge, hsame⟩ := (resolveDocument_of_register .wxgo).1
    (.widget (wxWidget "Gauge" [])) (by decide +kernel)
  obtain ⟨withWizard, hwizard, hsame'⟩ := (resolveDocument_of_register .wxgo).2
    (wxWindow "Wizard") (by decide +kernel)
  exact ⟨plans, hplans, ⟨withGauge, hgauge, (hsame sampleDocument).2 plans hplans⟩,
    withWizard, hwizard, (hsame' sampleDocument).2 plans hplans⟩

end GladeGo
