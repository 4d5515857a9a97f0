import GladeGo.Widget.WxGo
import Mathlib.Data.List.Nodup

/-! # Registries over their history

A registry is made by changes, one after the other. A registration under a base that is taken is
refused, and the registry stays as it was. Whatever the history, no base is taken twice
(`consistent_ofHistory`), what is known stays known (`growsTo_afterAll`), and the descriptors are
those of the registrations that were not refused (`descriptors_afterAll`). -/

namespace GladeGo

/-- A change to a registry. -/
inductive RegistryChange where
  | register (descriptor : Descriptor)
  | registerWindow (window : WindowClass)
  | ignore (base : String)
  | setSpacer (base : String)
  deriving Repr, DecidableEq

namespace Registry

variable {registry later : Registry} {base : String}

/-! ### Histories -/

/-- Makes a change, unless it is a registration that is refused. -/
def perform (registry : Registry) : RegistryChange → Except RegistrationFault Registry
  | .register descriptor => registry.register descriptor
  | .registerWindow window => registry.registerWindow window
  | .ignore base => .ok (registry.ignore base)
  | .setSpacer base => .ok (registry.setSpacer base)

/-- The registry after a change. It is the same one if the change is refused. -/
def after (registry : Registry) (change : RegistryChange) : Registry :=
  match registry.perform change with
  | .ok changed => changed
  | .error _ => registry

def afterAll (registry : Registry) (changes : List RegistryChange) : Registry :=
  changes.foldl after registry

/-- The registry that a history has made of the empty one. -/
def ofHistory (history : List RegistryChange) : Registry := empty.afterAll history

/-- The descriptor that a change registers. -/
def registered? (registry : Registry) : RegistryChange → Option Descriptor
  | .register descriptor =>
    match registry.register descriptor with
    | .ok _ => some descriptor
    | .error _ => none
  | _ => none

/-- The descriptors that changes register, one after the other. -/
def registeredBy (registry : Registry) : List RegistryChange → List Descriptor
  | [] => []
  | change :: changes =>
    (registry.registered? change).toList ++ (registry.after change).registeredBy changes

/-! ### Lookups -/

/-- The bases that are taken, by descriptors and by windows. -/
def takenBases (registry : Registry) : List String :=
  registry.bases ++ registry.windows.map WindowClass.base

theorem descriptor?_eq_none_iff : registry.descriptor? base = none ↔ base ∉ registry.bases := by
  simp [descriptor?, bases, List.find?_eq_none]

theorem window?_eq_none_iff :
    registry.window? base = none ↔ base ∉ registry.windows.map WindowClass.base := by
  simp [window?, List.find?_eq_none]

theorem knows_iff : registry.knows base = true ↔
    registry.descriptor? base ≠ none ∨ registry.window? base ≠ none := by
  simp [knows, Option.isSome_iff_ne_none]

theorem knows_iff_mem : registry.knows base = true ↔ base ∈ registry.takenBases := by
  rw [knows_iff, Ne, Ne, descriptor?_eq_none_iff, window?_eq_none_iff, takenBases,
    List.mem_append, not_not, not_not]

theorem register_eq_error_iff {descriptor : Descriptor} {fault : RegistrationFault} :
    registry.register descriptor = .error fault ↔
      fault = .descriptorTwice descriptor.base ∧ registry.knows descriptor.base = true := by
  rw [register]
  by_cases hknown : registry.knows descriptor.base = true
  · rw [if_pos hknown, Except.error.injEq, and_iff_left hknown]
    exact eq_comm
  · simp [hknown]

theorem registerWindow_eq_error_iff {window : WindowClass} {fault : RegistrationFault} :
    registry.registerWindow window = .error fault ↔
      fault = .windowTwice window.base ∧ registry.knows window.base = true := by
  rw [registerWindow]
  by_cases hknown : registry.knows window.base = true
  · rw [if_pos hknown, Except.error.injEq, and_iff_left hknown]
    exact eq_comm
  · simp [hknown]

theorem mem_ignore {other : String} :
    other ∈ (registry.ignore base).ignored ↔ other = base ∨ other ∈ registry.ignored := by
  rw [ignore, putBy]
  split
  · rename_i hthere
    have hmem : base ∈ registry.ignored := by simpa using hthere
    have hsame : (registry.ignored.map fun b => if id b == id base then base else b) =
        registry.ignored := by
      refine List.map_id'' (fun b => ?_) _
      split
      · rename_i hbase
        exact (beq_iff_eq.mp hbase).symm
      · rfl
    rw [hsame]
    exact ⟨Or.inr, fun h => h.elim (fun heq => heq ▸ hmem) id⟩
  · simp [or_comm]

/-! ### One change -/

/-- What a change makes of a registry. -/
inductive ChangesTo (registry : Registry) : Registry → Prop
  | refused : ChangesTo registry registry
  | registered {descriptor : Descriptor} (hnew : descriptor.base ∉ registry.takenBases) :
      ChangesTo registry { registry with descriptors := registry.descriptors ++ [descriptor] }
  | windowRegistered {window : WindowClass} (hnew : window.base ∉ registry.takenBases) :
      ChangesTo registry { registry with windows := registry.windows ++ [window] }
  | ignored (base : String) : ChangesTo registry (registry.ignore base)
  | spacerSet (base : String) : ChangesTo registry (registry.setSpacer base)

theorem changesTo_after (registry : Registry) (change : RegistryChange) :
    registry.ChangesTo (registry.after change) := by
  cases change with
  | register descriptor =>
    by_cases hknown : registry.knows descriptor.base = true
    · simp only [after, perform, register, if_pos hknown]
      exact .refused
    · simp only [after, perform, register, if_neg hknown]
      exact .registered (knows_iff_mem.not.mp hknown)
  | registerWindow window =>
    by_cases hknown : registry.knows window.base = true
    · simp only [after, perform, registerWindow, if_pos hknown]
      exact .refused
    · simp only [after, perform, registerWindow, if_neg hknown]
      exact .windowRegistered (knows_iff_mem.not.mp hknown)
  | ignore base => exact .ignored base
  | setSpacer base => exact .spacerSet base

theorem descriptors_after (registry : Registry) (change : RegistryChange) :
    (registry.after change).descriptors =
      registry.descriptors ++ (registry.registered? change).toList := by
  cases change with
  | register descriptor =>
    by_cases hknown : registry.knows descriptor.base = true
    · simp [after, perform, registered?, register, hknown]
    · simp [after, perform, registered?, register, hknown]
  | registerWindow window =>
    by_cases hknown : registry.knows window.base = true
    · simp [after, perform, registered?, registerWindow, hknown]
    · simp [after, perform, registered?, registerWindow, hknown]
  | ignore base => simp [after, perform, registered?, ignore]
  | setSpacer base => simp [after, perform, registered?, setSpacer, ignore]

/-! ### Consistency -/

/-- No base is taken twice, and the spacers are among the objects that are passed over. -/
structure Consistent (registry : Registry) : Prop where
  nodup : registry.takenBases.Nodup
  spacer_ignored : ∀ base, registry.spacer = some base → base ∈ registry.ignored

theorem consistent_empty : empty.Consistent := ⟨List.nodup_nil, fun _ h => nomatch h⟩

theorem Consistent.changesTo (h : registry.Consistent) (hchange : registry.ChangesTo later) :
    later.Consistent := by
  obtain ⟨hnodup, hspacer⟩ := h
  cases hchange with
  | refused => exact ⟨hnodup, hspacer⟩
  | registered hnew =>
    refine ⟨?_, hspacer⟩
    simp only [takenBases, bases, List.map_append, List.map_cons, List.map_nil, List.append_assoc,
      List.singleton_append]
    exact List.nodup_middle.mpr (List.nodup_cons.mpr ⟨hnew, hnodup⟩)
  | windowRegistered hnew =>
    refine ⟨?_, hspacer⟩
    simp only [takenBases, bases, List.map_append, List.map_cons, List.map_nil,
      ← List.append_assoc]
    exact List.nodup_append.mpr ⟨hnodup, List.nodup_singleton _, fun taken htaken base hbase heq =>
      hnew (List.mem_singleton.mp hbase ▸ heq ▸ htaken)⟩
  | ignored base =>
    exact ⟨hnodup, fun other hother => mem_ignore.mpr (.inr (hspacer other hother))⟩
  | spacerSet base =>
    exact ⟨hnodup, fun other hother => mem_ignore.mpr (.inl (Option.some.inj hother).symm)⟩

theorem Consistent.afterAll (h : registry.Consistent) (changes : List RegistryChange) :
    (registry.afterAll changes).Consistent := by
  induction changes generalizing registry with
  | nil => exact h
  | cons change changes ih => exact ih (h.changesTo (registry.changesTo_after change))

/-- **No base is taken twice**, whatever the history. -/
theorem consistent_ofHistory (history : List RegistryChange) : (ofHistory history).Consistent :=
  consistent_empty.afterAll history

theorem Consistent.unambiguous (h : registry.Consistent) (base : String) :
    registry.descriptor? base = none ∨ registry.window? base = none := by
  rw [descriptor?_eq_none_iff, window?_eq_none_iff, ← not_and_or]
  rintro ⟨hdescriptor, hwindow⟩
  exact (List.nodup_append.mp h.nodup).2.2 base hdescriptor base hwindow rfl

/-- A lookup finds the descriptor that is registered under a base. -/
theorem Consistent.descriptor?_eq_some_iff (h : registry.Consistent) {descriptor : Descriptor} :
    registry.descriptor? base = some descriptor ↔
      descriptor ∈ registry.descriptors ∧ descriptor.base = base := by
  have hnodup : registry.bases.Nodup := (List.nodup_append.mp h.nodup).1
  constructor
  · intro hfound
    exact ⟨List.mem_of_find?_eq_some hfound, by simpa using List.find?_some hfound⟩
  · rintro ⟨hmem, rfl⟩
    obtain ⟨found, hfound⟩ : ∃ found, registry.descriptor? descriptor.base = some found := by
      refine Option.ne_none_iff_exists'.mp fun hnone => ?_
      exact descriptor?_eq_none_iff.mp hnone (List.mem_map_of_mem hmem)
    have hsame : found.base = descriptor.base := by simpa using List.find?_some hfound
    rw [hfound, List.inj_on_of_nodup_map hnodup (List.mem_of_find?_eq_some hfound) hmem hsame]

/-! ### Growth -/

/-- What is known in one registry is known in the other. -/
structure GrowsTo (registry later : Registry) : Prop where
  descriptors : registry.descriptors <+: later.descriptors
  windows : registry.windows <+: later.windows
  ignored : registry.ignored ⊆ later.ignored

theorem GrowsTo.refl (registry : Registry) : registry.GrowsTo registry :=
  ⟨List.prefix_rfl, List.prefix_rfl, List.Subset.refl _⟩

theorem GrowsTo.trans {middle : Registry} (h : registry.GrowsTo middle)
    (h' : middle.GrowsTo later) : registry.GrowsTo later :=
  ⟨h.descriptors.trans h'.descriptors, h.windows.trans h'.windows,
    List.Subset.trans h.ignored h'.ignored⟩

theorem ChangesTo.growsTo (h : registry.ChangesTo later) : registry.GrowsTo later := by
  have hignore : ∀ base, registry.ignored ⊆ (registry.ignore base).ignored :=
    fun base other hother => mem_ignore.mpr (.inr hother)
  cases h with
  | refused => exact .refl registry
  | registered => exact ⟨List.prefix_append _ _, List.prefix_rfl, List.Subset.refl _⟩
  | windowRegistered => exact ⟨List.prefix_rfl, List.prefix_append _ _, List.Subset.refl _⟩
  | ignored base => exact ⟨List.prefix_rfl, List.prefix_rfl, hignore base⟩
  | spacerSet base => exact ⟨List.prefix_rfl, List.prefix_rfl, hignore base⟩

/-- **What is known stays known.** -/
theorem growsTo_afterAll (registry : Registry) (changes : List RegistryChange) :
    registry.GrowsTo (registry.afterAll changes) := by
  induction changes generalizing registry with
  | nil => exact .refl registry
  | cons change changes ih => exact (registry.changesTo_after change).growsTo.trans (ih _)

theorem GrowsTo.descriptor? (h : registry.GrowsTo later) {descriptor : Descriptor}
    (hfound : registry.descriptor? base = some descriptor) :
    later.descriptor? base = some descriptor :=
  h.descriptors.find?_eq_some hfound

theorem GrowsTo.window? (h : registry.GrowsTo later) {window : WindowClass}
    (hfound : registry.window? base = some window) : later.window? base = some window :=
  h.windows.find?_eq_some hfound

/-- **The descriptors of a registry** are those that its history has registered, in their order. -/
theorem descriptors_afterAll (registry : Registry) (changes : List RegistryChange) :
    (registry.afterAll changes).descriptors =
      registry.descriptors ++ registry.registeredBy changes := by
  induction changes generalizing registry with
  | nil => exact (List.append_nil _).symm
  | cons change changes ih =>
    rw [afterAll, List.foldl_cons, ← afterAll, ih, descriptors_after, registeredBy,
      List.append_assoc]

theorem descriptors_ofHistory (history : List RegistryChange) :
    (ofHistory history).descriptors = empty.registeredBy history :=
  (descriptors_afterAll empty history).trans (List.nil_append _)

/-! ### Histories of registries -/

/-- **Registries over their history.** A lookup finds the descriptor that the history has registered
under a base, and no base is one of a window as well. A registration is refused exactly if its base
is taken by either. Once a class is found under a base it is found there after any further changes.
The bases are those of the registrations that were not refused, in their order and without
repetition. Spacers are passed over, and what is passed over stays so. -/
theorem invariants_of_history (history further : List RegistryChange) :
    (∀ base descriptor, (ofHistory history).descriptor? base = some descriptor ↔
      descriptor ∈ empty.registeredBy history ∧ descriptor.base = base) ∧
    (∀ base, (ofHistory history).descriptor? base = none ∨
      (ofHistory history).window? base = none) ∧
    (∀ descriptor fault, (ofHistory history).register descriptor = .error fault ↔
      fault = .descriptorTwice descriptor.base ∧
        ((ofHistory history).descriptor? descriptor.base ≠ none ∨
          (ofHistory history).window? descriptor.base ≠ none)) ∧
    (∀ window fault, (ofHistory history).registerWindow window = .error fault ↔
      fault = .windowTwice window.base ∧
        ((ofHistory history).descriptor? window.base ≠ none ∨
          (ofHistory history).window? window.base ≠ none)) ∧
    (∀ base descriptor, (ofHistory history).descriptor? base = some descriptor →
      (ofHistory (history ++ further)).descriptor? base = some descriptor) ∧
    (∀ base window, (ofHistory history).window? base = some window →
      (ofHistory (history ++ further)).window? base = some window) ∧
    (ofHistory history).size = (empty.registeredBy history).length ∧
    (ofHistory history).bases = (empty.registeredBy history).map Descriptor.base ∧
    (ofHistory history).bases.Nodup ∧
    (∀ base, (ofHistory history).isSpacer base = true →
      (ofHistory history).isIgnored base = true) ∧
    ∀ base, (ofHistory history).isIgnored base = true →
      (ofHistory (history ++ further)).isIgnored base = true := by
  have hconsistent := consistent_ofHistory history
  have hgrows : (ofHistory history).GrowsTo (ofHistory (history ++ further)) := by
    rw [ofHistory, ofHistory, afterAll, afterAll, List.foldl_append]
    exact growsTo_afterAll _ further
  refine ⟨fun base descriptor => ?_, hconsistent.unambiguous, fun descriptor fault => ?_,
    fun window fault => ?_, fun _ _ => hgrows.descriptor?, fun _ _ => hgrows.window?, ?_, ?_,
    (List.nodup_append.mp hconsistent.nodup).1, fun base hspacer => ?_, fun base hignored => ?_⟩
  · rw [hconsistent.descriptor?_eq_some_iff, descriptors_ofHistory]
  · rw [register_eq_error_iff, knows_iff]
  · rw [registerWindow_eq_error_iff, knows_iff]
  · rw [size, descriptors_ofHistory]
  · rw [bases, descriptors_ofHistory]
  · exact List.contains_iff_mem.mpr (hconsistent.spacer_ignored base (beq_iff_eq.mp hspacer))
  · exact List.contains_iff_mem.mpr (hgrows.ignored (List.contains_iff_mem.mp hignored))

/-- A history in which two registrations are refused and the base of spacers is changed. -/
def contestedHistory : List RegistryChange := [
  .register (.container panel),
  .registerWindow (wxWindow "Frame"),
  .register (.container { panel with addMethod := "Add" }),
  .setSpacer "EditSpacer",
  .registerWindow { wxWindow "Frame" with base := "EditPanel" }]

theorem invariants_of_contestedHistory :
    (ofHistory contestedHistory).descriptor? "EditPanel" = some (.container panel) ∧
    (ofHistory (contestedHistory ++ [.setSpacer "EditGap"])).descriptor? "EditPanel" =
      some (.container panel) ∧
    (ofHistory (contestedHistory ++ [.setSpacer "EditGap"])).window? "EditFrame" =
      some (wxWindow "Frame") ∧
    (ofHistory contestedHistory).register (.container notebook) ≠
      .error (.descriptorTwice "EditNotebook") ∧
    (ofHistory contestedHistory).registerWindow { wxWindow "Frame" with base := "EditPanel" } =
      .error (.windowTwice "EditPanel") ∧
    (ofHistory contestedHistory).bases = ["EditPanel"] ∧
    (ofHistory (contestedHistory ++ [.setSpacer "EditGap"])).isIgnored "EditSpacer" = true := by
  obtain ⟨hfound, -, hregister, hwindow, hlater, hlaterWindow, -, hbases, -, hspacer, hignored⟩ :=
    invariants_of_history contestedHistory [.setSpacer "EditGap"]
  have hpanel := (hfound "EditPanel" (.container panel)).mpr ⟨by decide, by decide⟩
  refine ⟨hpanel, hlater _ _ hpanel, hlaterWindow _ _ (by decide), fun h => ?_,
    (hwindow _ _).mpr ⟨rfl, .inl (by decide)⟩, hbases.trans (by decide),
    hignored _ (hspacer _ (by decide))⟩
  exact absurd ((hregister _ _).mp h).2 (by decide)

/-- The registry of the catalogue has a history. -/
example : ofHistory (wxgo.windows.map .registerWindow ++ wxgo.descriptors.map .register ++
    [.setSpacer "EditSpacer"]) = wxgo := by
  decide

end Registry

end GladeGo
