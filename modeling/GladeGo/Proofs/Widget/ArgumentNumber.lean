import GladeGo.Proofs.Text.Numeral
import GladeGo.Proofs.Widget.Custom

/-! # The numbers of empty arguments

An argument of a custom widget that is empty is reported by its number. Arguments are numbered after
the parent has been taken from the first place. So the number is the place of the argument in the
lists of the object if the first place is not the parent's, and otherwise the place before
(`emptyArgument_iff`). -/

namespace GladeGo.CustomClass

variable {custom : CustomClass} {node : Node}

/-- The place, counted from one, of the first empty argument in the lists of an object. -/
def emptyPlace? (node : Node) : Option Nat :=
  ((argumentElements node).findIdx? fun argument => Text.trim argument.text = "").map (· + 1)

/-- Whether the first argument of an object is its parent. -/
def ListsParent (custom : CustomClass) (node : Node) : Prop :=
  (custom.declaredArguments node).head? = some custom.parentMarker

instance : Decidable (custom.ListsParent node) := inferInstanceAs (Decidable (_ = _))

theorem expressions_eq_error_iff {place : Nat} {arguments : List String} {fault : ResolutionFault} :
    custom.expressions node place arguments = .error fault ↔
      ∃ i, arguments.findIdx? (· = "") = some i ∧
        fault = node.emptyValue ("argument " ++ Text.showNat (place + i)) (some "") := by
  induction arguments generalizing place with
  | nil => simp [expressions]
  | cons argument arguments ih =>
    rw [expressions, List.findIdx?_cons]
    by_cases hempty : argument = ""
    · simp [hempty, eq_comm]
    · have hshift : ∀ i, place + 1 + i = place + (i + 1) := fun i => by omega
      rw [if_neg hempty, bind_eq_error, ih]
      simp [hempty, hshift]

/-- The arguments are the parent, if it is listed, and those that are numbered. -/
theorem declaredArguments_eq : custom.declaredArguments node =
    if custom.ListsParent node then custom.parentMarker :: custom.ownArguments node
    else custom.ownArguments node := by
  rw [ownArguments]
  by_cases hparent : custom.ListsParent node
  · obtain ⟨others, hdeclared⟩ := List.head?_eq_some_iff.mp hparent
    rw [if_pos hparent, hdeclared]
    simp
  · rw [if_neg hparent]
    rw [ListsParent] at hparent
    cases hdeclared : custom.declaredArguments node with
    | nil => rfl
    | cons first others =>
      have hfirst : first ≠ custom.parentMarker := by simpa [hdeclared] using hparent
      simp [hfirst]

theorem emptyPlace?_eq (hlist : node.elementsTagged "arguments" ≠ []) : emptyPlace? node =
    ((custom.declaredArguments node).findIdx? (· = "")).map (· + 1) := by
  rw [declaredArguments, if_neg hlist, List.findIdx?_map, emptyPlace?, Function.comp_def]

/-- **The number of an empty argument** and its place, which counts the parent. The parent is not
empty itself. -/
theorem emptyPlace?_eq_some_iff (hmarker : custom.parentMarker ≠ "")
    (hlist : node.elementsTagged "arguments" ≠ []) {number : Nat} :
    emptyPlace? node = some (number + if custom.ListsParent node then 1 else 0) ↔
      ∃ i, (custom.ownArguments node).findIdx? (· = "") = some i ∧ number = i + 1 := by
  rw [@emptyPlace?_eq custom node hlist, declaredArguments_eq]
  by_cases hparent : custom.ListsParent node
  · rw [if_pos hparent, if_pos hparent, List.findIdx?_cons, if_neg (by simpa using hmarker)]
    simp [eq_comm]
  · rw [if_neg hparent, if_neg hparent, Nat.add_zero]
    simp [eq_comm]

theorem resolve_eq_emptyArgument_iff {tag className : String} {raw : Option String} {number : Nat} :
    custom.resolve node =
        .error (.emptyValue tag className ("argument " ++ Text.showNat number) raw) ↔
      (tag = node.tagOrEmpty ∧ className = node.className ∧ raw = some "") ∧
        node.className ≠ "" ∧ custom.parentMarker ∉ custom.ownArguments node ∧
        ∃ i, (custom.ownArguments node).findIdx? (· = "") = some i ∧ number = i + 1 := by
  by_cases hclass : node.className = ""
  · have hfield : "@class" ≠ "argument " ++ Text.showNat number := by
      refine fun h => absurd (congrArg (fun text => text.toList.head?) h) ?_
      simp
    rw [resolve_eq, if_pos hclass]
    simp [hclass, Node.emptyValue, hfield]
  by_cases hmarker : custom.parentMarker ∈ custom.ownArguments node
  · rw [resolve_of_misplaced hclass hmarker]
    simp [hmarker]
  rw [resolve_of_placed hclass hmarker]
  rw [map_eq_error, expressions_eq_error_iff]
  constructor
  · rintro ⟨i, hfound, hfault⟩
    obtain ⟨htag, hclassName, hnumber, hraw⟩ := ResolutionFault.emptyValue.inj hfault
    have hsame := Text.showNat_inj (String.append_right_inj _ |>.mp hnumber)
    exact ⟨⟨htag, hclassName, hraw⟩, hclass, hmarker, i, hfound, by omega⟩
  · rintro ⟨⟨rfl, rfl, rfl⟩, -, -, i, hfound, rfl⟩
    exact ⟨i, hfound, by rw [Nat.add_comm 1 i]; rfl⟩

/-- **The number of an empty argument.** An empty argument is reported with a number exactly if the
object names its type and the parent stands in the first place at most. Of the arguments in the
lists of the object it is then the first one that is empty, and its number is its place if the
parent does not stand in the first place. Behind the parent it is the place before. The places are
those of a parsed document, from its start to its end. -/
theorem emptyArgument_iff (hmarker : custom.parentMarker ≠ "")
    (hlist : node.elementsTagged "arguments" ≠ []) (number : Nat) :
    ((∃ tag className raw, custom.resolve node =
        .error (.emptyValue tag className ("argument " ++ Text.showNat number) raw)) ↔
      node.className ≠ "" ∧ custom.parentMarker ∉ custom.ownArguments node ∧
        emptyPlace? node = some (number + if custom.ListsParent node then 1 else 0)) ∧
    (∀ tag className raw, custom.resolve node =
        .error (.emptyValue tag className ("argument " ++ Text.showNat number) raw) →
      (emptyPlace? node = some number ↔ ¬ custom.ListsParent node)) ∧
    ∀ text, Document.parse text = .ok node.document →
      (argumentElements node).Pairwise fun a b => a.number < b.number := by
  simp only [resolve_eq_emptyArgument_iff, ← emptyPlace?_eq_some_iff hmarker hlist]
  refine ⟨⟨fun ⟨_, _, _, _, h⟩ => h, fun h => ⟨_, _, _, ⟨rfl, rfl, rfl⟩, h⟩⟩, ?_, fun text h => ?_⟩
  · rintro tag className raw ⟨-, -, -, hplace⟩
    rw [hplace]
    by_cases hparent : custom.ListsParent node <;> simp [hparent]
  · exact Node.lt_flatMap_elementsTagged (Document.wellFormed_of_parse h) "arguments" "argument"

theorem emptyArgument_iff_plot :
    (∃ tag className raw, customWidget.resolve (plotWith ["$parent", "42", " "]) =
      .error (.emptyValue tag className "argument 2" raw)) ∧
    ¬ emptyPlace? (plotWith ["$parent", "42", " "]) = some 2 ∧
    (∃ tag className raw, customWidget.resolve (plotWith ["$id", " ", "42"]) =
      .error (.emptyValue tag className "argument 2" raw)) ∧
    emptyPlace? (plotWith ["$id", " ", "42"]) = some 2 ∧
    (argumentElements (plotWith ["$parent", " $id ", "42"])).Pairwise
      fun a b => a.number < b.number := by
  obtain ⟨hparent, hplace, -⟩ := @emptyArgument_iff customWidget (plotWith ["$parent", "42", " "])
    (by decide) (by decide +kernel) 2
  obtain ⟨hid, hplace', -⟩ := @emptyArgument_iff customWidget (plotWith ["$id", " ", "42"])
    (by decide) (by decide +kernel) 2
  obtain ⟨-, -, horder⟩ := @emptyArgument_iff customWidget (plotWith ["$parent", " $id ", "42"])
    (by decide) (by decide +kernel) 2
  obtain ⟨tag, className, raw, hfault⟩ :=
    hparent.mpr ⟨by decide +kernel, by decide +kernel, by decide +kernel⟩
  obtain ⟨tag', className', raw', hfault'⟩ :=
    hid.mpr ⟨by decide +kernel, by decide +kernel, by decide +kernel⟩
  have hlisted : customWidget.ListsParent (plotWith ["$parent", "42", " "]) := by decide +kernel
  exact ⟨⟨tag, className, raw, hfault⟩, fun h => (hplace tag className raw hfault).mp h hlisted,
    ⟨tag', className', raw', hfault'⟩,
    (hplace' tag' className' raw' hfault').mpr (by decide +kernel), horder plotText parse_plotText⟩

/-- Behind the parent the number of an empty argument is not its place. -/
theorem emptyArgument_behindParent : customWidget.parentMarker ≠ "" ∧
    (plotWith ["$parent", "42", " "]).elementsTagged "arguments" ≠ [] ∧
    customWidget.resolve (plotWith ["$parent", "42", " "]) =
      .error (.emptyValue "object" "chart.Plot" ("argument " ++ Text.showNat 2) (some "")) ∧
    emptyPlace? (plotWith ["$parent", "42", " "]) = some 3 := by
  decide +kernel

end GladeGo.CustomClass
