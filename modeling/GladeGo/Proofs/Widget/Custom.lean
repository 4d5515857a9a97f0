import GladeGo.Proofs.Document.Path
import GladeGo.Widget.WxGo
import Mathlib.Data.List.TakeWhile

/-! # Custom widgets

What a custom class makes of an object. The arguments of an object are those that it lists, or else
the default ones (`declaredArguments`), and behind the parent's place there stand expressions only
(`ownArguments`). `resolve_eq` decides between the faults: a missing class is reported first, then a
parent in another place than the first, then an argument that is empty. The constructor is named
after the type, and no other type has a constructor of that name (`constructorOf_injective`). -/

namespace GladeGo.CustomClass

variable {custom : CustomClass} {node : Node}

/-! ### Constructors -/

/-- How the constructor of a type is named: `New` stands in front of the type's own name, which is
what follows the last dot. -/
inductive IsConstructorOf : String → String → Prop
  | plain {name : String} (h : '.' ∉ name.toList) : IsConstructorOf ("New" ++ name) name
  | qualified (qualifier : String) {name : String} (h : '.' ∉ name.toList) :
    IsConstructorOf (qualifier ++ "." ++ "New" ++ name) (qualifier ++ "." ++ name)

theorem ne_dot_of_mem_reverse {name : List Char} (h : '.' ∉ name) :
    ∀ c ∈ name.reverse, (c != '.') = true := by
  intro c hc
  rw [bne_iff_ne]
  rintro rfl
  exact h (List.mem_reverse.mp hc)

theorem constructorOf_plain {name : String} (h : '.' ∉ name.toList) :
    constructorOf name = "New" ++ name := by
  have hname := ne_dot_of_mem_reverse h
  rw [constructorOf, List.takeWhile_eq_self_iff.mpr hname, List.dropWhile_eq_nil_iff.mpr hname,
    ← String.toList_inj]
  simp

theorem constructorOf_qualified (qualifier : String) {name : String} (h : '.' ∉ name.toList) :
    constructorOf (qualifier ++ "." ++ name) = qualifier ++ "." ++ "New" ++ name := by
  have hname := ne_dot_of_mem_reverse h
  have hreverse : (qualifier ++ "." ++ name).toList.reverse =
      name.toList.reverse ++ '.' :: qualifier.toList.reverse := by simp
  rw [constructorOf, hreverse, List.takeWhile_append_of_pos hname,
    List.dropWhile_append_of_pos hname, List.takeWhile_cons_of_neg (by decide),
    List.dropWhile_cons_of_neg (by decide), ← String.toList_inj]
  simp

/-- A type is its own name, or its own name behind a qualifier and a dot. -/
theorem isConstructorOf_constructorOf (typeName : String) :
    IsConstructorOf (constructorOf typeName) typeName := by
  by_cases hdot : '.' ∈ typeName.toList
  · obtain ⟨name, qualifier, hsplit, hname⟩ :=
      List.eq_append_cons_of_mem (List.mem_reverse.mpr hdot)
    have htype : typeName =
        String.ofList qualifier.reverse ++ "." ++ String.ofList name.reverse := by
      rw [← String.toList_inj, ← List.reverse_reverse typeName.toList, hsplit]
      simp
    have hname' : '.' ∉ (String.ofList name.reverse).toList := by simpa using hname
    rw [htype, constructorOf_qualified _ hname']
    exact .qualified _ hname'
  · rw [constructorOf_plain hdot]
    exact .plain hdot

/-- Reading on from where a reading has stopped leads no further. -/
theorem stopped_dropWhile (p : Char → Bool) (cs : List Char) :
    (cs.dropWhile p).takeWhile p = [] ∧ (cs.dropWhile p).dropWhile p = cs.dropWhile p := by
  induction cs with
  | nil => exact ⟨rfl, rfl⟩
  | cons c cs ih =>
    by_cases hc : p c = true
    · rw [List.dropWhile_cons_of_pos hc]
      exact ih
    · rw [List.dropWhile_cons_of_neg hc, List.takeWhile_cons_of_neg hc,
        List.dropWhile_cons_of_neg hc]
      exact ⟨rfl, rfl⟩

/-- The type's own name and its qualifier can be read off the constructor, which has no dot between
the two. -/
theorem split_constructorOf (typeName : String) :
    (constructorOf typeName).toList.reverse.takeWhile (· != '.') =
      typeName.toList.reverse.takeWhile (· != '.') ++ "weN".toList ∧
    (constructorOf typeName).toList.reverse.dropWhile (· != '.') =
      typeName.toList.reverse.dropWhile (· != '.') := by
  have hreverse : (constructorOf typeName).toList.reverse =
      (typeName.toList.reverse.takeWhile (· != '.') ++ "weN".toList) ++
        typeName.toList.reverse.dropWhile (· != '.') := by
    simp [constructorOf]
  have hfront : ∀ c ∈ typeName.toList.reverse.takeWhile (· != '.') ++ "weN".toList,
      (c != '.') = true := by
    intro c hc
    rcases List.mem_append.mp hc with hc | hc
    · exact List.mem_takeWhile_imp (p := (· != '.')) hc
    · exact List.all_eq_true.mp (by decide : "weN".toList.all (· != '.') = true) c hc
  obtain ⟨htake, hdrop⟩ := stopped_dropWhile (· != '.') typeName.toList.reverse
  rw [hreverse, List.takeWhile_append_of_pos hfront, List.dropWhile_append_of_pos hfront, htake,
    hdrop, List.append_nil]
  exact ⟨rfl, rfl⟩

/-- **Types of different names have constructors of different names.** -/
theorem constructorOf_injective : Function.Injective constructorOf := by
  intro typeName typeName' h
  obtain ⟨hname, hqualifier⟩ := split_constructorOf typeName
  obtain ⟨hname', hqualifier'⟩ := split_constructorOf typeName'
  rw [← h] at hname' hqualifier'
  have hown := List.append_cancel_right (hname.symm.trans hname')
  rw [← String.toList_inj, ← List.reverse_inj,
    ← List.takeWhile_append_dropWhile (p := (· != '.')) (l := typeName.toList.reverse),
    ← List.takeWhile_append_dropWhile (p := (· != '.')) (l := typeName'.toList.reverse), hown,
    hqualifier.symm.trans hqualifier']

/-! ### Arguments -/

/-- The elements that are the arguments in the lists of an object. -/
def argumentElements (node : Node) : List Node :=
  (node.elementsTagged "arguments").flatMap fun list => list.elementsTagged "argument"

/-- The arguments of an object: what it lists, or the default ones if it has no list. -/
def declaredArguments (custom : CustomClass) (node : Node) : List String :=
  if node.elementsTagged "arguments" = [] then custom.defaultArguments
  else (argumentElements node).map fun argument => Text.trim argument.text

/-- The arguments of an object without the parent, which may stand in the first place. -/
def ownArguments (custom : CustomClass) (node : Node) : List String :=
  match custom.declaredArguments node with
  | [] => []
  | first :: others => if first = custom.parentMarker then others else first :: others

/-- The Go expression for an argument: what it stands for as a token, or else itself. -/
inductive IsExpressionFor (custom : CustomClass) : String → String → Prop
  | token {argument replacement : String} (h : custom.tokens.lookup argument = some replacement) :
    IsExpressionFor custom argument replacement
  | code {argument : String} (h : custom.tokens.lookup argument = none) :
    IsExpressionFor custom argument argument

theorem isExpressionFor_expression (argument : String) :
    custom.IsExpressionFor argument (custom.expression argument) := by
  unfold expression
  cases h : custom.tokens.lookup argument with
  | none => exact .code h
  | some replacement => exact .token h

theorem listedArguments_eq : custom.listedArguments node = custom.declaredArguments node := by
  have hfollow : node.follow "arguments/argument" = argumentElements node := by
    have hsteps : pathSteps "arguments/argument" = [.down "arguments", .down "argument"] := by
      decide +kernel
    rw [Node.follow, hsteps]
    simp [Node.step, argumentElements]
  rw [listedArguments, declaredArguments, hfollow]
  simp only [List.isEmpty_iff]

/-- What is left of the arguments when the parent is taken from the first place. -/
theorem ownArguments_eq : custom.ownArguments node =
    if ((custom.listedArguments node).head? == some custom.parentMarker) = true then
      (custom.listedArguments node).tail
    else custom.listedArguments node := by
  rw [ownArguments, listedArguments_eq]
  cases custom.declaredArguments node with
  | nil => rfl
  | cons first others => simp

section Expressions
variable {place : Nat} {arguments found before after : List String}

theorem expressions_of_not_mem (h : "" ∉ arguments) :
    custom.expressions node place arguments = .ok (arguments.map custom.expression) := by
  induction arguments generalizing place with
  | nil => rfl
  | cons argument arguments ih =>
    rw [List.mem_cons, not_or] at h
    rw [expressions, if_neg (Ne.symm h.1), ih h.2]
    rfl

/-- **The first argument that is empty is to blame**, by its number. -/
theorem expressions_of_empty (h : "" ∉ before) :
    custom.expressions node place (before ++ "" :: after) =
      .error (node.emptyValue ("argument " ++ Text.showNat (place + before.length)) (some "")) := by
  induction before generalizing place with
  | nil => rfl
  | cons argument before ih =>
    rw [List.mem_cons, not_or] at h
    rw [List.cons_append, expressions, if_neg (Ne.symm h.1), ih h.2, List.length_cons,
      Nat.add_right_comm, Nat.add_assoc]
    rfl

theorem expressions_eq_ok_iff : custom.expressions node place arguments = .ok found ↔
    "" ∉ arguments ∧ found = arguments.map custom.expression := by
  constructor
  · intro h
    by_cases hempty : "" ∈ arguments
    · obtain ⟨before, after, rfl, hbefore⟩ := List.eq_append_cons_of_mem hempty
      rw [expressions_of_empty hbefore] at h
      cases h
    · rw [expressions_of_not_mem hempty] at h
      exact ⟨hempty, (Except.ok.inj h).symm⟩
  · rintro ⟨hempty, rfl⟩
    exact expressions_of_not_mem hempty

end Expressions

/-! ### Resolution -/

/-- What a custom class makes of an object whose type and arguments are given. -/
def widgetOf (custom : CustomClass) (node : Node) (expressions : List String) : ResolvedWidget where
  typeName := node.className
  constructor := constructorOf node.className
  needsParent := (custom.listedArguments node).head? == some custom.parentMarker
  arguments := if expressions.isEmpty then none else some (", ".intercalate expressions)
  properties := custom.properties
  container := none

theorem resolve_eq : custom.resolve node =
    if node.className = "" then .error (node.emptyValue "@class" none)
    else if custom.parentMarker ∈ custom.ownArguments node then
      .error (.container node.className (node.attributeOrEmpty "name")
        (.misplacedParent custom.parentMarker))
    else (custom.expressions node 1 (custom.ownArguments node)).map (custom.widgetOf node) := by
  rw [resolve, ownArguments_eq]
  simp only [List.contains_iff_mem]
  split
  · rfl
  · split
    · rfl
    · cases custom.expressions node 1 _ <;> rfl

theorem className_ne_empty_iff : node.className ≠ "" ↔
    ∃ typeName, node.attribute? "class" = some typeName ∧ typeName ≠ "" := by
  rw [Node.className, Node.attributeOrEmpty]
  cases node.attribute? "class" <;> simp

theorem resolve_of_misplaced (hclass : node.className ≠ "")
    (hmarker : custom.parentMarker ∈ custom.ownArguments node) :
    custom.resolve node = .error (.container node.className (node.attributeOrEmpty "name")
      (.misplacedParent custom.parentMarker)) := by
  rw [resolve_eq, if_neg hclass, if_pos hmarker]

theorem resolve_of_placed (hclass : node.className ≠ "")
    (hmarker : custom.parentMarker ∉ custom.ownArguments node) : custom.resolve node =
      (custom.expressions node 1 (custom.ownArguments node)).map (custom.widgetOf node) := by
  rw [resolve_eq, if_neg hclass, if_neg hmarker]

theorem resolve_eq_ok_iff {widget : ResolvedWidget} : custom.resolve node = .ok widget ↔
    node.className ≠ "" ∧ custom.parentMarker ∉ custom.ownArguments node ∧
      "" ∉ custom.ownArguments node ∧
      widget = custom.widgetOf node ((custom.ownArguments node).map custom.expression) := by
  constructor
  · intro h
    have hclass : node.className ≠ "" := by
      intro hclass
      rw [resolve_eq, if_pos hclass] at h
      cases h
    have hmarker : custom.parentMarker ∉ custom.ownArguments node := by
      intro hmarker
      rw [resolve_of_misplaced hclass hmarker] at h
      cases h
    rw [resolve_of_placed hclass hmarker] at h
    cases hfound : custom.expressions node 1 (custom.ownArguments node) with
    | error fault =>
      rw [hfound] at h
      cases h
    | ok found =>
      rw [hfound] at h
      obtain ⟨hempty, rfl⟩ := expressions_eq_ok_iff.mp hfound
      exact ⟨hclass, hmarker, hempty, (Except.ok.inj h).symm⟩
  · rintro ⟨hclass, hmarker, hempty, rfl⟩
    rw [resolve_of_placed hclass hmarker, expressions_of_not_mem hempty]
    rfl

/-- **What a custom class makes of an object.** An object is resolved exactly if it names its type,
the parent's placeholder stands in the first place at most, and no argument is empty. The
constructor then takes the parent if the placeholder is there, and one expression for each of the
other arguments, in their order: what the argument stands for as a token, or else itself. It is named
after the type, and no other type has a constructor of that name. Of a misplaced placeholder and an
empty argument the first is reported. In a parsed document the arguments are in document order. -/
theorem resolve_exact (custom : CustomClass) (node : Node) :
    ((∃ widget, custom.resolve node = .ok widget) ↔
      (∃ typeName, node.attribute? "class" = some typeName ∧ typeName ≠ "") ∧
      custom.parentMarker ∉ custom.ownArguments node ∧ "" ∉ custom.ownArguments node) ∧
    (∀ widget, custom.resolve node = .ok widget →
      (widget.needsParent = true ↔
        (custom.declaredArguments node).head? = some custom.parentMarker) ∧
      (∃ expressions,
        List.Forall₂ custom.IsExpressionFor (custom.ownArguments node) expressions ∧
        widget.arguments = if custom.ownArguments node = [] then none
          else some (", ".intercalate expressions)) ∧
      node.attribute? "class" = some widget.typeName ∧
      widget.constructor = constructorOf widget.typeName ∧
      IsConstructorOf widget.constructor widget.typeName) ∧
    Function.Injective constructorOf ∧
    (∀ typeName, node.attribute? "class" = some typeName → typeName ≠ "" →
      custom.parentMarker ∈ custom.ownArguments node →
      custom.resolve node = .error (.container typeName (node.attributeOrEmpty "name")
        (.misplacedParent custom.parentMarker))) ∧
    (∀ typeName before after, node.attribute? "class" = some typeName → typeName ≠ "" →
      custom.parentMarker ∉ custom.ownArguments node →
      custom.ownArguments node = before ++ "" :: after → "" ∉ before →
      custom.resolve node = .error (node.emptyValue
        ("argument " ++ Text.showNat (before.length + 1)) (some ""))) ∧
    ∀ text, Document.parse text = .ok node.document →
      (argumentElements node).Pairwise fun a b => a.number < b.number := by
  have hclassName : ∀ {typeName}, node.attribute? "class" = some typeName →
      node.className = typeName := by
    intro typeName h
    rw [Node.className, Node.attributeOrEmpty, h]
    rfl
  refine ⟨?_, ?_, constructorOf_injective, ?_, ?_, fun text h => ?_⟩
  · simp only [resolve_eq_ok_iff, className_ne_empty_iff]
    exact ⟨fun ⟨_, hclass, hmarker, hempty, _⟩ => ⟨hclass, hmarker, hempty⟩,
      fun ⟨hclass, hmarker, hempty⟩ => ⟨_, hclass, hmarker, hempty, rfl⟩⟩
  · intro widget h
    obtain ⟨hclass, -, -, rfl⟩ := resolve_eq_ok_iff.mp h
    obtain ⟨typeName, htype, -⟩ := className_ne_empty_iff.mp hclass
    refine ⟨?_, ⟨(custom.ownArguments node).map custom.expression, ?_, ?_⟩, ?_, rfl,
      isConstructorOf_constructorOf node.className⟩
    · rw [← listedArguments_eq]
      exact beq_iff_eq
    · exact List.forall₂_map_right_iff.mpr
        (List.forall₂_same.mpr fun argument _ => isExpressionFor_expression argument)
    · simp [widgetOf]
    · rw [htype]
      exact congrArg some (hclassName htype).symm
  · rintro typeName htype hne hmarker
    obtain rfl := hclassName htype
    exact resolve_of_misplaced hne hmarker
  · rintro typeName before after htype hne hmarker hsplit hbefore
    obtain rfl := hclassName htype
    rw [resolve_of_placed hne hmarker, hsplit, expressions_of_empty hbefore, Nat.add_comm]
    rfl
  · exact Node.lt_flatMap_elementsTagged (Document.wellFormed_of_parse h) "arguments" "argument"

/-- The object of a custom widget that lists the given arguments. -/
def plotWith (arguments : List String) : Node :=
  let empty := ((Document.empty.append 0 (.element "object"
    [("class", "chart.Plot"), ("name", "plot"), ("base", "CustomWidget")])).append 1
      (.element "arguments" []))
  let document := arguments.foldl (fun document argument =>
    (document.append 2 (.element "argument" [])).append document.size (.text argument)) empty
  document.node 1

/-- The text of the document in which it lists the parent, an id and a number. -/
def plotText : String :=
  "<object class='chart.Plot' name='plot' base='CustomWidget'><arguments
    ><argument>$parent</argument><argument> $id </argument><argument>42</argument
  ></arguments></object>"

set_option maxRecDepth 10000 in
theorem parse_plotText :
    Document.parse plotText = .ok (plotWith ["$parent", " $id ", "42"]).document := by
  apply eq_ok_of_toOption
  rw [Document.parse, show plotText.toList = _ from String.toList_ofList]
  decide +kernel

theorem resolve_exact_plot :
    (∃ widget, customWidget.resolve (plotWith ["$parent", " $id ", "42"]) = .ok widget ∧
      widget.needsParent = true ∧ widget.constructor = constructorOf widget.typeName ∧
      ∃ expressions, List.Forall₂ customWidget.IsExpressionFor ["$id", "42"] expressions ∧
        widget.arguments = some (", ".intercalate expressions)) ∧
    customWidget.resolve (plotWith ["$id", " ", "$parent"]) =
      .error (.container "chart.Plot" "plot" (.misplacedParent "$parent")) ∧
    customWidget.resolve (plotWith ["$parent", "42", " "]) =
      .error (.emptyValue "object" "chart.Plot" "argument 2" (some "")) ∧
    (argumentElements (plotWith ["$parent", " $id ", "42"])).Pairwise
      fun a b => a.number < b.number := by
  have hclass : ∀ arguments, arguments ∈ [["$parent", " $id ", "42"], ["$id", " ", "$parent"],
      ["$parent", "42", " "]] → (plotWith arguments).attribute? "class" = some "chart.Plot" := by
    decide +kernel
  have hplot : customWidget.ownArguments (plotWith ["$parent", " $id ", "42"]) = ["$id", "42"] := by
    decide +kernel
  obtain ⟨hiff, hok, -, -, -, horder⟩ :=
    resolve_exact customWidget (plotWith ["$parent", " $id ", "42"])
  obtain ⟨-, -, -, hmisplaced, -, -⟩ := resolve_exact customWidget (plotWith ["$id", " ", "$parent"])
  obtain ⟨-, -, -, -, hempty, -⟩ := resolve_exact customWidget (plotWith ["$parent", "42", " "])
  refine ⟨?_, ?_, ?_, horder plotText parse_plotText⟩
  · obtain ⟨widget, hwidget⟩ :=
      hiff.mpr ⟨⟨_, hclass _ (by decide), by decide⟩, by rw [hplot]; decide, by rw [hplot]; decide⟩
    obtain ⟨hparent, ⟨expressions, hall, harguments⟩, -, hconstructor, -⟩ := hok widget hwidget
    rw [hplot] at hall harguments
    exact ⟨widget, hwidget, hparent.mpr (by decide +kernel), hconstructor, expressions, hall,
      harguments⟩
  · exact hmisplaced _ (hclass _ (by decide)) (by decide) (by decide +kernel)
  · exact hempty _ ["42"] [] (hclass _ (by decide)) (by decide) (by decide +kernel)
      (by decide +kernel) (by decide)

end GladeGo.CustomClass
