import GladeGo.Proofs.Conversion.File
import GladeGo.Proofs.Conversion.Plans
import GladeGo.Proofs.Go.SourceFile
import GladeGo.Proofs.Window.References

/-! # The names that a file declares

The declarations of a window are a type, an interface and a function, and the type has fields and
methods. A plan is refused when two of its fields have one name, but a field is not compared with
the methods, nor a window with the others. So a file declares nothing twice exactly if no member of
a window has the name of a method and the classes of the windows are apart
(`declaresOnce_iff_of_generate`). The names are those that are read from the first lines of the
sections of the file and from the lines of its structs (`declaresOnce_iff_openings`). -/

namespace GladeGo

/-! ### Declared names -/

/-- The names that the declarations of a window of the given class introduce in the file: those of
its struct, of the interface of its handlers and of the function that builds it. -/
def declaredNames (className : String) : List String :=
  [className, className ++ "Events", "init" ++ className]

/-- The name of a field that embeds a type: that of the type, without its package. -/
def embeddedField (typeName : String) : String :=
  String.ofList ((typeName.toList.splitOn '.').getLastD [])

/-- The names of the methods that the type of every window has. -/
def methodNames : List String := ["doLayout", "setProperties"]

/-- The fields and methods of the type of a window. -/
def WindowPlan.selectors (plan : WindowPlan) : List String :=
  embeddedField plan.baseType :: (plan.names ++ methodNames)

/-- The declarations of the windows have distinct names, and so have the fields and methods of each
type. -/
structure DeclaresOnce (plans : List WindowPlan) : Prop where
  declared : ((plans.map WindowPlan.name).flatMap declaredNames).Nodup
  selectors : ∀ plan ∈ plans, plan.selectors.Nodup

/-- No declaration of a window of one class has the name of one of the other. -/
structure Apart (a b : String) : Prop where
  ne : a ≠ b
  events : a ≠ b ++ "Events" ∧ b ≠ a ++ "Events"
  init : a ≠ "init" ++ b ∧ b ≠ "init" ++ a
  events_init : a ++ "Events" ≠ "init" ++ b ∧ b ++ "Events" ≠ "init" ++ a

theorem disjoint_declaredNames_iff {a b : String} :
    List.Disjoint (declaredNames a) (declaredNames b) ↔ Apart a b := by
  have happ : ∀ x y z : String, x ++ y = x ++ z ↔ y = z := fun x y z => String.append_right_inj x
  have happ' : ∀ x y z : String, y ++ x = z ++ x ↔ y = z := fun x y z => String.append_left_inj x
  simp only [declaredNames, List.disjoint_cons_left, List.mem_cons, List.not_mem_nil, or_false,
    not_or, List.disjoint_nil_left, and_true, happ, happ']
  constructor
  · rintro ⟨⟨hne, hevents, hinit⟩, ⟨hevents', -, hboth⟩, hinit', hboth', -⟩
    exact ⟨hne, ⟨hevents, Ne.symm hevents'⟩, ⟨hinit, Ne.symm hinit'⟩, hboth, Ne.symm hboth'⟩
  · rintro ⟨hne, ⟨hevents, hevents'⟩, ⟨hinit, hinit'⟩, hboth, hboth'⟩
    exact ⟨⟨hne, hevents, hinit⟩, ⟨Ne.symm hevents', hne, hboth⟩, Ne.symm hinit',
      Ne.symm hboth', hne⟩

/-- One window alone declares its names once. -/
theorem nodup_declaredNames (className : String) : (declaredNames className).Nodup := by
  have hlength : ∀ {s t : String}, s.length ≠ t.length → s ≠ t := fun h heq => h (heq ▸ rfl)
  have hsix : "Events".length = 6 := by decide
  have hfour : "init".length = 4 := by decide
  have hevents : className ≠ className ++ "Events" :=
    hlength (by rw [String.length_append]; omega)
  have hinit : className ≠ "init" ++ className := hlength (by rw [String.length_append]; omega)
  have hboth : className ++ "Events" ≠ "init" ++ className :=
    hlength (by rw [String.length_append, String.length_append]; omega)
  simp [declaredNames, hevents, hinit, hboth]

theorem nodup_declared_iff {classNames : List String} :
    (classNames.flatMap declaredNames).Nodup ↔ classNames.Pairwise Apart := by
  rw [List.nodup_flatMap]
  constructor
  · exact fun h => h.2.imp disjoint_declaredNames_iff.mp
  · exact fun h => ⟨fun className _ => nodup_declaredNames className,
      h.imp disjoint_declaredNames_iff.mpr⟩

theorem nodup_selectors_iff {plan : WindowPlan} (hclosed : plan.IsClosed)
    (hbase : embeddedField plan.baseType = plan.selfField)
    (hself : plan.selfField ∉ methodNames) :
    plan.selectors.Nodup ↔ ∀ name ∈ plan.names, name ∉ methodNames := by
  rw [WindowPlan.selectors, hbase, List.nodup_cons, List.mem_append, not_or, List.nodup_append]
  constructor
  · rintro ⟨-, -, -, hne⟩ name hname hmethod
    exact hne name hname name hmethod rfl
  · intro hnames
    refine ⟨⟨hclosed.selfField, hself⟩, hclosed.nodup, by decide, ?_⟩
    rintro name hname method hmethod rfl
    exact hnames name hname hmethod

/-! ### Names in the lines of a file -/

section Lines
open Go

/-- The name that a line declares in the file, if it opens the declaration of a type or of a
function. A method is not declared in the file but for a type. -/
def declaredName? (line : String) : Option String :=
  match "type ".toList.isPrefixOf? line.toList with
  | some rest => some (String.ofList (rest.takeWhile (· ≠ ' ')))
  | none =>
    match "func ".toList.isPrefixOf? line.toList with
    | some ('(' :: _) => none
    | some rest => some (String.ofList (rest.takeWhile (· ≠ '(')))
    | none => none

/-- The type for which a line declares a method, and the name of the method. -/
def declaredMethod? (line : String) : Option (String × String) := do
  let rest ← "func (".toList.isPrefixOf? line.toList
  let rest := (rest.dropWhile (· ≠ '*')).tail
  let name ← ") ".toList.isPrefixOf? (rest.dropWhile (· ≠ ')'))
  return (String.ofList (rest.takeWhile (· ≠ ')')), String.ofList (name.takeWhile (· ≠ '(')))

/-- The field that a line in a struct declares: the name in front of its type, or that of the type
if there is nothing else in the line. -/
def declaredField (line : String) : String :=
  let text := line.toList.tail
  if ' ' ∈ text then String.ofList (text.takeWhile (· ≠ ' '))
  else embeddedField (String.ofList text)

/-- What the first lines of sections declare. -/
def openings {α : Type} (declared? : String → Option α) (sections : List (List String)) : List α :=
  sections.filterMap fun lines => lines.head?.bind declared?

section Line
variable {line name : String} {rest : List Char}

theorem declaredName?_type (hname : ' ' ∉ name.toList)
    (h : line.toList = "type ".toList ++ (name.toList ++ ' ' :: rest)) :
    declaredName? line = some name := by
  rw [declaredName?, h, isPrefixOf?_append]
  dsimp only
  rw [takeWhile_append_stop hname, String.ofList_toList]

theorem declaredName?_func (hname : '(' ∉ name.toList) (hempty : name ≠ "")
    (h : line.toList = "func ".toList ++ (name.toList ++ '(' :: rest)) :
    declaredName? line = some name := by
  have htype : "type ".toList.isPrefixOf? line.toList = none := by
    rw [h]
    rfl
  rw [declaredName?, htype, h, isPrefixOf?_append]
  dsimp only
  split
  · rename_i heq
    have hchars := Option.some.inj heq
    cases hfirst : name.toList with
    | nil => exact absurd (String.toList_injective hfirst) hempty
    | cons c cs =>
      rw [hfirst, List.cons_append] at hchars
      rw [hfirst, (List.cons.inj hchars).1] at hname
      exact absurd List.mem_cons_self hname
  · rename_i heq
    rw [← Option.some.inj heq, takeWhile_append_stop hname, String.ofList_toList]
  · rename_i heq
    cases heq

theorem declaredName?_method (h : line.toList = "func (".toList ++ rest) :
    declaredName? line = none := by
  rw [declaredName?, h]
  rfl

theorem declaredMethod?_type (h : line.toList = "type ".toList ++ rest) :
    declaredMethod? line = none := by
  rw [declaredMethod?, h]
  rfl

theorem declaredMethod?_method {receiver method : String} (hreceiver : '*' ∉ receiver.toList)
    (hname : ')' ∉ name.toList) (hmethod : '(' ∉ method.toList)
    (h : line.toList = "func (".toList ++ (receiver.toList ++ '*' :: (name.toList ++
      ')' :: ' ' :: (method.toList ++ '(' :: rest)))) :
    declaredMethod? line = some (name, method) := by
  have hbehind : ∀ cs, ") ".toList.isPrefixOf? (')' :: ' ' :: cs) = some cs :=
    isPrefixOf?_append [')', ' ']
  rw [declaredMethod?, h, isPrefixOf?_append]
  simp only [Option.bind_eq_bind, Option.bind_some, dropWhile_append_stop hreceiver, List.tail_cons,
    dropWhile_append_stop hname, takeWhile_append_stop hname, hbehind,
    takeWhile_append_stop hmethod, String.ofList_toList, Option.pure_def]

end Line

/-! The first line of each section of a window, character by character. -/

theorem structLines_head? (plan : WindowPlan) : ∃ line, (structLines plan).head? = some line ∧
    line.toList = "type ".toList ++ (plan.name.toList ++ ' ' :: "struct \x7b".toList) :=
  ⟨_, rfl, by simp⟩

theorem interfaceLines_head? (plan : WindowPlan) : ∃ line,
    (interfaceLines plan).head? = some line ∧ line.toList =
      "type ".toList ++ ((plan.name ++ "Events").toList ++ ' ' :: "interface \x7b".toList) :=
  ⟨_, rfl, by simp⟩

theorem initLines_head? (plan : WindowPlan) : ∃ line rest, (initLines plan).head? = some line ∧
    line.toList = "func ".toList ++ (("init" ++ plan.name).toList ++ '(' :: rest) :=
  ⟨_, ("handler " ++ plan.name ++ "Events) *" ++ plan.name ++ " \x7b").toList, rfl, by simp⟩

theorem layoutLines_head? (plan : WindowPlan) : ∃ line, (layoutLines plan).head? = some line ∧
    line.toList = "func (".toList ++ ("out ".toList ++ '*' :: (plan.name.toList ++
      ')' :: ' ' :: ("doLayout".toList ++ '(' :: ") \x7b".toList))) :=
  ⟨_, rfl, by simp⟩

theorem propertyLines_head? (plan : WindowPlan) : ∃ line,
    (propertyLines plan).head? = some line ∧
    line.toList = "func (".toList ++ ("window ".toList ++ '*' :: (plan.name.toList ++
      ')' :: ' ' :: ("setProperties".toList ++ '(' :: ") \x7b".toList))) :=
  ⟨_, rfl, by simp⟩

theorem declaredField_member {member : Member} (h : IsIdentifier member.name) :
    declaredField (indented (member.name ++ " " ++ member.typeName)) = member.name := by
  have hspace : ' ' ∉ member.name.toList := h.not_mem (by decide)
  rw [declaredField, memberLine_toList, List.tail_cons, if_pos (by simp),
    takeWhile_append_stop hspace, String.ofList_toList]

theorem declaredField_embedded {typeName : String} (h : IsDotted typeName) :
    declaredField (indented typeName) = embeddedField typeName := by
  have hspace : ' ' ∉ typeName.toList := h.not_mem (by decide) (by decide)
  have htail : (indented typeName).toList.tail = typeName.toList := by
    rw [indented, String.toList_append]
    rfl
  rw [declaredField, htail, if_neg hspace, String.ofList_toList]

section Window
variable {plan : WindowPlan} (h : plan.IsWellShaped)
include h

/-- **What the first lines of the sections of a window declare**: its names in the file, and methods
for its type. -/
theorem openings_windowSections :
    openings declaredName? (windowSections plan) = declaredNames plan.name ∧
    openings declaredMethod? (windowSections plan) =
      methodNames.map fun method => (plan.name, method) := by
  have hspace : ' ' ∉ plan.name.toList := h.name.not_mem (by decide)
  have hopen : '(' ∉ plan.name.toList := h.name.not_mem (by decide)
  have hclose : ')' ∉ plan.name.toList := h.name.not_mem (by decide)
  obtain ⟨structLine, hstruct, hstructChars⟩ := structLines_head? plan
  obtain ⟨interfaceLine, hinterface, hinterfaceChars⟩ := interfaceLines_head? plan
  obtain ⟨initLine, rest, hinit, hinitChars⟩ := initLines_head? plan
  obtain ⟨layoutLine, hlayout, hlayoutChars⟩ := layoutLines_head? plan
  obtain ⟨propertyLine, hproperty, hpropertyChars⟩ := propertyLines_head? plan
  have hfunc : declaredMethod? initLine = none := by
    rw [declaredMethod?, hinitChars, String.toList_append]
    rfl
  constructor
  · simp [openings, windowSections, hstruct, hinterface, hinit, hlayout, hproperty, declaredNames,
      declaredName?_type hspace hstructChars,
      declaredName?_type (by simp [hspace]) hinterfaceChars,
      declaredName?_func (by simp [hopen]) (by simp) hinitChars,
      declaredName?_method hlayoutChars, declaredName?_method hpropertyChars]
  · simp [openings, windowSections, hstruct, hinterface, hinit, hlayout, hproperty, methodNames,
      declaredMethod?_type hstructChars, declaredMethod?_type hinterfaceChars, hfunc,
      declaredMethod?_method (by decide) hclose (by decide) hlayoutChars,
      declaredMethod?_method (by decide) hclose (by decide) hpropertyChars]

/-- **The fields that the struct of a window declares.** -/
theorem declaredFields_struct : (structLines plan).tail.dropLast.map declaredField =
    embeddedField plan.baseType :: plan.names := by
  have hmembers : plan.members.map (fun member =>
      declaredField (indented (member.name ++ " " ++ member.typeName))) = plan.names :=
    List.map_congr_left fun member hmember => declaredField_member (h.members member hmember).1
  rw [structLines, block, List.cons_append, List.tail_cons, List.dropLast_concat, List.map_cons,
    declaredField_embedded h.baseType, List.map_map]
  exact congrArg _ hmembers

end Window

/-- **The declarations are those that the lines of a file make.** They have distinct names exactly if
the first lines of the sections of the file declare distinct names in it, and for each window the
lines of its struct and the first lines of its methods declare distinct names for its type. -/
theorem declaresOnce_iff_openings {plans : List WindowPlan}
    (hplans : ∀ plan ∈ plans, plan.IsWellShaped) (options : FileOptions)
    (provenance : Provenance) : DeclaresOnce plans ↔
      (openings declaredName? (fileSections options provenance plans)).Nodup ∧
      ∀ plan ∈ plans, ((structLines plan).tail.dropLast.map declaredField ++
        (openings declaredMethod? (windowSections plan)).map Prod.snd).Nodup := by
  have hheader : (headerLines options provenance).head?.bind declaredName? = none := by
    rw [headerLines, List.head?_cons, Option.bind_some, declaredName?, String.toList_append,
      String.toList_append]
    rfl
  have hnames : openings declaredName? (fileSections options provenance plans) =
      (plans.map WindowPlan.name).flatMap declaredNames := by
    rw [openings, fileSections, List.filterMap_cons, hheader]
    dsimp only
    rw [List.filterMap_flatMap, List.flatMap_map]
    exact List.flatMap_congr fun plan hplan => (openings_windowSections (hplans plan hplan)).1
  have hselectors : ∀ plan ∈ plans, (structLines plan).tail.dropLast.map declaredField ++
      (openings declaredMethod? (windowSections plan)).map Prod.snd = plan.selectors := by
    intro plan hplan
    rw [declaredFields_struct (hplans plan hplan), (openings_windowSections (hplans plan hplan)).2,
      List.map_map]
    simp [WindowPlan.selectors, Function.comp_def]
  rw [hnames]
  constructor
  · exact fun honce => ⟨honce.declared, fun plan hplan =>
      (hselectors plan hplan).symm ▸ honce.selectors plan hplan⟩
  · exact fun ⟨hdeclared, hnodup⟩ => ⟨hdeclared, fun plan hplan =>
      hselectors plan hplan ▸ hnodup plan hplan⟩

end Lines

/-! ### Files -/

/-- A plan carries the class of its window and the type, with its field, of the window's base. -/
theorem header_of_resolveWindow {registry : Registry} {window : Node} {plan : WindowPlan}
    (hwf : window.document.WellFormed) (h : (resolveWindow registry window).result = .ok plan) :
    plan.name = window.className ∧ ∃ windowClass ∈ registry.windows,
      plan.baseType = windowClass.typeName ∧ plan.selfField = windowClass.selfField := by
  obtain ⟨windowClass, setters, hname, hclass, hsetters⟩ := resolveWindow_ok h
  rw [result_resolveWindow hname hclass hsetters, result_walk_window windowClass hwf] at h
  obtain ⟨placements, -, rfl, -⟩ := placements_of_foldlM h
  exact ⟨constant_foldl placements _ fun _ _ => rfl, windowClass, List.mem_of_find?_eq_some hclass,
    constant_foldl placements _ fun _ _ => rfl, selfField_foldl placements _⟩

theorem embeddedField_wxgo : ∀ windowClass ∈ Registry.wxgo.windows,
    embeddedField windowClass.typeName = windowClass.selfField ∧
      windowClass.selfField ∉ methodNames := by decide +kernel

theorem nodup_selectors_of_resolveWindow {window : Node} {text : String} {plan : WindowPlan}
    (hparse : Document.parse text = .ok window.document)
    (h : (resolveWindow .wxgo window).result = .ok plan) :
    plan.selectors.Nodup ↔
      ∀ member ∈ Registry.wxgo.members window, member.name ∉ methodNames := by
  have hwf := Document.wellFormed_of_parse hparse
  obtain ⟨-, windowClass, hclass, hbase, hself⟩ := header_of_resolveWindow hwf h
  obtain ⟨hfield, hmethod⟩ := embeddedField_wxgo windowClass hclass
  obtain ⟨resolution⟩ := exists_resolution hwf h
  rw [nodup_selectors_iff (isClosed_of_resolveWindow hparse h) (by rw [hbase, hself, hfield])
    (by rwa [hself]), resolution.plan_names_eq]
  exact List.forall_mem_map

/-- **When a file declares nothing twice.** The file for a document is made of the plans of its
windows. Its declarations have distinct names exactly if the classes of the windows are apart and no
member of a window is called like one of the methods. -/
theorem declaresOnce_iff_of_generate {text sourceName code : String} {options : ConversionOptions}
    {time : Int} (h : (generate text sourceName options time).result = .ok code) :
    ∃ document windows plans, Document.parse text = .ok document ∧ document.HasWindows windows ∧
      List.Forall₂ (fun window plan => (resolveWindow .wxgo window).result = .ok plan)
        windows plans ∧
      code = Go.sourceFile options.toFileOptions ⟨options.tool, sourceName, time⟩ plans ∧
      (DeclaresOnce plans ↔ (windows.map Node.className).Pairwise Apart ∧
        ∀ window ∈ windows, ∀ member ∈ Registry.wxgo.members window,
          member.name ∉ methodNames) := by
  simp only [generate, Logged.result_bind, Logged.result_pure, bind_eq_ok] at h
  obtain ⟨plans, hplans, hcode⟩ := h
  obtain ⟨document, hparse, windows, hwindows, hresolved⟩ := planWindows_eq_ok_iff.mp hplans
  refine ⟨document, windows, plans, hparse, hwindows, hresolved, (Except.ok.inj hcode).symm, ?_⟩
  have hdocument : ∀ window ∈ windows, Document.parse text = .ok window.document :=
    fun window hwindow => hwindows.document_eq hwindow ▸ hparse
  have hnames : windows.map Node.className = plans.map WindowPlan.name := by
    refine map_eq_map_iff.mpr ((forall₂_and_mem hresolved).imp ?_)
    rintro window plan ⟨hplan, hwindow, -⟩
    have hwf := Document.wellFormed_of_parse (hdocument window hwindow)
    exact (header_of_resolveWindow hwf hplan).1.symm
  have hselectors : (∀ plan ∈ plans, plan.selectors.Nodup) ↔ ∀ window ∈ windows,
      ∀ member ∈ Registry.wxgo.members window, member.name ∉ methodNames := by
    have hiff := (forall₂_and_mem hresolved).imp fun window plan h =>
      nodup_selectors_of_resolveWindow (hdocument window h.2.1) h.1
    clear hplans hwindows hresolved hdocument hnames hcode
    induction hiff with
    | nil => simp
    | cons hplan _ ih => simp only [List.forall_mem_cons, hplan, ih]
  rw [hnames, ← nodup_declared_iff, ← hselectors]
  exact ⟨fun h => ⟨h.declared, h.selectors⟩, fun h => ⟨h.1, h.2⟩⟩

theorem declaresOnce_iff_of_generate_sampleText : ∃ code plans,
    (generate sampleText "main.wxg" .standard 0).result = .ok code ∧
    List.Forall₂ (fun window plan => (resolveWindow .wxgo window).result = .ok plan)
      [sampleWindow] plans ∧
    code = Go.sourceFile .standard ⟨"wxg-to-go", "main.wxg", 0⟩ plans ∧ DeclaresOnce plans := by
  obtain ⟨code, hcode⟩ := generate_sampleText "main.wxg" .standard 0
  obtain ⟨document, windows, plans, hparse, hwindows, hresolved, heq, hiff⟩ :=
    declaresOnce_iff_of_generate hcode
  obtain rfl : document = sampleDocument := Except.ok.inj (hparse.symm.trans parse_sampleText)
  obtain ⟨application, happlication, rfl⟩ := hwindows
  have hone : sampleDocument.root.elementsTagged "application" = [sampleDocument.node 1] := by
    decide +kernel
  obtain rfl : sampleDocument.node 1 = application :=
    (List.cons.inj (hone.symm.trans happlication)).1
  have hobjects : (sampleDocument.node 1).objects = [sampleWindow] := by decide +kernel
  rw [hobjects] at hresolved hiff
  refine ⟨code, plans, hcode, hresolved, heq, hiff.mpr ⟨List.pairwise_singleton _ _, ?_⟩⟩
  decide +kernel

/-- The text of a window with a button that is called like a method. -/
def clashText : String :=
  "<application><object class='Main' name='main' base='EditFrame'
    ><object class='wxButton' name='doLayout' base='EditButton'
      ><label>OK</label></object></object></application>"

set_option maxRecDepth 10000 in
/-- **A file may declare a name twice**: a button becomes a field of the name of a method. -/
theorem not_declaresOnce_clashText : ∃ plans,
    (planWindows clashText).result = .ok plans ∧
    (generate clashText "main.wxg" .standard 0).result =
      .ok (Go.sourceFile .standard ⟨"wxg-to-go", "main.wxg", 0⟩ plans) ∧
    ¬DeclaresOnce plans := by
  have hselectors : (planWindows clashText).result.toOption.map
      (fun plans => plans.map WindowPlan.selectors) =
        some [["Frame", "doLayout", "doLayout", "setProperties"]] := by
    rw [result_planWindows, Document.parse, show clashText.toList = _ from String.toList_ofList]
    decide +kernel
  obtain ⟨plans, hplans, hlist⟩ := Option.map_eq_some_iff.mp hselectors
  have hok := eq_ok_of_toOption hplans
  refine ⟨plans, hok, ?_, fun honce => ?_⟩
  · rw [generate, Logged.result_bind, hok]
    rfl
  · obtain ⟨plan, hplan, heq⟩ := List.mem_map.mp (hlist ▸ List.mem_cons_self)
    have hnodup := honce.selectors plan hplan
    rw [heq] at hnodup
    exact absurd hnodup (by decide)

end GladeGo
