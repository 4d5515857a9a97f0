import GladeGo.Proofs.Window.Notebook
import GladeGo.Proofs.Window.Simulation

/-! # Calls that are carried over

If a container attaches its objects, another one attaches its own by the same calls, provided that
this holds slot by slot and object by object (`carries_attachAll`). Whatever else is read may then
differ, since nothing is said of a container that fails. An object that is no spacer is attached by
its name and the arguments for its slot. In a panel there are none, and in a notebook there is the
label of the page (`carries_label`). -/

namespace GladeGo

variable {container : Container} {node item item' object object' : Node}

namespace Container

/-- Objects with the same base and name are attached by the same call if the same is read of their
slots. -/
theorem carries_attachObject_member (hregistry : container.registry = .wxgo)
    (hbase : object.base = object'.base) (hname : object.name = object'.name)
    (hspacer : object.base ≠ "EditSpacer")
    (hextra : object.name ≠ "" →
      Carries Eq (renderArguments container.rules.itemArguments ⟨item, some object⟩).result
        (renderArguments container.rules.itemArguments ⟨item', some object'⟩).result) :
    Carries (Option.Rel Attachment.SameCall) (container.attachObject item object).result
      ((container.withNode node).attachObject item' object').result := by
  intro entry hentry
  have hvisits : container.registry.visits object = true := by
    rw [hregistry]
    exact wxgo_visits_iff.mpr hspacer
  have hvisits' : (container.withNode node).registry.visits object' = true := by
    change container.registry.visits object' = true
    rw [hregistry]
    exact wxgo_visits_iff.mpr (hbase ▸ hspacer)
  cases attachObject_ok hentry with
  | spacer hspacer' =>
    rw [Registry.visits, hspacer'] at hvisits
    cases hvisits
  | ignored _ hignored =>
    rw [Registry.visits, hignored, Bool.and_comm] at hvisits
    cases hvisits
  | @member extra _ hne hrender =>
    obtain ⟨_, hrender', rfl⟩ := hextra hne extra hrender
    have hne' : object'.name ≠ "" := hname ▸ hne
    rw [result_attachObject_of_visits hvisits' hne']
    change ∃ entry', ((renderArguments container.rules.itemArguments
      ⟨item', some object'⟩).result.map _) = .ok entry' ∧ _
    rw [hrender', ← hname]
    exact ⟨_, rfl, .some rfl⟩

/-- Slots whose objects are attached by the same calls. -/
theorem carries_attachItem
    (hobjects : List.Forall₂ (fun object object' =>
      Carries (Option.Rel Attachment.SameCall) (container.attachObject item object).result
        ((container.withNode node).attachObject item' object').result)
      item.objects item'.objects) :
    Carries (List.Forall₂ Attachment.SameCall) (container.attachItem item).result
      ((container.withNode node).attachItem item').result := by
  intro attached hattached
  have hadmits := (attachItem_ok hattached).1
  have hadmits' : (container.withNode node).rules.cardinality.admits item'.objects.length = true :=
    hobjects.length_eq ▸ hadmits
  have hentries := carries_mapM hobjects fun _ _ => id
  rw [result_attachItem_of_admits hadmits] at hattached
  rw [result_attachItem_of_admits hadmits']
  exact hentries.map (fun _ _ hsame => List.rel_filterMap (fun _ _ => id) hsame) attached hattached

/-- Containers whose slots make the same calls. -/
theorem carries_attachAll {T : Node → Node → Prop}
    (hholders : Carries (List.Forall₂ T) container.holders (container.withNode node).holders)
    (hitem : ∀ item item', T item item' →
      Carries (List.Forall₂ Attachment.SameCall) (container.attachItem item).result
        ((container.withNode node).attachItem item').result) :
    Carries (List.Forall₂ Attachment.SameCall) container.attachAll.result
      (container.withNode node).attachAll.result := by
  unfold attachAll
  simp only [Logged.result_bind, Logged.result_liftM, Logged.result_mapM, Logged.result_pure]
  refine hholders.bind fun slots slots' hslots => ?_
  refine (carries_mapM hslots hitem).bind fun found found' hfound => ?_
  intro attached hattached
  exact ⟨found'.flatten, rfl, Except.ok.inj hattached ▸ List.rel_flatten hfound⟩

/-- Windows without items attach the same to objects with the same bases, names and labels. -/
theorem carries_attachAll_window (hregistry : container.registry = .wxgo)
    (hitems : container.rules.items = none) (hkind : container.rules.kind = .window)
    (hobjects : List.Forall₂ (fun object object' => object.base = object'.base ∧
        object.name = object'.name ∧ (object.name ≠ "" →
          Carries Eq
            (renderArguments container.rules.itemArguments ⟨container.node, some object⟩).result
            (renderArguments container.rules.itemArguments ⟨node, some object'⟩).result))
      container.node.objects node.objects) :
    Carries (List.Forall₂ Attachment.SameCall) container.attachAll.result
      (container.withNode node).attachAll.result := by
  have hitems' : (container.withNode node).rules.items = none := hitems
  rw [result_attachAll_of_no_items hitems, result_attachAll_of_no_items hitems']
  refine carries_attachItem (hobjects.imp fun object object' ⟨hbase, hname, hextra⟩ => ?_)
  by_cases hspacer : object.base = "EditSpacer"
  · have hfault : container.spacerCall container.node object =
        .error (container.fault .spacerOutsideSizer) := by rw [spacerCall, hkind]
    intro entry hentry
    rw [result_attachObject_of_spacer (hregistry ▸ wxgo_isSpacer_iff.mpr hspacer), hfault] at hentry
    cases hentry
  · exact carries_attachObject_member hregistry hbase hname hspacer hextra

end Container

/-- Pages with the same name have the same label in notebooks with the same tabs. -/
theorem carries_label {tags : List String} {book book' page page' : Node}
    (hreads : book.ReadsLike tags book') (htags : "tabs" ∈ tags) (hpage : page ∈ book.objects)
    (hpage' : page' ∈ book'.objects) (hname : page.name = page'.name) (hne : page.name ≠ "") :
    Carries Eq (renderArguments notebook.itemArguments ⟨book, some page⟩).result
      (renderArguments notebook.itemArguments ⟨book', some page'⟩).result := by
  have hparent := Node.parent_of_mem_objects hreads.left hpage
  have hparent' := Node.parent_of_mem_objects hreads.right hpage'
  have htabs : List.Forall₂ Node.Peer book.tabs book'.tabs :=
    List.rel_flatMap (hreads.elementsTagged "tabs" htags) fun _ _ hpeer =>
      Node.isPeering_peer.elementsTagged hpeer (by decide)
  have htab : Option.Rel Node.Peer (book.tabOf? page) (book'.tabOf? page') := by
    refine rel_find? htabs fun tab tab' hpeer => ?_
    rw [hname, Node.attribute?, Node.isPeering_peer.attributes hpeer, ← Node.attribute?]
  intro extra hextra
  cases hfound : book.tabOf? page with
  | none =>
    rw [label_of_no_tab hparent hne hfound] at hextra
    cases hextra
  | some tab =>
    rw [label_of_tab hparent hne hfound] at hextra
    rw [hfound] at htab
    cases hfound' : book'.tabOf? page' with
    | none =>
      rw [hfound'] at htab
      cases htab
    | some tab' =>
      rw [hfound'] at htab
      obtain ⟨hpeer⟩ := htab
      refine ⟨extra, ?_, rfl⟩
      rw [label_of_tab hparent' (hname ▸ hne) hfound', ← Node.isPeering_peer.text hpeer]
      exact hextra

end GladeGo
