import GladeGo.Conversion.Generate
import GladeGo.Proofs.Document.Parse
import GladeGo.Proofs.Document.Tree
import GladeGo.Proofs.Run

/-! # The plans of a document

A document has plans if its text is one, with one application, each of whose windows has a plan
(`planWindows_eq_ok_iff`). If it has none although its text is a document, then either it has no
application or several, or there is a first window without a plan (`planWindows_eq_resolution`). -/

namespace GladeGo

theorem Node.document_of_mem_children {node child : Node} (h : child ∈ node.children) :
    child.document = node.document := by
  rw [Node.children_eq] at h
  obtain ⟨number, -, rfl⟩ := List.mem_map.mp h
  rfl

/-- The document has one application, with the given windows. -/
def Document.HasWindows (document : Document) (windows : List Node) : Prop :=
  ∃ application, document.root.elementsTagged "application" = [application] ∧
    application.objects = windows

theorem Document.HasWindows.document_eq {document : Document} {windows : List Node}
    (h : document.HasWindows windows) {window : Node} (hwindow : window ∈ windows) :
    window.document = document := by
  obtain ⟨application, happlication, rfl⟩ := h
  have hchild : application ∈ document.root.elementsTagged "application" :=
    happlication ▸ List.mem_singleton_self application
  rw [Node.document_of_mem_children (List.mem_of_mem_filter hwindow),
    Node.document_of_mem_children (List.mem_of_mem_filter hchild)]
  rfl

theorem result_planWindows (text : String) : (planWindows text).result =
    (Document.parse text).mapError .document >>= fun document =>
      (resolveDocument .wxgo document).result.mapError .resolution := by
  simp only [planWindows, Logged.result_bind, Logged.result_liftM]
  rfl

theorem resolveDocument_eq_ok_iff {registry : Registry} {document : Document}
    {plans : List WindowPlan} : (resolveDocument registry document).result = .ok plans ↔
      ∃ windows, document.HasWindows windows ∧
        List.Forall₂ (fun window plan => (resolveWindow registry window).result = .ok plan)
          windows plans := by
  unfold resolveDocument
  constructor
  · intro h
    split at h
    · cases h
    · rename_i application happlication
      rw [Logged.result_mapM, mapM_eq_ok_iff] at h
      exact ⟨_, ⟨application, happlication, rfl⟩, h⟩
    · cases h
  · rintro ⟨_, ⟨application, happlication, rfl⟩, h⟩
    rw [happlication]
    simp only [Logged.result_mapM, mapM_eq_ok_iff]
    exact h

/-- **A document has plans** exactly if its text is a document with one application, each of whose
windows has a plan. -/
theorem planWindows_eq_ok_iff {text : String} {plans : List WindowPlan} :
    (planWindows text).result = .ok plans ↔ ∃ document, Document.parse text = .ok document ∧
      ∃ windows, document.HasWindows windows ∧
        List.Forall₂ (fun window plan => (resolveWindow .wxgo window).result = .ok plan)
          windows plans := by
  simp only [result_planWindows, bind_eq_ok, mapError_eq_ok, resolveDocument_eq_ok_iff]

/-- **If a document has no plans**, it has no application or several, or one of its windows has no
plan while all windows before it have plans. -/
theorem planWindows_eq_resolution {text : String} {fault : ResolutionFault}
    (h : (planWindows text).result = .error (.resolution fault)) : ∃ document,
      Document.parse text = .ok document ∧
      ((fault = .noApplication ∨ fault = .manyApplications) ∨
        ∃ before window after, document.HasWindows (before ++ window :: after) ∧
          (∀ earlier ∈ before, ∃ plan, (resolveWindow .wxgo earlier).result = .ok plan) ∧
          (resolveWindow .wxgo window).result = .error fault) := by
  rw [result_planWindows] at h
  rcases bind_eq_error.mp h with h | ⟨document, hdocument, h⟩
  · obtain ⟨cause, -, hcause⟩ := mapError_eq_error.mp h
    cases hcause
  · refine ⟨document, mapError_eq_ok.mp hdocument, ?_⟩
    obtain ⟨cause, hresolve, hcause⟩ := mapError_eq_error.mp h
    cases hcause
    unfold resolveDocument at hresolve
    split at hresolve
    · cases hresolve
      exact Or.inl (Or.inl rfl)
    · rename_i application happlication
      rw [Logged.result_mapM] at hresolve
      obtain ⟨before, window, after, hwindows, hbefore, hwindow⟩ := split_of_mapM_error hresolve
      exact Or.inr ⟨before, window, after, ⟨application, happlication, hwindows⟩, hbefore, hwindow⟩
    · cases hresolve
      exact Or.inl (Or.inr rfl)

end GladeGo
