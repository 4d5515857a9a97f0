import GladeGo.Document.Read
import GladeGo.Proofs.Document.Arena
import Mathlib.Logic.Relation

/-! # Parsed documents are well formed

A reading hands its events to the builder, so the builder goes from its start to its end by the four
steps of `Builder.Step` (`built_of_parse`). Each step keeps the builder well formed: the document is
well formed and the elements on the stack, with the document itself below them, are open, the
innermost with the greatest number. -/

namespace GladeGo

namespace Builder

/-- What one event may do to a builder. -/
inductive Step : Builder → Builder → Prop
  | text (builder : Builder) (content : String) : Step builder (builder.addText content)
  | element {builder later : Builder} {tag : String} {attributes : List (String × String)}
      (h : builder.addElement tag attributes = .ok later) : Step builder later
  | opening {builder later : Builder} {tag : String} {attributes : List (String × String)}
      (h : builder.openElement tag attributes = .ok later) : Step builder later
  | closing {builder later : Builder} {tag : String}
      (h : builder.closeElement tag = .ok later) : Step builder later

/-- The numbers of the open elements, innermost first, and below them the document's own. -/
def chain (builder : Builder) : List Nat := builder.opened.map Prod.fst ++ [0]

/-- The document is well formed and the chain consists of open nodes, the innermost last in document
order. -/
structure WellFormed (builder : Builder) : Prop where
  document : builder.document.WellFormed
  isOpen : ∀ number ∈ builder.chain, builder.document.IsOpen number
  descending : builder.chain.Pairwise (· > ·)

theorem chain_eq (builder : Builder) : ∃ outer, builder.chain = builder.current :: outer := by
  unfold chain current
  rcases builder.opened with _ | ⟨⟨number, tag⟩, opened⟩
  · exact ⟨[], rfl⟩
  · exact ⟨opened.map Prod.fst ++ [0], rfl⟩

theorem wellFormed_start : start.WellFormed where
  document := Document.wellFormed_empty
  isOpen := by simp [chain, start, Document.isOpen_empty]
  descending := by simp [chain, start]

namespace WellFormed
variable {builder later : Builder} (h : builder.WellFormed)
include h

theorem isOpen_current : builder.document.IsOpen builder.current := by
  obtain ⟨outer, hchain⟩ := builder.chain_eq
  exact h.isOpen _ (by rw [hchain]; exact List.mem_cons_self)

theorem le_current {number : Nat} (hnumber : number ∈ builder.chain) :
    number ≤ builder.current := by
  obtain ⟨outer, hchain⟩ := builder.chain_eq
  have hdescending := h.descending
  rw [hchain] at hnumber hdescending
  rcases List.mem_cons.mp hnumber with rfl | hnumber
  · exact Nat.le_refl _
  · exact Nat.le_of_lt (List.rel_of_pairwise_cons hdescending hnumber)

/-- A node added to the innermost open element keeps the builder well formed. -/
theorem append (kind : NodeKind) : WellFormed
    { builder with document := builder.document.append builder.current kind } where
  document := h.document.append kind h.isOpen_current
  isOpen number hnumber :=
    (h.isOpen number hnumber).append kind h.isOpen_current.1 (h.le_current hnumber)
  descending := h.descending

theorem addElement {tag : String} {attributes : List (String × String)}
    (hlater : builder.addElement tag attributes = .ok later) :
    later = { builder with
      document := builder.document.append builder.current (.element tag attributes) } ∧
    later.WellFormed := by
  unfold Builder.addElement at hlater
  split at hlater
  · cases hlater
  · cases hlater
    exact ⟨rfl, h.append _⟩

theorem openElement {tag : String} {attributes : List (String × String)}
    (hlater : builder.openElement tag attributes = .ok later) : later.WellFormed := by
  unfold Builder.openElement at hlater
  cases hadd : builder.addElement tag attributes with
  | error fault => rw [hadd] at hlater; cases hlater
  | ok grown =>
    rw [hadd] at hlater
    cases hlater
    obtain ⟨rfl, hgrown⟩ := h.addElement hadd
    have hlast := Document.isOpen_last (.element tag attributes) builder.document builder.current
    refine ⟨hgrown.document, ?_, ?_⟩
    · simp only [chain, List.map_cons, List.cons_append, List.forall_mem_cons]
      exact ⟨by simpa using hlast, hgrown.isOpen⟩
    · simp only [chain, List.map_cons, List.cons_append, List.pairwise_cons]
      refine ⟨fun number hnumber => ?_, h.descending⟩
      have := (h.isOpen number hnumber).1
      simpa using this

theorem closeElement {tag : String} (hlater : builder.closeElement tag = .ok later) :
    later.WellFormed := by
  obtain ⟨document, opened⟩ := builder
  unfold Builder.closeElement at hlater
  rcases opened with _ | ⟨⟨number, expected⟩, opened⟩
  · cases hlater
  · simp only at hlater
    split at hlater
    · cases hlater
      exact ⟨h.document, fun n hn => h.isOpen n (List.mem_cons_of_mem _ hn),
        h.descending.of_cons⟩
    · cases hlater

/-- **A step keeps the builder well formed.** -/
theorem step (hstep : Step builder later) : later.WellFormed := by
  cases hstep with
  | text content =>
    unfold addText
    split
    · exact h
    · rename_i number tag opened hopened
      have hnumber : builder.current = number := by simp [current, hopened]
      exact hnumber ▸ h.append (.text content)
  | element hadd => exact (h.addElement hadd).2
  | opening hopen => exact h.openElement hopen
  | closing hclose => exact h.closeElement hclose

end WellFormed

end Builder

/-! ### Readings -/

namespace Reading

/-- An event makes one step, or none. -/
theorem step_of_build {source rest : List Char} {builder later : Builder} {event : Markup.Event}
    (h : build source builder event rest = .ok later) : later = builder ∨ builder.Step later := by
  unfold build at h
  split at h
  · split at h
    · cases h; exact Or.inl rfl
    · split at h
      · cases h
      · cases h; exact Or.inr (.text builder _)
  · cases h; exact Or.inr (.text builder _)
  · split at h
    · cases h
    · split at h
      · exact Or.inr (.element h)
      · exact Or.inr (.opening h)
  · exact Or.inr (.closing h)
  · cases h; exact Or.inl rfl

theorem run_eq_of_next {source : List Char} {reading later : Reading} (hrest : reading.rest ≠ [])
    (hnext : reading.next source = .ok later) : reading.run source = later.run source := by
  rw [run, dif_neg hrest]
  split
  · rename_i h
    rw [hnext] at h
    cases h
  · rename_i h
    rw [hnext] at h
    cases h
    rfl

theorem run_eq_of_next_error {source : List Char} {reading : Reading} {fault : DocumentFault}
    (hrest : reading.rest ≠ []) (hnext : reading.next source = .error fault) :
    reading.run source = .error fault := by
  rw [run, dif_neg hrest]
  split
  · rename_i h
    rw [hnext] at h
    cases h
    rfl
  · rename_i h
    rw [hnext] at h
    cases h

/-- **What every event keeps, a whole reading keeps.** -/
theorem invariant_of_run {P : Builder → Prop} {source : List Char}
    (hbuild : ∀ {builder later : Builder} {event : Markup.Event} {rest : List Char},
      P builder → build source builder event rest = .ok later → P later)
    {reading : Reading} {document : Document} (h : reading.run source = .ok document)
    (hreading : P reading.builder) : ∃ builder, P builder ∧ builder.finish = .ok document := by
  have hstep : ∀ {reading later : Reading}, reading.next source = .ok later →
      P reading.builder → P later.builder := by
    intro reading later hnext hreading
    unfold next at hnext
    split at hnext
    · cases hnext
    · split at hnext
      · cases hnext
      · split at hnext
        · cases hnext
        · rename_i hlater
          cases hnext
          exact hbuild hreading hlater
  induction reading using run.induct source with
  | case1 reading hrest =>
    rw [run, dif_pos hrest] at h
    exact ⟨reading.builder, hreading, h⟩
  | case2 reading hrest fault hnext =>
    rw [run, dif_neg hrest] at h
    split at h <;> simp_all
  | case3 reading hrest later hnext ih =>
    rw [run, dif_neg hrest] at h
    split at h
    · cases h
    · rename_i later' hnext'
      obtain rfl : later = later' := by rw [hnext] at hnext'; exact Except.ok.inj hnext'
      exact ih h (hstep hnext hreading)

theorem built_of_run {source : List Char} {reading : Reading} {document : Document}
    (h : reading.run source = .ok document) : ∃ builder,
      Relation.ReflTransGen Builder.Step reading.builder builder ∧
      builder.finish = .ok document := by
  refine invariant_of_run (fun {builder later event rest} hsteps hbuild => ?_) h .refl
  rcases step_of_build hbuild with rfl | hstep
  · exact hsteps
  · exact hsteps.tail hstep

end Reading

/-- A parsed document is what a builder has made in some steps. -/
theorem Document.built_of_parse {text : String} {document : Document}
    (h : Document.parse text = .ok document) : ∃ builder,
      Relation.ReflTransGen Builder.Step .start builder ∧ builder.finish = .ok document :=
  Reading.built_of_run h

theorem Builder.document_of_finish {builder : Builder} {document : Document}
    (h : builder.finish = .ok document) : document = builder.document := by
  unfold Builder.finish at h
  split at h
  · cases h
  · split at h
    · cases h; rfl
    · cases h

/-- **Parsed documents are well formed.** -/
theorem Document.wellFormed_of_parse {text : String} {document : Document}
    (h : Document.parse text = .ok document) : document.WellFormed := by
  obtain ⟨builder, hsteps, hfinish⟩ := Document.built_of_parse h
  have hbuilder : builder.WellFormed := by
    clear hfinish
    induction hsteps with
    | refl => exact Builder.wellFormed_start
    | tail _ hstep ih => exact ih.step hstep
  rw [Builder.document_of_finish hfinish]
  exact hbuilder.document

end GladeGo
