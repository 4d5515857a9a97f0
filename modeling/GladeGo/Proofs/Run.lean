import GladeGo.Log
import Mathlib.Data.List.Forall2

/-! # Computations over lists

What a computation that may fail says of the lists it goes over: it succeeds exactly if each of its
parts does. The result of a logged computation is that of the computation without its records. -/

namespace GladeGo

variable {ε α β : Type}

theorem exists_of_mem_left {R : α → β → Prop} {as : List α} {bs : List β}
    (h : List.Forall₂ R as bs) {a : α} (ha : a ∈ as) : ∃ b ∈ bs, R a b := by
  induction h with
  | nil => simp at ha
  | @cons a' b as bs hab _ ih =>
    rcases List.mem_cons.mp ha with rfl | ha
    · exact ⟨b, List.mem_cons_self, hab⟩
    · obtain ⟨b', hb', h⟩ := ih ha
      exact ⟨b', List.mem_cons_of_mem _ hb', h⟩

theorem ok_bind (a : α) (f : α → Except ε β) : Except.ok a >>= f = f a := rfl

theorem eq_ok_of_toOption {x : Except ε α} {a : α} (h : x.toOption = some a) : x = .ok a := by
  cases x with
  | error fault => exact (nomatch h)
  | ok b => exact congrArg Except.ok (Option.some.inj h)

theorem exists_ok_of_isSome {x : Except ε α} (h : x.toOption.isSome = true) : ∃ a, x = .ok a := by
  obtain ⟨a, ha⟩ := Option.isSome_iff_exists.mp h
  exact ⟨a, eq_ok_of_toOption ha⟩

theorem bind_eq_ok {x : Except ε α} {f : α → Except ε β} {b : β} :
    x >>= f = .ok b ↔ ∃ a, x = .ok a ∧ f a = .ok b := by
  cases x with
  | error fault => exact ⟨fun h => (nomatch h), fun ⟨_, h, _⟩ => (nomatch h)⟩
  | ok a => exact ⟨fun h => ⟨a, rfl, h⟩, fun ⟨_, ha, h⟩ => Except.ok.inj ha ▸ h⟩

theorem bind_eq_error {x : Except ε α} {f : α → Except ε β} {fault : ε} :
    x >>= f = .error fault ↔ x = .error fault ∨ ∃ a, x = .ok a ∧ f a = .error fault := by
  cases x with
  | error other => simp [bind, Except.bind]
  | ok a => simp [ok_bind]

theorem mapError_eq_ok {δ : Type} {x : Except ε α} {f : ε → δ} {a : α} :
    x.mapError f = .ok a ↔ x = .ok a := by
  cases x <;> simp [Except.mapError]

theorem mapError_eq_error {δ : Type} {x : Except ε α} {f : ε → δ} {fault : δ} :
    x.mapError f = .error fault ↔ ∃ cause, x = .error cause ∧ f cause = fault := by
  cases x <;> simp [Except.mapError]

theorem map_some_eq_ok {x : Except ε α} {a : α} : x.map some = .ok (some a) ↔ x = .ok a := by
  cases x <;> simp [Except.map]

theorem map_eq_ok {x : Except ε α} {f : α → β} {b : β} :
    x.map f = .ok b ↔ ∃ a, x = .ok a ∧ f a = b := by
  cases x <;> simp [Except.map]

theorem map_eq_error {x : Except ε α} {f : α → β} {fault : ε} :
    x.map f = .error fault ↔ x = .error fault := by
  cases x <;> simp [Except.map]

/-- Two computations that go on in the same way, but for `g`, from the results of `x`. -/
theorem bind_eq_map_bind {γ : Type} {x : Except ε α} {f : α → Except ε γ} {f' : α → Except ε β}
    {g : β → γ} (h : ∀ a, x = .ok a → f a = (f' a).map g) : x >>= f = (x >>= f').map g := by
  cases x with
  | error fault => rfl
  | ok a => exact h a rfl

theorem mapM_eq_ok_iff {f : α → Except ε β} {as : List α} {bs : List β} :
    as.mapM f = .ok bs ↔ List.Forall₂ (fun a b => f a = .ok b) as bs := by
  induction as generalizing bs with
  | nil =>
    rw [List.mapM_nil, List.forall₂_nil_left_iff]
    exact ⟨fun h => (Except.ok.inj h).symm, fun h => h ▸ rfl⟩
  | cons a as ih =>
    simp only [List.mapM_cons, bind_eq_ok, ih, List.forall₂_cons_left_iff]
    constructor
    · rintro ⟨b, hb, bs', hbs, h⟩; exact ⟨b, bs', hb, hbs, (Except.ok.inj h).symm⟩
    · rintro ⟨b, bs', hb, hbs, rfl⟩; exact ⟨b, hb, bs', hbs, rfl⟩

/-- What fails over a list fails at one of its members, and succeeds at those before it. -/
theorem split_of_mapM_error {f : α → Except ε β} {as : List α} {fault : ε}
    (h : as.mapM f = .error fault) : ∃ before a after, as = before ++ a :: after ∧
      (∀ b ∈ before, ∃ c, f b = .ok c) ∧ f a = .error fault := by
  induction as with
  | nil => cases h
  | cons a as ih =>
    rw [List.mapM_cons] at h
    rcases bind_eq_error.mp h with h | ⟨c, hc, h⟩
    · exact ⟨[], a, as, rfl, fun _ hmem => absurd hmem List.not_mem_nil, h⟩
    · rcases bind_eq_error.mp h with h | ⟨cs, -, h⟩
      · obtain ⟨before, b, after, rfl, hbefore, hb⟩ := ih h
        exact ⟨a :: before, b, after, rfl, List.forall_mem_cons.mpr ⟨⟨c, hc⟩, hbefore⟩, hb⟩
      · cases h

/-- What fails at a member of a list, and succeeds at those before it, fails over the list. -/
theorem mapM_eq_error_of_split {f : α → Except ε β} {before after : List α} {a : α} {fault : ε}
    (hbefore : ∀ b ∈ before, ∃ c, f b = .ok c) (ha : f a = .error fault) :
    (before ++ a :: after).mapM f = .error fault := by
  induction before with
  | nil =>
    rw [List.nil_append, List.mapM_cons, ha]
    rfl
  | cons b before ih =>
    obtain ⟨⟨c, hc⟩, hbefore⟩ := List.forall_mem_cons.mp hbefore
    rw [List.cons_append, List.mapM_cons, hc, ok_bind, ih hbefore]
    rfl

theorem split_of_foldlM_error {σ : Type} {f : σ → α → Except ε σ} {as : List α} {start : σ}
    {fault : ε} (h : as.foldlM f start = .error fault) : ∃ before a after state,
      as = before ++ a :: after ∧ before.foldlM f start = .ok state ∧
      f state a = .error fault := by
  induction as generalizing start with
  | nil => cases h
  | cons a as ih =>
    rw [List.foldlM_cons] at h
    rcases bind_eq_error.mp h with h | ⟨next, hnext, h⟩
    · exact ⟨[], a, as, start, rfl, rfl, h⟩
    · obtain ⟨before, b, after, state, rfl, hbefore, hb⟩ := ih h
      refine ⟨a :: before, b, after, state, rfl, ?_, hb⟩
      rw [List.foldlM_cons, hnext, ok_bind]
      exact hbefore

/-- What is found over a list is what is found for its first member, and then for the others. -/
theorem map_filterMap_mapM_cons (f : α → Except ε (Option β)) (a : α) (as : List α) :
    ((a :: as).mapM f).map (List.filterMap id) =
      f a >>= fun b => ((as.mapM f).map (List.filterMap id)).map (b.toList ++ ·) := by
  rw [List.mapM_cons]
  cases f a with
  | error fault => rfl
  | ok b =>
    rw [ok_bind, ok_bind]
    cases as.mapM f with
    | error fault => rfl
    | ok bs => cases b <;> rfl

/-- Members of a list for which nothing is found may as well be left out. -/
theorem map_filterMap_mapM_filter {f : α → Except ε (Option β)} {p : α → Bool}
    (hskip : ∀ a, p a = false → f a = .ok none) (as : List α) :
    ((as.filter p).mapM f).map (List.filterMap id) = (as.mapM f).map (List.filterMap id) := by
  induction as with
  | nil => rfl
  | cons a as ih =>
    rw [map_filterMap_mapM_cons, ← ih]
    cases hp : p a with
    | false =>
      rw [List.filter_cons_of_neg (by simp [hp]), hskip a hp, ok_bind]
      cases (as.filter p).mapM f <;> rfl
    | true => rw [List.filter_cons_of_pos hp, map_filterMap_mapM_cons]

/-! ### Two lists side by side -/

theorem map_eq_map_iff {γ : Type} {f : α → γ} {g : β → γ} {as : List α} {bs : List β} :
    as.map f = bs.map g ↔ List.Forall₂ (fun a b => f a = g b) as bs := by
  rw [← List.forall₂_eq_eq_eq, List.forall₂_map_left_iff, List.forall₂_map_right_iff]

theorem forall₂_and_mem {R : α → β → Prop} {as : List α} {bs : List β}
    (h : List.Forall₂ R as bs) : List.Forall₂ (fun a b => R a b ∧ a ∈ as ∧ b ∈ bs) as bs := by
  induction h with
  | nil => exact .nil
  | cons hab _ ih =>
    refine .cons ⟨hab, List.mem_cons_self, List.mem_cons_self⟩ (ih.imp fun a b h => ?_)
    exact ⟨h.1, List.mem_cons_of_mem _ h.2.1, List.mem_cons_of_mem _ h.2.2⟩

/-- Where the same is found in two lists, it is found for one member after the other. -/
theorem forall₂_of_filterMap_eq {γ : Type} {f : α → Option γ} {g : β → Option γ} {as : List α}
    {bs : List β} (h : as.filterMap f = bs.filterMap g) :
    List.Forall₂ (fun a b => ∃ c, f a = some c ∧ g b = some c)
      (as.filter fun a => (f a).isSome) (bs.filter fun b => (g b).isSome) := by
  have hfound := congrArg (List.map some) h
  rw [List.map_filterMap_some_eq_filter_map_isSome, List.map_filterMap_some_eq_filter_map_isSome,
    List.filter_map, List.filter_map] at hfound
  refine (forall₂_and_mem (map_eq_map_iff.mp hfound)).imp fun a b ⟨hab, ha, _⟩ => ?_
  obtain ⟨c, hc⟩ := Option.isSome_iff_exists.mp (List.mem_filter.mp ha).2
  exact ⟨c, hc, hab ▸ hc⟩

theorem mapM_congr {m : Type → Type} [Monad m] [LawfulMonad m] {γ : Type} {f : α → m γ}
    {g : β → m γ} {as : List α} {bs : List β} (h : List.Forall₂ (fun a b => f a = g b) as bs) :
    as.mapM f = bs.mapM g := by
  induction h with
  | nil => simp
  | cons hab _ ih => rw [List.mapM_cons, List.mapM_cons, hab, ih]

theorem rel_find? {R : α → β → Prop} {p : α → Bool} {q : β → Bool} {as : List α} {bs : List β}
    (h : List.Forall₂ R as bs) (hpq : ∀ a b, R a b → p a = q b) :
    Option.Rel R (as.find? p) (bs.find? q) := by
  induction h with
  | nil => exact .none
  | cons hab _ ih =>
    rw [List.find?_cons, List.find?_cons, hpq _ _ hab]
    split
    · exact .some hab
    · exact ih

theorem foldlM_congr {m : Type → Type} [Monad m] {γ : Type} {f : γ → α → m γ} {g : γ → β → m γ}
    {as : List α} {bs : List β} (h : List.Forall₂ (fun a b => ∀ s, f s a = g s b) as bs) (s : γ) :
    as.foldlM f s = bs.foldlM g s := by
  induction h generalizing s with
  | nil => rfl
  | cons hab _ ih => rw [List.foldlM_cons, List.foldlM_cons, hab, funext ih]

/-- Two computations that fail with the same fault, or succeed with results related by `R`. -/
inductive Agree {α β : Type} (R : α → β → Prop) : Except ε α → Except ε β → Prop
  | ok {a : α} {b : β} (h : R a b) : Agree R (.ok a) (.ok b)
  | error (fault : ε) : Agree R (.error fault) (.error fault)

section Agree
variable {R : α → β → Prop} {γ δ : Type} {S : γ → δ → Prop}

theorem agree_eq (x : Except ε α) : Agree Eq x x := by
  cases x with
  | error fault => exact .error fault
  | ok a => exact .ok rfl

theorem Agree.eq {x y : Except ε α} (h : Agree Eq x y) : x = y := by
  cases h with
  | ok h => rw [h]
  | error fault => rfl

theorem Agree.bind {x : Except ε α} {y : Except ε β} {f : α → Except ε γ} {g : β → Except ε δ}
    (h : Agree R x y) (hfg : ∀ a b, R a b → Agree S (f a) (g b)) : Agree S (x >>= f) (y >>= g) := by
  cases h with
  | ok h => exact hfg _ _ h
  | error fault => exact .error fault

theorem Agree.map {x : Except ε α} {y : Except ε β} {f : α → γ} {g : β → δ} (h : Agree R x y)
    (hfg : ∀ a b, R a b → S (f a) (g b)) : Agree S (x.map f) (y.map g) := by
  cases h with
  | ok h => exact .ok (hfg _ _ h)
  | error fault => exact .error fault

theorem agree_mapM {f : α → Except ε γ} {g : β → Except ε δ} {as : List α} {bs : List β}
    (h : List.Forall₂ R as bs) (hfg : ∀ a b, R a b → Agree S (f a) (g b)) :
    Agree (List.Forall₂ S) (as.mapM f) (bs.mapM g) := by
  induction h with
  | nil => exact .ok .nil
  | cons hab _ ih =>
    rw [List.mapM_cons, List.mapM_cons]
    exact (hfg _ _ hab).bind fun c d hcd => ih.bind fun cs ds hcds => .ok (.cons hcd hcds)

end Agree

/-- Whatever the first computation gives, the second gives something related to it by `R`. -/
def Carries {α β : Type} (R : α → β → Prop) (x : Except ε α) (y : Except ε β) : Prop :=
  ∀ a, x = .ok a → ∃ b, y = .ok b ∧ R a b

section Carries
variable {R : α → β → Prop} {γ δ : Type} {S : γ → δ → Prop}

theorem Carries.bind {x : Except ε α} {y : Except ε β} {f : α → Except ε γ} {g : β → Except ε δ}
    (h : Carries R x y) (hfg : ∀ a b, R a b → Carries S (f a) (g b)) :
    Carries S (x >>= f) (y >>= g) := by
  intro c hc
  obtain ⟨a, ha, hc⟩ := bind_eq_ok.mp hc
  obtain ⟨b, hb, hab⟩ := h a ha
  obtain ⟨d, hd, hcd⟩ := hfg a b hab c hc
  exact ⟨d, bind_eq_ok.mpr ⟨b, hb, hd⟩, hcd⟩

theorem Carries.map {x : Except ε α} {y : Except ε β} {f : α → γ} {g : β → δ}
    (h : Carries R x y) (hfg : ∀ a b, R a b → S (f a) (g b)) : Carries S (x.map f) (y.map g) := by
  intro c hc
  cases hx : x with
  | error fault =>
    rw [hx] at hc
    cases hc
  | ok a =>
    rw [hx] at hc
    obtain ⟨b, rfl, hab⟩ := h a hx
    exact ⟨g b, rfl, Except.ok.inj hc ▸ hfg a b hab⟩

theorem carries_mapM {f : α → Except ε γ} {g : β → Except ε δ} {as : List α} {bs : List β}
    (h : List.Forall₂ R as bs) (hfg : ∀ a b, R a b → Carries S (f a) (g b)) :
    Carries (List.Forall₂ S) (as.mapM f) (bs.mapM g) := by
  induction h with
  | nil => exact fun cs hcs => ⟨[], rfl, Except.ok.inj hcs ▸ .nil⟩
  | cons hab _ ih =>
    rw [List.mapM_cons, List.mapM_cons]
    refine (hfg _ _ hab).bind fun c d hcd => ih.bind fun cs ds hcds => ?_
    exact fun _ hcons => ⟨d :: ds, rfl, Except.ok.inj hcons ▸ .cons hcd hcds⟩

theorem carries_foldlM {σ : Type} {f : σ → α → Except ε σ} {g : σ → β → Except ε σ} {as : List α}
    {bs : List β} (h : List.Forall₂ R as bs)
    (hfg : ∀ a b, R a b → ∀ s, Carries Eq (f s a) (g s b)) (s : σ) :
    Carries Eq (as.foldlM f s) (bs.foldlM g s) := by
  induction h generalizing s with
  | nil => exact fun later hlater => ⟨later, hlater, rfl⟩
  | cons hab _ ih =>
    rw [List.foldlM_cons, List.foldlM_cons]
    exact (hfg _ _ hab s).bind fun next next' hnext => hnext ▸ ih next

end Carries

/-! ### Faults -/

/-- If `x` fails, its fault has the property `p`. -/
def FailsOnlyWith (p : ε → Prop) (x : Except ε α) : Prop := ∀ fault, x = .error fault → p fault

theorem failsOnlyWith_ok {p : ε → Prop} (a : α) : FailsOnlyWith p (.ok a : Except ε α) :=
  fun _ h => nomatch h

theorem failsOnlyWith_error {p : ε → Prop} {fault : ε} (h : p fault) :
    FailsOnlyWith p (.error fault : Except ε α) := by
  intro other hother
  cases hother
  exact h

theorem FailsOnlyWith.bind_of_ok {p : ε → Prop} {x : Except ε α} {f : α → Except ε β}
    (hx : FailsOnlyWith p x) (hf : ∀ a, x = .ok a → FailsOnlyWith p (f a)) :
    FailsOnlyWith p (x >>= f) := by
  intro fault h
  rcases bind_eq_error.mp h with h | ⟨a, ha, h⟩
  · exact hx fault h
  · exact hf a ha fault h

theorem FailsOnlyWith.bind {p : ε → Prop} {x : Except ε α} {f : α → Except ε β}
    (hx : FailsOnlyWith p x) (hf : ∀ a, FailsOnlyWith p (f a)) : FailsOnlyWith p (x >>= f) :=
  hx.bind_of_ok fun a _ => hf a

theorem failsOnlyWith_mapM_of_mem {p : ε → Prop} {f : α → Except ε β} {as : List α}
    (hf : ∀ a ∈ as, FailsOnlyWith p (f a)) : FailsOnlyWith p (as.mapM f) := by
  intro fault h
  obtain ⟨before, a, after, rfl, -, ha⟩ := split_of_mapM_error h
  exact hf a (List.mem_append_right _ List.mem_cons_self) fault ha

theorem failsOnlyWith_mapM {p : ε → Prop} {f : α → Except ε β} (hf : ∀ a, FailsOnlyWith p (f a))
    (as : List α) : FailsOnlyWith p (as.mapM f) :=
  failsOnlyWith_mapM_of_mem fun a _ => hf a

/-! ### Folds -/

/-- A list that each step only lengthens is in the end all that the steps have added. -/
theorem foldl_append_eq {σ : Type} {field : σ → List β} {step : σ → α → σ} {added : α → List β}
    (hstep : ∀ s a, field (step s a) = field s ++ added a) (as : List α) (s : σ) :
    field (as.foldl step s) = field s ++ as.flatMap added := by
  induction as generalizing s with
  | nil => simp
  | cons a as ih => rw [List.foldl_cons, ih, hstep, List.append_assoc, List.flatMap_cons]

theorem Logged.result_mapM (f : α → Logged ε β) (as : List α) :
    (as.mapM f).result = as.mapM fun a => (f a).result := by
  induction as with
  | nil => rfl
  | cons a as ih => simp only [List.mapM_cons, result_bind, result_pure, ih]; rfl

end GladeGo
