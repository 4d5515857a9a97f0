import GladeGo.CommandLine.Arguments
import GladeGo.Proofs.Run

/-! # Flags on the command line

Flags add up: what is read later takes none of them away. A text that looks like an option is never
taken for the value of another one. So a run that is given `--dump-units`, anywhere and with
whatever else, shows the plans and writes no file (`task_of_dumpUnits`). -/

namespace GladeGo.CommandLine

theorem Given.flags_addValue {given later : Given} {option : ValueOption} {value : String}
    (h : given.addValue option value = .ok later) : later.flags = given.flags := by
  unfold addValue at h
  split_ifs at h
  rw [← Except.ok.inj h]

theorem Given.flags_addFlag {given later : Given} {flag : Flag}
    (h : given.addFlag flag = .ok later) : later.flags = flag :: given.flags := by
  unfold addFlag at h
  split_ifs at h
  rw [← Except.ok.inj h]

theorem Given.flags_addShortFlags {given later : Given} {argument : String} {cs : List Char}
    (h : given.addShortFlags argument cs = .ok later) : given.flags ⊆ later.flags := by
  induction cs generalizing given with
  | nil =>
    rw [← Except.ok.inj h]
    exact List.Subset.refl _
  | cons c cs ih =>
    rw [addShortFlags] at h
    split at h
    · cases h
    · obtain ⟨next, hnext, h⟩ := bind_eq_ok.mp h
      refine List.Subset.trans ?_ (ih h)
      rw [flags_addFlag hnext]
      exact List.subset_cons_self _ _

/-- How `--dump-units` is read: it has no value attached, and it is a flag. -/
theorem reads_dumpUnits {name : List Char}
    (h : "--dump-units".toList = '-' :: '-' :: name) :
    name ≠ [] ∧ name.dropWhile (· != '=') = [] ∧
      valueOption? (String.ofList ('-' :: '-' :: name.takeWhile (· != '='))) = none ∧
      flag? (String.ofList ('-' :: '-' :: name.takeWhile (· != '='))) = some .dumpUnits := by
  have hchars : "--dump-units".toList = '-' :: '-' :: "dump-units".toList := by decide
  obtain rfl := (List.cons.inj (List.cons.inj (hchars.symm.trans h)).2).2
  decide

/-- Flags that are read stay, and `--dump-units` is never taken for a value. -/
theorem flags_of_readArguments {given later : Given} {line : List String}
    (h : readArguments given line = .ok later) :
    given.flags ⊆ later.flags ∧ ("--dump-units" ∈ line → .dumpUnits ∈ later.flags) := by
  fun_induction readArguments given line with
  | case1 given => exact ⟨Except.ok.inj h ▸ List.Subset.refl _, fun hdump => nomatch hdump⟩
  | case2 given argument rest name hname long attached option first value hattached hoption ih =>
    obtain ⟨next, hnext, h⟩ := bind_eq_ok.mp h
    obtain ⟨hflags, hrest⟩ := ih next h
    refine ⟨Given.flags_addValue hnext ▸ hflags, fun hdump => hrest ?_⟩
    refine (List.mem_cons.mp hdump).resolve_left fun hargument => ?_
    subst hargument
    exact List.cons_ne_nil first value (hattached.symm.trans (reads_dumpUnits hname).2.1)
  | case3 => cases h
  | case4 => cases h
  | case5 given argument name hname long attached option hattached hoption value rest hlooks ih =>
    obtain ⟨next, hnext, h⟩ := bind_eq_ok.mp h
    obtain ⟨hflags, hrest⟩ := ih next h
    refine ⟨Given.flags_addValue hnext ▸ hflags, fun hdump => hrest ?_⟩
    rcases List.mem_cons.mp hdump with hargument | hdump
    · subst hargument
      exact (nomatch (reads_dumpUnits hname).2.2.1.symm.trans hoption)
    · -- The value may be any text, but not one that looks like an option.
      refine (List.mem_cons.mp hdump).resolve_left fun hvalue => ?_
      exact hlooks (hvalue ▸ by decide)
  | case6 given argument rest name hname long attached hattached hoption flag hflag ih =>
    obtain ⟨next, hnext, h⟩ := bind_eq_ok.mp h
    obtain ⟨hflags, hrest⟩ := ih next h
    rw [Given.flags_addFlag hnext] at hflags
    refine ⟨List.Subset.trans (List.subset_cons_self _ _) hflags, fun hdump => ?_⟩
    rcases List.mem_cons.mp hdump with hargument | hdump
    · subst hargument
      obtain rfl := Option.some.inj ((reads_dumpUnits hname).2.2.2.symm.trans hflag)
      exact hflags List.mem_cons_self
    · exact hrest hdump
  | case7 given argument hname long attached hattached hoption hflag =>
    -- A lone `--` ends the line.
    refine ⟨Except.ok.inj h ▸ List.Subset.refl _, fun hdump => ?_⟩
    obtain rfl := List.mem_singleton.mp hdump
    exact absurd rfl (reads_dumpUnits hname).1
  | case8 => cases h
  | case9 => cases h
  | case10 given argument rest c cs hc hargument ih =>
    obtain ⟨next, hnext, h⟩ := bind_eq_ok.mp h
    obtain ⟨hflags, hrest⟩ := ih next h
    refine ⟨List.Subset.trans (Given.flags_addShortFlags hnext) hflags, fun hdump => hrest ?_⟩
    refine (List.mem_cons.mp hdump).resolve_left fun hsame => ?_
    rw [← hsame] at hargument
    exact hc (List.cons.inj (List.cons.inj hargument).2).1.symm
  | case11 => cases h

/-- **With `--dump-units` the plans are shown**, whatever else is given. -/
theorem task_of_dumpUnits {line : List String} {arguments : Arguments}
    (h : readInvocation line = .ok (.run arguments)) (hdump : "--dump-units" ∈ line) :
    arguments.task = .dump := by
  obtain ⟨given, hgiven, h⟩ := bind_eq_ok.mp h
  have hflag := (flags_of_readArguments hgiven).2 hdump
  split_ifs at h with hhelp hversion
  · cases h
  · cases h
  · obtain ⟨run, hrun, h⟩ := bind_eq_ok.mp h
    cases h
    simp only [Given.arguments, if_pos hflag] at hrun
    split at hrun
    · rw [← Except.ok.inj hrun]
    · cases hrun

end GladeGo.CommandLine
