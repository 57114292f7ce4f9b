import Citations.Proofs.Faults

/-!
# Which contributors a citation names

MLA and Chicago lead with the authors. The editors, and in Chicago also the compilers and
translators, are named after the title (`edited by …`, `Edited by …`) unless the leading
creators are credited in their role. The leading creators are credited as the editors when
there are no authors, and then the editors lead; but also when every author is an editor, and
then only the authors lead. In that second case an editor who is not an author is named
nowhere.

`editors_left_out` says exactly which contributors are left out: in both styles, the editors
that are not authors, when there are authors and all of them are editors (`Mla.leavesOut_iff`,
`Chicago.leavesOut_iff`). Compilers and translators never are, since the authors that lead a
Chicago citation are none of them (`Chicago.leadingCreators_of_authors`). A contributor left
out has no effect on the citation at all (`Mla.format_filter_editors`,
`Chicago.format_filter_editors`). `coeditor_left_out` is the smallest such citation: one author,
who is the first of two editors.

No Chicago role is credited twice. The body writes an `<Action> by` sentence, with the role's
names, for exactly the roles of `Chicago.sentenceRoles`, in order (`Chicago.format_sentences`),
and those leave out the role the leading creators are credited in. The proof follows the loop
over the roles with one invariant (`Chicago.SentencesSoFar`); every step after the loop only
appends (`Continues`).
-/

set_option mvcgen.warning false

namespace Citations.Style

open Std.Do Citations.Text

/-! ## Names not among others -/

theorem mem_withoutNames {names excluded : List String} {n : String} :
    n ∈ withoutNames names excluded ↔ n ∈ names ∧ n ∉ excluded := by
  simp [withoutNames]

theorem withoutNames_eq_nil_iff {names excluded : List String} :
    withoutNames names excluded = [] ↔ names ⊆ excluded := by
  simp [withoutNames, List.subset_def]

theorem ne_nil_of_subset {names other : List String} (hne : names ≠ []) (hsub : names ⊆ other) :
    other ≠ [] := by
  obtain ⟨n, hn⟩ := List.exists_mem_of_ne_nil names hne
  exact List.ne_nil_of_mem (hsub hn)

theorem subset_filter_ne {names other : List String} {e : String} (hsub : names ⊆ other)
    (he : e ∉ names) : names ⊆ other.filter (· ≠ e) := fun n hn =>
  List.mem_filter.mpr ⟨hsub hn, by simpa using fun h : n = e => he (h ▸ hn)⟩

/-! ## Text that only grows -/

/-- `s` is `t` followed by anything. -/
def Continues (t s : String) : Prop := ∃ rest, s = t ++ rest

theorem Continues.refl (t : String) : Continues t t := ⟨"", by simp⟩

theorem Continues.of_isEmpty {t s : String} (h : Continues t s) (hs : s.isEmpty = true)
    (f : String) : Continues t f := by
  obtain ⟨rest, rfl⟩ := h
  obtain ⟨rfl, rfl⟩ := String.append_eq_empty_iff.mp (by simpa [String.isEmpty_iff] using hs)
  exact ⟨f, by simp⟩

theorem Continues.ensurePeriod {t s : String} (h : Continues t s) :
    Continues t (Citations.Text.ensurePeriod s) := by
  obtain ⟨rest, rfl⟩ := h
  unfold Citations.Text.ensurePeriod
  split
  · exact ⟨rest ++ ".", by simp [String.append_assoc]⟩
  · exact ⟨rest, rfl⟩

theorem Continues.spaced {t s : String} (g : String) (h : Continues t s) :
    Continues t (ensureSpace s ++ g) := by
  obtain ⟨rest, rfl⟩ := h
  unfold ensureSpace
  split
  · exact ⟨rest ++ " " ++ g, by simp [String.append_assoc]⟩
  · exact ⟨rest ++ g, by simp [String.append_assoc]⟩

theorem Continues.appendFragment {t s : String} (f sep : String) (terms : List String)
    (h : Continues t s) : Continues t (Citations.Text.appendFragment s f sep terms) := by
  unfold Citations.Text.appendFragment
  by_cases hf : f.isEmpty = true
  · simpa [hf] using h
  by_cases hs : s.isEmpty = true
  · -- nothing before the fragment: the text so far was empty
    simpa [hf, hs] using h.of_isEmpty hs f
  obtain ⟨rest, rfl⟩ := h
  simp only [hf, hs, Bool.false_eq_true, if_false]
  split_ifs <;> exact ⟨_, by (try simp only [String.append_assoc]); rfl⟩

theorem Continues.appendPages {t s : String} (pages : String) (h : Continues t s) :
    Continues t (Chicago.appendPages s pages) := by
  unfold Chicago.appendPages
  by_cases hp : pages.isEmpty = true
  · simpa [hp] using h
  by_cases hs : s.isEmpty = true
  · simpa [hp, hs] using h.of_isEmpty hs pages
  obtain ⟨rest, rfl⟩ := h
  simp only [hp, hs, Bool.false_eq_true, if_false]
  split_ifs <;> exact Continues.spaced pages ⟨_, by (try simp only [String.append_assoc]); rfl⟩

/-! ## MLA -/

namespace Mla

/-- An MLA citation leaves editor `e` out when `e` is not among its leading creators and those
are marked as the editors, which means that no `edited by` phrase follows. -/
def LeavesOut (c : Citation) (e : String) : Prop :=
  e ∉ (leadingCreators c.authors c.editors c.publisher).1 ∧
    (leadingCreators c.authors c.editors c.publisher).2 = true

end Mla

theorem leadingCreators_of_subset {authors editors : List String} {publisher : String}
    (hne : withoutNames authors [publisher] ≠ [])
    (hsub : withoutNames authors [publisher] ⊆ editors) :
    leadingCreators authors editors publisher = (withoutNames authors [publisher], true) := by
  have heditors := ne_nil_of_subset hne hsub
  simp [leadingCreators, hne, heditors, withoutNames_eq_nil_iff.mpr hsub]

namespace Mla

theorem leavesOut_iff {c : Citation} {e : String} (he : e ∈ c.editors) :
    LeavesOut c e ↔
      withoutNames c.authors [c.publisher] ≠ [] ∧
        withoutNames c.authors [c.publisher] ⊆ c.editors ∧
        e ∉ withoutNames c.authors [c.publisher] := by
  by_cases hcover : withoutNames c.authors [c.publisher] ≠ [] ∧
      withoutNames c.authors [c.publisher] ⊆ c.editors
  · rw [LeavesOut, leadingCreators_of_subset hcover.1 hcover.2]
    simp [hcover]
  · -- otherwise the editors lead, or the authors lead without the mark
    have hnamed : e ∈ (leadingCreators c.authors c.editors c.publisher).1 ∨
        (leadingCreators c.authors c.editors c.publisher).2 = false := by
      have heditors : c.editors ≠ [] := List.ne_nil_of_mem he
      unfold leadingCreators
      dsimp only
      split_ifs with hlead hmark
      · exact .inl he
      · simp only [Bool.and_eq_true, Bool.not_eq_true', List.isEmpty_eq_false_iff,
          List.isEmpty_iff] at hmark
        exact absurd ⟨hmark.1.1, withoutNames_eq_nil_iff.mp hmark.2⟩ hcover
      · exact .inr rfl
    constructor
    · rintro ⟨hout, hmark⟩
      rcases hnamed with hin | hunmarked
      · exact absurd hin hout
      · rw [hmark] at hunmarked
        cases hunmarked
    · rintro ⟨hne, hsub, -⟩
      exact absurd ⟨hne, hsub⟩ hcover

/-- An editor left out has no effect on the citation. -/
theorem format_filter_editors {c : Citation} {e : String} (he : e ∈ c.editors)
    (h : LeavesOut c e) : format { c with editors := c.editors.filter (· ≠ e) } = format c := by
  obtain ⟨hne, hsub, hout⟩ := (leavesOut_iff he).mp h
  have hlead := leadingCreators_of_subset hne hsub
  have hlead' := leadingCreators_of_subset hne (subset_filter_ne hsub hout)
  -- the `edited by` phrase is not written on either side, and nothing else reads the editors
  simp only [format, hlead, hlead', Bool.not_true, Bool.and_false, Bool.false_eq_true, if_false]
  rfl

end Mla

/-! ## Chicago -/

namespace Chicago

/-- A Chicago citation leaves contributor `p` of role `r` out when `p` is not among its leading
creators and those are credited in role `r`, which means that the role has no sentence. -/
def LeavesOut (c : Citation) (r : Role) (p : String) : Prop :=
  p ∉ (leadingCreators c).1 ∧ (leadingCreators c).2 = some r

theorem withoutNames_of_mem_excluded {names excluded sub : List String}
    (hsub : sub ⊆ excluded) : withoutNames (withoutNames names excluded) sub =
      withoutNames names excluded := by
  apply List.filter_eq_self.mpr
  intro n hn
  have hn' := (mem_withoutNames.mp hn).2
  simpa using fun h => hn' (hsub h)

/-- The authors that lead are none of the compilers and translators, so the only role they can
be credited in is the editors'. -/
theorem leadingCreators_of_authors {c : Citation}
    (hne : withoutNames c.authors (c.publisher :: c.compilers ++ c.translators) ≠ []) :
    leadingCreators c = (withoutNames c.authors (c.publisher :: c.compilers ++ c.translators),
      if withoutNames c.authors (c.publisher :: c.compilers ++ c.translators) ⊆ c.editors then
        some .editor else none) := by
  have hcompilers : withoutNames (withoutNames c.authors
      (c.publisher :: c.compilers ++ c.translators)) c.compilers = _ :=
    withoutNames_of_mem_excluded fun n hn => by simp [hn]
  have htranslators : withoutNames (withoutNames c.authors
      (c.publisher :: c.compilers ++ c.translators)) c.translators = _ :=
    withoutNames_of_mem_excluded fun n hn => by simp [hn]
  unfold leadingCreators
  generalize withoutNames c.authors (c.publisher :: c.compilers ++ c.translators) = authors
    at hne hcompilers htranslators ⊢
  by_cases hsub : authors ⊆ c.editors
  · have heditors := ne_nil_of_subset hne hsub
    simp [roles, Role.names, hne, heditors, withoutNames_eq_nil_iff.mpr hsub, hsub]
  · -- no role qualifies: the editors do not hold all the authors, and the others hold none
    simp [roles, Role.names, hne, hcompilers, htranslators, hsub, withoutNames_eq_nil_iff]

theorem leavesOut_iff {c : Citation} {r : Role} {p : String} (hp : p ∈ r.names c) :
    LeavesOut c r p ↔
      r = .editor ∧ withoutNames c.authors (c.publisher :: c.compilers ++ c.translators) ≠ [] ∧
        withoutNames c.authors (c.publisher :: c.compilers ++ c.translators) ⊆ c.editors ∧
        p ∉ withoutNames c.authors (c.publisher :: c.compilers ++ c.translators) := by
  by_cases hne : withoutNames c.authors (c.publisher :: c.compilers ++ c.translators) = []
  · -- without authors the first role with names leads, all its names with it
    have hnamed : (leadingCreators c).2 = some r → p ∈ (leadingCreators c).1 := by
      unfold leadingCreators
      simp only [hne, List.isEmpty_nil, Bool.not_true, Bool.false_eq_true, if_false]
      split
      · intro hrole
        cases hrole
        exact hp
      · intro hrole
        cases hrole
    constructor
    · rintro ⟨hout, hrole⟩
      exact absurd (hnamed hrole) hout
    · rintro ⟨-, hne', -⟩
      exact absurd hne hne'
  · rw [LeavesOut, leadingCreators_of_authors hne]
    dsimp only
    by_cases hsub : withoutNames c.authors (c.publisher :: c.compilers ++ c.translators) ⊆ c.editors
    · rw [if_pos hsub]
      constructor
      · rintro ⟨hout, hrole⟩
        exact ⟨(Option.some.inj hrole).symm, hne, hsub, hout⟩
      · rintro ⟨rfl, -, -, hout⟩
        exact ⟨hout, rfl⟩
    · rw [if_neg hsub]
      constructor
      · rintro ⟨-, hrole⟩
        cases hrole
      · rintro ⟨-, -, hsub', -⟩
        exact absurd hsub' hsub

/-- A contributor left out has no effect on the citation. -/
theorem format_filter_editors {c : Citation} {p : String} (hp : p ∈ c.editors)
    (h : LeavesOut c .editor p) :
    format { c with editors := c.editors.filter (· ≠ p) } = format c := by
  obtain ⟨-, hne, hsub, hout⟩ := (leavesOut_iff hp).mp h
  have hlead := leadingCreators_of_authors hne
  have hlead' :=
    leadingCreators_of_authors (c := { c with editors := c.editors.filter (· ≠ p) }) hne
  rw [if_pos hsub] at hlead
  rw [if_pos (subset_filter_ne hsub hout)] at hlead'
  simp only [format, hlead, hlead']
  rfl

/-! ## The sentences of the roles -/

/-- The roles a Chicago citation credits in an `<Action> by` sentence, in order: those with names,
other than the role the leading creators are credited in. -/
def sentenceRoles (c : Citation) : List Role :=
  roles.filter fun r => (leadingCreators c).2 != some r && !(r.names c).isEmpty

/-- `start` followed by the `<Action> by` sentence of each credited role, with its names. -/
def sentencesAfter (start : String) (credited : List (Role × String)) : String :=
  credited.foldl (fun t p => ensureSpace t ++ p.1.action ++ " by " ++ p.2 ++ ".") start

/-- What the loop over the roles keeps: the text so far is some start followed by the sentences
of the roles passed that get one, each with its names joined. -/
def SentencesSoFar (c : Citation) (passed : List Role) (s : String) : Prop :=
  ∃ start credited, credited.map (·.1) =
      passed.filter (fun r => (leadingCreators c).2 != some r && !(r.names c).isEmpty) ∧
    (∀ q ∈ credited, joinedNames (q.1.names c) = .ok q.2) ∧ s = sentencesAfter start credited

theorem SentencesSoFar.start (c : Citation) (s : String) : SentencesSoFar c [] s :=
  ⟨s, [], rfl, by simp, rfl⟩

theorem SentencesSoFar.written {c : Citation} {passed : List Role} {s names : String} {r : Role}
    (h : SentencesSoFar c passed s)
    (hr : ((leadingCreators c).2 != some r && !(r.names c).isEmpty) = true)
    (hn : joinedNames (r.names c) = .ok names) :
    SentencesSoFar c (passed ++ [r]) (ensureSpace s ++ r.action ++ " by " ++ names ++ ".") := by
  obtain ⟨start, credited, hmap, hnames, rfl⟩ := h
  refine ⟨start, credited ++ [(r, names)], ?_, ?_, ?_⟩
  · simp [hmap, List.filter_append, hr]
  · intro q hq
    rcases List.mem_append.mp hq with hq | hq
    · exact hnames q hq
    · rw [List.mem_singleton.mp hq]
      exact hn
  · simp [sentencesAfter, List.foldl_append]

theorem SentencesSoFar.skipped {c : Citation} {passed : List Role} {s : String} {r : Role}
    (h : SentencesSoFar c passed s)
    (hr : ¬((leadingCreators c).2 != some r && !(r.names c).isEmpty) = true) :
    SentencesSoFar c (passed ++ [r]) s := by
  obtain ⟨start, credited, hmap, hnames, rfl⟩ := h
  exact ⟨start, credited, by simp [hmap, List.filter_append, hr], hnames, rfl⟩

theorem joinedNames_ok_spec (names : List String) :
    ⦃⌜True⌝⦄ joinedNames names ⦃post⟨fun s => ⌜joinedNames names = .ok s⌝, fun _ => ⌜True⌝⟩⦄ := by
  cases h : joinedNames names with
  | error e => mvcgen
  | ok s => mvcgen

theorem format_sentences_spec (c : Citation) :
    ⦃⌜True⌝⦄ format c
      ⦃post⟨fun body => ⌜∃ s, SentencesSoFar c roles s ∧ Continues s body⌝, fun _ => ⌜True⌝⟩⦄ := by
  -- the spec of `joinedNames` in scope forgets the names; this one keeps them
  mvcgen -trivial [format, joinedNames_ok_spec, -joinedNames_spec]
  -- one loop for each way the leading creators and the title are written
  invariants
  · post⟨fun p => ⌜SentencesSoFar c ( List.Cursor.prefix p.1) p.2⌝, fun _ => ⌜True⌝⟩
  · post⟨fun p => ⌜SentencesSoFar c ( List.Cursor.prefix p.1) p.2⌝, fun _ => ⌜True⌝⟩
  · post⟨fun p => ⌜SentencesSoFar c ( List.Cursor.prefix p.1) p.2⌝, fun _ => ⌜True⌝⟩
  · post⟨fun p => ⌜SentencesSoFar c ( List.Cursor.prefix p.1) p.2⌝, fun _ => ⌜True⌝⟩
  · post⟨fun p => ⌜SentencesSoFar c ( List.Cursor.prefix p.1) p.2⌝, fun _ => ⌜True⌝⟩
  · post⟨fun p => ⌜SentencesSoFar c ( List.Cursor.prefix p.1) p.2⌝, fun _ => ⌜True⌝⟩
  all_goals try with_reducible exact SentencesSoFar.start c _
  all_goals try with_reducible exact SentencesSoFar.written ‹_› ‹_› ‹_›
  all_goals try with_reducible exact SentencesSoFar.skipped ‹_› ‹_›
  -- after the loop, every step only appends
  all_goals
    refine ⟨_, ‹SentencesSoFar c roles _›, ?_⟩
    repeat
      first
      | with_reducible exact Continues.refl _
      | with_reducible apply Continues.ensurePeriod
      | with_reducible apply Continues.appendFragment
      | with_reducible apply Continues.appendPages
      | with_reducible apply Continues.spaced

/-- **A Chicago body writes the sentences of exactly the roles of `sentenceRoles`**, in order,
each with its names joined, and then only appends. -/
theorem format_sentences {c : Citation} {body : String} (h : format c = .ok body) :
    ∃ start credited, credited.map (·.1) = sentenceRoles c ∧
      (∀ q ∈ credited, joinedNames (q.1.names c) = .ok q.2) ∧
      Continues (sentencesAfter start credited) body := by
  obtain ⟨s, ⟨start, credited, hmap, hnames, rfl⟩, hbody⟩ :=
    holds_of_triple (format_sentences_spec c) h
  exact ⟨start, credited, hmap, hnames, hbody⟩

theorem not_mem_sentenceRoles {c : Citation} {r : Role} (h : (leadingCreators c).2 = some r) :
    r ∉ sentenceRoles c := by
  simp [sentenceRoles, h]

end Chicago

/-! ## What MLA and Chicago leave out -/

/-- **MLA and Chicago leave out exactly the editors who are not authors, when there are authors
and all of them are editors**, and such an editor has no effect on the citation. Every other
editor is among the leading creators or in the `edited by` phrase, and every compiler and
translator of a Chicago citation among the leading creators or in the sentence of its role. A
Chicago body writes the sentences of exactly the roles of `Chicago.sentenceRoles`, and the role
the leading creators are credited in is never one of them. -/
theorem editors_left_out (c : Citation) :
    (∀ e ∈ c.editors,
      (Mla.LeavesOut c e ↔
        withoutNames c.authors [c.publisher] ≠ [] ∧
          withoutNames c.authors [c.publisher] ⊆ c.editors ∧
          e ∉ withoutNames c.authors [c.publisher]) ∧
      (Mla.LeavesOut c e →
        Mla.format { c with editors := c.editors.filter (· ≠ e) } = Mla.format c)) ∧
    (∀ r, ∀ p ∈ r.names c,
      (Chicago.LeavesOut c r p ↔
        r = .editor ∧ withoutNames c.authors (c.publisher :: c.compilers ++ c.translators) ≠ [] ∧
          withoutNames c.authors (c.publisher :: c.compilers ++ c.translators) ⊆ c.editors ∧
          p ∉ withoutNames c.authors (c.publisher :: c.compilers ++ c.translators)) ∧
      (Chicago.LeavesOut c r p →
        Chicago.format { c with editors := c.editors.filter (· ≠ p) } = Chicago.format c)) ∧
    (∀ r, (Chicago.leadingCreators c).2 = some r → r ∉ Chicago.sentenceRoles c) ∧
    (∀ body, Chicago.format c = .ok body → ∃ start credited,
      credited.map (·.1) = Chicago.sentenceRoles c ∧
      (∀ q ∈ credited, Chicago.joinedNames (q.1.names c) = .ok q.2) ∧
      Continues (Chicago.sentencesAfter start credited) body) := by
  refine ⟨fun e he => ⟨Mla.leavesOut_iff he, Mla.format_filter_editors he⟩,
    fun r p hp => ⟨Chicago.leavesOut_iff hp, fun h => ?_⟩,
    fun _ => Chicago.not_mem_sentenceRoles, fun _ => Chicago.format_sentences⟩
  -- only an editor is left out by Chicago
  obtain ⟨rfl, -⟩ := (Chicago.leavesOut_iff hp).mp h
  exact Chicago.format_filter_editors hp h

/-- One author who is the first of two editors: both styles lead with the author alone, as the
editor, and name the second editor nowhere. -/
theorem coeditor_left_out :
    let c : Citation :=
      { authors := ["Doe, Jane"], editors := ["Doe, Jane", "Roe, Rita"], title := "T" }
    Mla.LeavesOut c "Roe, Rita" ∧ Chicago.LeavesOut c .editor "Roe, Rita" ∧
      Mla.format c = .ok "Doe, Jane, editor. <em>T</em>." ∧
      Chicago.format c = .ok "Doe, Jane, ed. <em>T</em>." := by
  intro c
  have hmla : (Mla.format c).toOption.map id = some "Doe, Jane, editor. <em>T</em>." := by
    decide +kernel
  have hcms : (Chicago.format c).toOption.map id = some "Doe, Jane, ed. <em>T</em>." := by
    decide +kernel
  obtain ⟨_, hmla, rfl⟩ := exists_ok_of_toOption hmla
  obtain ⟨_, hcms, rfl⟩ := exists_ok_of_toOption hcms
  refine ⟨?_, ?_, hmla, hcms⟩
  · unfold Mla.LeavesOut
    decide +kernel
  · unfold Chicago.LeavesOut
    decide +kernel

end Citations.Style
