import Citations.Proofs.Contributors

/-!
# What follows a quoted title

MLA and Chicago write an article's title in quotes with its period inside, `"An Article."`.
Every later piece is joined to the text before it by one of three helpers: `appendFragment`
(a comma, or for Chicago's publisher a period, then a space), `ensureSpace` (the journal and
Chicago's role sentences) and Chicago's `appendPages` (a colon and a space). None of them takes
a closing `."` for a finished sentence, as `ensurePeriod` does, so the first piece written after
the title brings its own separator right after the quote.

* `Follows t sep r`: the text `r` is `t`, a text ending in `."`, then `sep` and anything, or `t`
  itself while `sep` is empty.
* `AfterTitle step sep`: a step only appends, and writes `sep` first when it meets a text ending
  in `."`. `Follows.step` is the one fact the rest is built from: a step keeps `Follows` with
  the first non-empty separator (`firstOf`) of what came before and of its own.
* One `AfterTitle` per helper (`afterTitle_appendFragment`, `afterTitle_spaced`,
  `afterTitle_appendPages`, `afterTitle_ensurePeriod`), whose appending half is the helper's
  `Style.Continues` lemma, and from them `Follows.appendFragment` and its siblings, the form in
  which the triples use them.
* `Mla.format_follows`, `Chicago.format_follows`: on every path of either format, the body
  follows the quoted title with the first separator of `Mla.separatorsAfterTitle` or
  `Chicago.separatorsAfterTitle`; Chicago's role sentences are a loop, whose invariant is
  `Chicago.RolesInvariant`.

`quotedTitle_followedBy` states it for both styles. The separator is a space only when the
journal, or in Chicago a role sentence, comes first; `quotedTitle_then_comma` shows a comma after
the quote in MLA and a period after it in Chicago.
-/

set_option mvcgen.warning false

namespace Citations.Text

open Std.Do

/-! ## The first separator written -/

/-- `a`, or `b` when `a` is empty. -/
def firstOf (a b : String) : String := if a = "" then b else a

@[simp] theorem firstOf_empty_left (b : String) : firstOf "" b = b := rfl

@[simp] theorem firstOf_empty_right (a : String) : firstOf a "" = a := by
  unfold firstOf
  split <;> simp_all

@[simp] theorem firstOf_of_ne {a : String} (h : a ≠ "") (b : String) : firstOf a b = a :=
  if_neg h

@[simp] theorem firstOf_assoc (a b c : String) :
    firstOf (firstOf a b) c = firstOf a (firstOf b c) := by
  unfold firstOf
  by_cases ha : a = "" <;> simp [ha]

/-- The first separator that is not empty, or nothing when all are. -/
def firstSeparator (seps : List String) : String := seps.foldr firstOf ""

@[simp] theorem firstSeparator_nil : firstSeparator [] = "" := rfl

@[simp] theorem firstSeparator_cons (s : String) (seps : List String) :
    firstSeparator (s :: seps) = firstOf s (firstSeparator seps) := rfl

@[simp] theorem firstSeparator_append (a b : List String) :
    firstSeparator (a ++ b) = firstOf (firstSeparator a) (firstSeparator b) := by
  induction a with
  | nil => rfl
  | cons s a ih => simp [ih]

/-! ## Text after a quoted title -/

/-- Text that ends with a closing period and quote. -/
def EndsQuoted (t : String) : Prop := ∃ u, t = u ++ ".\""

/-- `r` is the quoted `t` followed by `sep` and anything, or `t` alone while `sep` is empty. -/
def Follows (t sep r : String) : Prop :=
  EndsQuoted t ∧ ∃ y, r = t ++ sep ++ y ∧ (sep = "" → y = "")

/-- A step of a style after the title: it only appends to the text it is given, and after a
closing `."` it writes `sep` first, or nothing at all when `sep` is empty. -/
structure AfterTitle (step : String → String) (sep : String) : Prop where
  extends_ : ∀ r, r ≠ "" → ∃ w, step r = r ++ w
  quoted : ∀ r, EndsQuoted r → Follows r sep (step r)

theorem EndsQuoted.ne_empty {t : String} (h : EndsQuoted t) : t ≠ "" := by
  obtain ⟨u, rfl⟩ := h
  intro h
  simpa using congrArg String.length h

theorem EndsQuoted.getLast {t : String} (h : EndsQuoted t) : t.toList.getLast? = some '"' := by
  obtain ⟨u, rfl⟩ := h
  simp

theorem EndsQuoted.endsWith {t : String} (h : EndsQuoted t) : endsWith t ".\"" = true := by
  obtain ⟨u, rfl⟩ := h
  simp [Citations.Text.endsWith, List.isSuffixOf_iff_suffix]

theorem endsWith_eq_false_of_getLast {s p : String} {a b : Char}
    (hs : s.toList.getLast? = some a) (hp : p.toList = [b]) (hab : a ≠ b) :
    endsWith s p = false := by
  rw [Bool.eq_false_iff, ne_eq, endsWith, hp, List.isSuffixOf_iff_suffix,
    List.singleton_suffix_iff_getLast?_eq_some, hs, Option.some.injEq]
  exact hab

/-- A step keeps the text after the title: its separator comes first if nothing was written
since the title, and otherwise it only appends. -/
theorem Follows.step {t r : String} {step : String → String} {sep s : String}
    (hs : AfterTitle step s) (h : Follows t sep r) : Follows t (firstOf sep s) (step r) := by
  obtain ⟨ht, y, rfl, hy⟩ := h
  by_cases hsep : sep = ""
  · rw [hsep, hy hsep, String.append_empty, String.append_empty, firstOf_empty_left]
    exact hs.quoted t ht
  · have hne : t ++ sep ++ y ≠ "" := by simp [String.append_eq_empty_iff, ht.ne_empty]
    obtain ⟨w, hw⟩ := hs.extends_ _ hne
    rw [firstOf_of_ne hsep]
    refine ⟨ht, y ++ w, ?_, fun h => absurd h hsep⟩
    rw [hw]
    simp [String.append_assoc]

theorem Follows.of_sep_eq {t r s s' : String} (h : Follows t s r) (he : s = s') :
    Follows t s' r :=
  he ▸ h

/-! ## The helpers that join pieces -/

theorem afterTitle_ensurePeriod : AfterTitle ensurePeriod "" where
  extends_ r _ := Style.Continues.ensurePeriod (.refl r)
  quoted r hr := ⟨hr, "", by simp [ensurePeriod, hr.endsWith], fun _ => rfl⟩

theorem afterTitle_spaced (g : String) : AfterTitle (fun r => ensureSpace r ++ g) " " where
  extends_ r _ := Style.Continues.spaced g (.refl r)
  quoted r hr := by
    have hspace : endsWith r " " = false :=
      endsWith_eq_false_of_getLast hr.getLast rfl (by decide)
    exact ⟨hr, g, by simp [ensureSpace, hr.ne_empty, hspace], by simp⟩

/-- A fragment joined with a one-character separator other than a space: after a closing quote,
which is none of the terminators, the separator and a space come first. -/
theorem afterTitle_appendFragment (f sep : String) {x : Char} (hsep : sep.toList = [x])
    (hx : x ≠ ' ') :
    AfterTitle (fun r => appendFragment r f sep) (if f.isEmpty then "" else sep ++ " ") where
  extends_ r _ := Style.Continues.appendFragment f sep _ (.refl r)
  quoted r hr := by
    have hsep' : sep.isEmpty = false := by
      rw [Bool.eq_false_iff, ne_eq, String.isEmpty_iff]
      rintro rfl
      simp at hsep
    have hr' : r.isEmpty = false := by simpa [String.isEmpty_iff] using hr.ne_empty
    have hterm : defaultTerminators.any (endsWith r) = false := by
      simp [defaultTerminators, endsWith_eq_false_of_getLast hr.getLast]
    have hspace : endsWith (r ++ sep) " " = false :=
      endsWith_eq_false_of_getLast (by simp [hsep]) rfl hx
    by_cases hf : f.isEmpty = true
    · exact ⟨hr, "", by simp [appendFragment, hf], fun _ => rfl⟩
    · refine ⟨hr, f, ?_, by simp [hf]⟩
      simp [appendFragment, hf, hr', hsep', hterm, hspace, String.append_assoc]

/-- Pages after a closing quote: it ends with no digit and none of the terminators, so a colon
and a space come first. -/
theorem afterTitle_appendPages (pages : String) :
    AfterTitle (fun r => Style.Chicago.appendPages r pages)
      (if pages.isEmpty then "" else ": ") where
  extends_ r _ := Style.Continues.appendPages pages (.refl r)
  quoted r hr := by
    have hr' : r.isEmpty = false := by simpa [String.isEmpty_iff] using hr.ne_empty
    have hdigit : Style.Chicago.endsWithDigit r = false := by
      obtain ⟨u, rfl⟩ := hr
      simp [Style.Chicago.endsWithDigit]
      decide
    have hterm : [" ", ".", ",", ":"].any (endsWith r) = false := by
      simp [endsWith_eq_false_of_getLast hr.getLast]
    have hspace : endsWith (r ++ ":") " " = false :=
      endsWith_eq_false_of_getLast (a := ':') (by simp) rfl (by decide)
    by_cases hp : pages.isEmpty = true
    · exact ⟨hr, "", by simp [Style.Chicago.appendPages, hp], fun _ => rfl⟩
    · refine ⟨hr, pages, ?_, by simp [hp]⟩
      simp [Style.Chicago.appendPages, ensureSpace, hp, hr', hdigit, hterm, hspace,
        String.append_assoc]

theorem Follows.ensurePeriod {t r sep : String} (h : Follows t sep r) :
    Follows t sep (ensurePeriod r) := by
  simpa using h.step afterTitle_ensurePeriod

theorem Follows.spaced {t r sep : String} (g : String) (h : Follows t sep r) :
    Follows t (firstOf sep " ") (ensureSpace r ++ g) := by
  -- the step is elaborated on its own first: against the goal, its function would be guessed
  -- from the applied form and come out wrong
  have h' := h.step (afterTitle_spaced g)
  exact h'

theorem Follows.appendFragment {t r sep : String} (f : String) {s : String}
    (hs : s = "," ∨ s = ".") (h : Follows t sep r) :
    Follows t (firstOf sep (if f.isEmpty then "" else s ++ " ")) (appendFragment r f s) := by
  rcases hs with rfl | rfl
  · have h' := h.step (afterTitle_appendFragment f "," (x := ',') rfl (by decide))
    exact h'
  · have h' := h.step (afterTitle_appendFragment f "." (x := '.') rfl (by decide))
    exact h'

theorem Follows.appendPages {t r sep : String} (pages : String) (h : Follows t sep r) :
    Follows t (firstOf sep (if pages.isEmpty then "" else ": "))
      (Style.Chicago.appendPages r pages) := by
  have h' := h.step (afterTitle_appendPages pages)
  exact h'

theorem endsQuoted_quoteTitle (lead title : String) :
    EndsQuoted (lead ++ quoteTitle title ".") := by
  simp only [quoteTitle]
  generalize String.ofList _ = inner
  exact ⟨lead ++ ("\"" ++ inner), by simp [String.append_assoc]⟩

/-- An article's title, after whatever leads the citation, starts the text after the title. -/
theorem Follows.title {c : Citation} (h : c.isArticle = true) (lead : String) :
    Follows (lead ++ quoteTitle c.title ".") "" (lead ++ Style.Mla.citationTitle c) :=
  ⟨endsQuoted_quoteTitle lead c.title, "", by simp [Style.Mla.citationTitle, h], fun _ => rfl⟩

end Citations.Text

namespace Citations.Style

open Std.Do Citations.Text

/-! ## MLA -/

/-- The separators the pieces after an article's title bring in MLA, in the order they are
written; a piece that is absent brings none. -/
def Mla.separatorsAfterTitle (c : Citation) : List String :=
  [if !c.journal.isEmpty then " " else "",
   if c.edition.isEmpty then "" else ", ",
   if !c.editors.isEmpty && !(leadingCreators c.authors c.editors c.publisher).2 then ", "
   else "",
   if c.publisher.isEmpty then "" else ", ",
   if c.volume.isEmpty then "" else ", ",
   if c.issue.isEmpty then "" else ", ",
   if (Mla.citationDate c).isEmpty then "" else ", ",
   if c.pages.isEmpty then "" else ", ",
   if c.link.isEmpty then "" else ", "]

/-- What MLA writes right after an article's quoted title. -/
def Mla.afterTitle (c : Citation) : String := firstSeparator (Mla.separatorsAfterTitle c)

theorem Mla.format_follows (c : Citation) (harticle : c.isArticle = true)
    (htitle : c.title ≠ "") :
    ⦃⌜True⌝⦄ Mla.format c
      ⦃post⟨fun body => ⌜∃ lead, Follows (lead ++ quoteTitle c.title ".") (Mla.afterTitle c)
        body⌝, fun _ => ⌜True⌝⟩⦄ := by
  have htitle' : (!c.title.isEmpty) = true := by simpa [String.isEmpty_iff] using htitle
  -- with `htitle'` at hand, `mvcgen` leaves out the paths that skip the title
  mvcgen [Mla.format]
  all_goals
    apply Exists.intro
    apply Follows.of_sep_eq
    · -- each path is a chain of steps from the title: take them from the last one back
      repeat
        first
        | with_reducible exact Follows.title harticle _
        | with_reducible apply Follows.ensurePeriod
        | with_reducible apply Follows.appendFragment _ (Or.inl rfl)
        | with_reducible apply Follows.spaced
    · -- the path settled whether the journal is there and whether the editors are named
      simp only [Mla.afterTitle, separatorsAfterTitle]
      by_cases hJ : (!c.journal.isEmpty) = true <;>
        by_cases hE : (!c.editors.isEmpty &&
          !(leadingCreators c.authors c.editors c.publisher).2) = true <;>
        simp only [hJ, hE, if_true]
      all_goals try contradiction
      all_goals simp

/-! ## Chicago -/

/-- The separator a role's sentence brings: a space, when the role has names and is not the
one the leading creators are credited in. -/
def Chicago.roleSeparator (c : Citation) (r : Chicago.Role) : String :=
  if (Chicago.leadingCreators c).2 != some r && !(r.names c).isEmpty then " " else ""

/-- The separators the pieces after an article's title bring in Chicago, in the order they are
written; a piece that is absent brings none. -/
def Chicago.separatorsAfterTitle (c : Citation) : List String :=
  Chicago.roles.map (Chicago.roleSeparator c) ++
    [if !c.journal.isEmpty then " " else "",
     if c.edition.isEmpty then "" else ", ",
     if c.volume.isEmpty then "" else ", ",
     if c.issue.isEmpty then "" else ", ",
     if (Chicago.placeFirstPublisher c).isEmpty then "" else ". ",
     if (Mla.citationDate c).isEmpty then "" else ", ",
     if c.pages.isEmpty then "" else ": ",
     if c.link.isEmpty then "" else ", "]

/-- What Chicago writes right after an article's quoted title. -/
def Chicago.afterTitle (c : Citation) : String := firstSeparator (Chicago.separatorsAfterTitle c)

/-- The loop over the roles keeps the text after the title, with the separators of the roles
passed so far. -/
def Chicago.RolesInvariant (c : Citation) (passed : List Chicago.Role) (r : String) : Prop :=
  ∃ lead, Follows (lead ++ quoteTitle c.title ".")
    (firstSeparator (passed.map (Chicago.roleSeparator c))) r

theorem Chicago.RolesInvariant.start {c : Citation} (h : c.isArticle = true) (lead : String) :
    Chicago.RolesInvariant c [] (lead ++ Mla.citationTitle c) :=
  ⟨lead, Follows.title h lead⟩

theorem Chicago.RolesInvariant.written {c : Citation} {passed : List Chicago.Role} {s : String}
    {r : Chicago.Role} (h : Chicago.RolesInvariant c passed s)
    (hr : ((Chicago.leadingCreators c).2 != some r && !(r.names c).isEmpty) = true)
    (names : String) :
    Chicago.RolesInvariant c (passed ++ [r])
      (ensureSpace s ++ r.action ++ " by " ++ names ++ ".") := by
  obtain ⟨lead, hlead⟩ := h
  have hstep := hlead.spaced (r.action ++ " by " ++ names ++ ".")
  simp only [← String.append_assoc] at hstep
  refine ⟨lead, Follows.of_sep_eq hstep ?_⟩
  simp [Chicago.roleSeparator, hr]

theorem Chicago.RolesInvariant.skipped {c : Citation} {passed : List Chicago.Role} {s : String}
    {r : Chicago.Role} (h : Chicago.RolesInvariant c passed s)
    (hr : ¬((Chicago.leadingCreators c).2 != some r && !(r.names c).isEmpty) = true) :
    Chicago.RolesInvariant c (passed ++ [r]) s := by
  obtain ⟨lead, hlead⟩ := h
  refine ⟨lead, Follows.of_sep_eq hlead ?_⟩
  simp [Chicago.roleSeparator, hr]

theorem Chicago.format_follows (c : Citation) (harticle : c.isArticle = true)
    (htitle : c.title ≠ "") :
    ⦃⌜True⌝⦄ Chicago.format c
      ⦃post⟨fun body => ⌜∃ lead, Follows (lead ++ quoteTitle c.title ".") (Chicago.afterTitle c)
        body⌝, fun _ => ⌜True⌝⟩⦄ := by
  have htitle' : (!c.title.isEmpty) = true := by simpa [String.isEmpty_iff] using htitle
  mvcgen [Chicago.format]
  -- one loop for each way the leading creators are written, with the title or without it;
  -- `htitle'` rules out the second, whose loops need no invariant
  invariants
  · post⟨fun p => ⌜Chicago.RolesInvariant c ( List.Cursor.prefix p.1) p.2⌝, fun _ => ⌜True⌝⟩
  · post⟨fun _ => ⌜True⌝, fun _ => ⌜True⌝⟩
  · post⟨fun p => ⌜Chicago.RolesInvariant c ( List.Cursor.prefix p.1) p.2⌝, fun _ => ⌜True⌝⟩
  · post⟨fun _ => ⌜True⌝, fun _ => ⌜True⌝⟩
  · post⟨fun p => ⌜Chicago.RolesInvariant c ( List.Cursor.prefix p.1) p.2⌝, fun _ => ⌜True⌝⟩
  · post⟨fun _ => ⌜True⌝, fun _ => ⌜True⌝⟩
  -- the loop starts after the title, and each role writes its sentence or nothing
  all_goals try with_reducible exact Chicago.RolesInvariant.start harticle _
  all_goals try with_reducible exact Chicago.RolesInvariant.written ‹_› ‹_› _
  all_goals try with_reducible exact Chicago.RolesInvariant.skipped ‹_› ‹_›
  -- after the loop, a chain of steps as in MLA
  all_goals
    obtain ⟨lead, hlead⟩ : Chicago.RolesInvariant c Chicago.roles _ := ‹_›
    refine ⟨lead, ?_⟩
    apply Follows.of_sep_eq
    · repeat
        first
        | with_reducible exact hlead
        | with_reducible apply Follows.ensurePeriod
        | with_reducible apply Follows.appendFragment _ (Or.inl rfl)
        | with_reducible apply Follows.appendFragment _ (Or.inr rfl)
        | with_reducible apply Follows.appendPages
        | with_reducible apply Follows.spaced
    · simp only [Chicago.afterTitle, Chicago.separatorsAfterTitle]
      by_cases hJ : (!c.journal.isEmpty) = true <;> simp only [hJ, if_true]
      all_goals try contradiction
      all_goals simp

/-! ## Both styles -/

/-- In MLA and in Chicago, an article's quoted title is followed by the separator of the first
piece written after it (`Mla.afterTitle`, `Chicago.afterTitle`), or ends the citation. -/
theorem quotedTitle_followedBy (c : Citation) (harticle : c.isArticle = true)
    (htitle : c.title ≠ "") :
    (∀ body, Mla.format c = .ok body → ∃ lead rest,
      body = lead ++ quoteTitle c.title "." ++ Mla.afterTitle c ++ rest ∧
        (Mla.afterTitle c = "" → rest = "")) ∧
    (∀ body, Chicago.format c = .ok body → ∃ lead rest,
      body = lead ++ quoteTitle c.title "." ++ Chicago.afterTitle c ++ rest ∧
        (Chicago.afterTitle c = "" → rest = "")) := by
  constructor
  · intro body h
    obtain ⟨lead, -, rest, hbody, hrest⟩ :=
      holds_of_triple (Mla.format_follows c harticle htitle) h
    exact ⟨lead, rest, hbody, hrest⟩
  · intro body h
    obtain ⟨lead, -, rest, hbody, hrest⟩ :=
      holds_of_triple (Chicago.format_follows c harticle htitle) h
    exact ⟨lead, rest, hbody, hrest⟩

theorem quotedTitle_followedBy_journal :
    let c : Citation := { isArticle := true, title := "T", journal := "J", year := 2014 }
    c.isArticle = true ∧ c.title ≠ "" ∧
    (∀ body, Mla.format c = .ok body → ∃ lead rest,
      body = lead ++ quoteTitle c.title "." ++ Mla.afterTitle c ++ rest ∧
        (Mla.afterTitle c = "" → rest = "")) ∧
    (∀ body, Chicago.format c = .ok body → ∃ lead rest,
      body = lead ++ quoteTitle c.title "." ++ Chicago.afterTitle c ++ rest ∧
        (Chicago.afterTitle c = "" → rest = "")) := by
  intro c
  have htitle : c.title ≠ "" := by decide
  exact ⟨rfl, htitle, quotedTitle_followedBy c rfl htitle⟩

/-- An edition right after the title in MLA, and a publisher in Chicago: the closing `."` is
followed by a comma, and by a period. -/
theorem quotedTitle_then_comma :
    let c : Citation := { isArticle := true, title := "T", edition := "2nd ed." }
    let c' : Citation := { isArticle := true, title := "T", publisher := "P" }
    Mla.afterTitle c = ", " ∧ Mla.format c = .ok "\"T.\", 2nd ed." ∧
      Chicago.afterTitle c' = ". " ∧ Chicago.format c' = .ok "\"T.\". P." := by
  intro c c'
  have hmla : (Mla.format c).toOption.map id = some "\"T.\", 2nd ed." := by decide +kernel
  have hcms : (Chicago.format c').toOption.map id = some "\"T.\". P." := by decide +kernel
  obtain ⟨_, hmla, rfl⟩ := exists_ok_of_toOption hmla
  obtain ⟨_, hcms, rfl⟩ := exists_ok_of_toOption hcms
  exact ⟨by decide +kernel, hmla, by decide +kernel, hcms⟩

end Citations.Style
