import Citations.Proofs.Date
import Citations.Proofs.Pages

/-!
# What the builder guarantees

`Citation.build` makes each field of a citation from the catalog fields by a rule of its own,
and the styles rely on what the rules guarantee together (`build_invariant`):

* an item with an explicit citation gets only that and whether it is an article;
* every citation has a possible date read from the first publication date (`DateParts.Valid`),
  pages as `formatPages` writes them (`PagesValid`), and creators' names that are not empty and
  have no blank at either end (`Citation.Invariant`).
-/

namespace Citations

open Citations.Text

/-- What the builder guarantees of every citation it makes, for a date read from `published`
and pages written with or without their prefix. -/
structure Citation.Invariant (c : Citation) (published : String) (pagesPrefix : Bool) : Prop where
  date : DateParts.Valid ⟨c.date, c.year, c.month, c.day⟩ published
  pages : PagesValid c.pages c.pageFrom c.pageTo pagesPrefix
  names : ∀ n ∈ c.authors ++ c.editors ++ c.advisors ++ c.compilers ++ c.translators,
    n ≠ "" ∧ trim n = n

theorem trimmed_of_mem_namesOf {fields : Fields} {key n : String} (h : n ∈ namesOf fields key) :
    n ≠ "" ∧ trim n = n := by
  simp only [namesOf, List.mem_filter, List.mem_map] at h
  obtain ⟨⟨v, -, rfl⟩, hne⟩ := h
  refine ⟨fun hempty => ?_, trim_trim v⟩
  simp [hempty] at hne

@[simp] theorem trim_firstValue (values : List String) :
    trim (firstValue values) = firstValue values := by
  cases values with
  | nil => decide
  | cons v _ => exact trim_trim v

/-- **The builder's invariant.** Every citation built from catalog fields has a possible date
read from the first publication date, pages as `formatPages` writes them and trimmed names;
one with an explicit citation has nothing else. -/
theorem build_invariant (fields : Fields) (opts : BuildOptions) :
    (Citation.build fields opts).Invariant (firstValue (fields.get "published_date"))
        opts.pagesPrefix ∧
      (fields.get "explicit" ≠ [] → Citation.build fields opts =
        { explicitText := fields.get "explicit",
          isArticle := (Citation.build fields opts).isArticle }) := by
  by_cases hx : (fields.get "explicit").isEmpty
  · -- without an explicit citation every field is built by its rule
    have hdate := DateParts.parse_valid (firstValue (fields.get "published_date"))
    rw [trim_firstValue] at hdate
    have hpages := formatPages_valid (firstValue (fields.get "pages")) opts.pagesPrefix
    refine ⟨?_, fun hne => absurd (List.isEmpty_iff.mp hx) hne⟩
    unfold Citation.build
    dsimp only
    rw [if_neg (by simp [hx])]
    generalize formatPages (firstValue (fields.get "pages")) opts.pagesPrefix = fp at hpages ⊢
    obtain ⟨pages, pageFrom, pageTo⟩ := fp
    refine ⟨hdate, hpages, fun n hn => ?_⟩
    simp only [List.mem_append] at hn
    rcases hn with (((h | h) | h) | h) | h <;> exact trimmed_of_mem_namesOf h
  · -- an explicit citation alone
    have hbuild : Citation.build fields opts =
        { explicitText := fields.get "explicit",
          isArticle := firstValue (fields.get "format") == "article" } := by
      unfold Citation.build
      dsimp only
      rw [if_pos (by simpa using hx)]
    rw [hbuild]
    exact ⟨⟨DateParts.valid_empty _, pagesValid_empty _, by simp⟩, fun _ => rfl⟩

end Citations
