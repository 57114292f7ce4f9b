import Citations.Proofs.Cleaning
import Citations.Citation.Builder

/-!
# Pages

`formatPages` reads a first and a last page from a page text. Whatever the text, its result
meets `PagesValid` (`formatPages_valid`): a last page only with a first one, each page empty or
holding a digit, with no dash and no blank at either end, and the pages written from the two
with the prefix the style asks for.

A page holds no dash because `splitPages` cuts at every dash (`splitPages_no_dash`): a dash at
the head of the text always starts a separator (`pageSeparator?_of_dash`), so it never joins a
piece, and cleaning adds no character (`mem_of_mem_cleanField`).
-/

namespace Citations

open Citations.Unicode Citations.Text

/-- A page as the builder keeps it: empty or holding a digit, with no dash and no blank at
either end. -/
structure PageText (p : String) : Prop where
  digit : p = "" ∨ ∃ c ∈ p.toList, isDecimal c = true
  no_dash : ∀ c ∈ p.toList, isPageDash c = false
  trimmed : trim p = p

/-- The pages of a citation as the builder writes them: a last page only with a first one, and
the pages text made from the two, with `pp. ` or `p. ` when the style asks. -/
structure PagesValid (pages pageFrom pageTo : String) (withPrefix : Bool) : Prop where
  pageFrom_of_pageTo : pageTo ≠ "" → pageFrom ≠ ""
  pageFrom_text : PageText pageFrom
  pageTo_text : PageText pageTo
  pages_eq : pages =
    if pageTo ≠ "" then (if withPrefix then "pp. " else "") ++ pageFrom ++ " - " ++ pageTo
    else if pageFrom ≠ "" then (if withPrefix then "p. " else "") ++ pageFrom
    else ""

theorem pageText_empty : PageText "" where
  digit := .inl rfl
  no_dash := by simp
  trimmed := by decide

theorem pagesValid_empty (withPrefix : Bool) : PagesValid "" "" "" withPrefix :=
  ⟨fun h => absurd rfl h, pageText_empty, pageText_empty, by simp⟩

/-! ## Cutting at dashes -/

theorem isBlank_of_isPageDash {c : Char} (h : isPageDash c = true) : isBlank c = false := by
  simp only [isPageDash, Bool.or_eq_true, decide_eq_true_eq] at h
  rcases h with (rfl | rfl) | rfl <;> decide

/-- A dash at the head of the text starts a separator. -/
theorem pageSeparator?_of_dash {c : Char} {rest : List Char} (h : isPageDash c = true) :
    pageSeparator? (c :: rest) ≠ none := by
  simp [pageSeparator?, isBlank_of_isPageDash h, h]

/-- The pieces of a page text hold no dash. -/
theorem splitPages_no_dash {acc cs : List Char} (hacc : ∀ c ∈ acc, isPageDash c = false) :
    ∀ p ∈ splitPages acc cs, ∀ c ∈ p, isPageDash c = false := by
  fun_induction splitPages acc cs with
  | case1 acc =>
    simpa using hacc
  | case2 acc c rest more hsep ih =>
    intro p hp
    rcases List.mem_cons.mp hp with rfl | hp
    · simpa using hacc
    · exact ih (by simp) p hp
  | case3 acc c rest hsep ih =>
    -- no separator starts here, so `c` is no dash and joins the piece
    have hc : isPageDash c = false := by
      cases hd : isPageDash c
      · rfl
      · exact absurd hsep (pageSeparator?_of_dash hd)
    exact ih fun d hd => (List.mem_cons.mp hd).elim (· ▸ hc) (hacc d)

/-! ## First and last page -/

theorem pageText_of_mem_parts {value p : String}
    (h : p ∈ ((splitPages [] (trimChars (replacePageMarkers none value.toList))).map
      (fun piece => cleanField (String.ofList piece))).filter (fun p => p.toList.any isDecimal)) :
    p ≠ "" ∧ PageText p := by
  obtain ⟨hmem, hdigit⟩ := List.mem_filter.mp h
  obtain ⟨piece, hpiece, rfl⟩ := List.mem_map.mp hmem
  obtain ⟨c, hc, hdec⟩ := List.any_eq_true.mp hdigit
  refine ⟨fun hempty => by simp [hempty] at hc, .inr ⟨c, hc, hdec⟩, fun d hd => ?_,
    trim_cleanField _⟩
  have hd' := mem_of_mem_cleanField hd
  rw [String.toList_ofList] at hd'
  exact splitPages_no_dash (by simp) piece hpiece d hd'

/-- **The pages a citation gets from any page text.** -/
theorem formatPages_valid (value : String) (withPrefix : Bool) :
    PagesValid (formatPages value withPrefix).1 (formatPages value withPrefix).2.1
      (formatPages value withPrefix).2.2 withPrefix := by
  have hparts := @pageText_of_mem_parts value
  unfold formatPages
  dsimp only
  generalize ((splitPages [] (trimChars (replacePageMarkers none value.toList))).map
    (fun piece => cleanField (String.ofList piece))).filter
      (fun p => p.toList.any isDecimal) = parts at hparts ⊢
  rcases parts with _ | ⟨first, _ | ⟨second, rest⟩⟩
  · -- no page
    exact pagesValid_empty withPrefix
  · -- a single page
    obtain ⟨hne, htext⟩ := hparts List.mem_cons_self
    refine ⟨fun h => absurd rfl h, htext, pageText_empty, ?_⟩
    cases withPrefix <;> simp [hne]
  · -- a range: the first two pages
    obtain ⟨hne₁, htext₁⟩ := hparts List.mem_cons_self
    obtain ⟨hne₂, htext₂⟩ := hparts (List.mem_cons_of_mem _ List.mem_cons_self)
    refine ⟨fun _ => hne₁, htext₁, htext₂, ?_⟩
    cases withPrefix <;> simp [hne₂, String.append_assoc]

end Citations
