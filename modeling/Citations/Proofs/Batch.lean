import Citations.Proofs.Render

/-!
# Rendering every prose style at once

`renderAll` renders the prose styles in display order and passes over a style that fails with a
citation error. Since the prose styles check the same raw fields and fail on catalog fields
only with a fault that is no citation error (`renderWith_prose`), no style is ever passed over
on its own: a batch gives every style or none (`renderAll_all_or_nothing`).

* Raw data that is not catalog fields fails every style with the same citation error, so the
  batch is empty, with one notice per style (`foldl_renderAllStep_skip`).
* For catalog fields the batch is the four outputs in display order, or the first failure
  among them, exactly as rendering the styles one by one (`foldl_renderAllStep_mapM`).

Both run lemmas are stated over any list of styles and any results gathered before, and are
proved from what one step of the batch does (`renderAllStep_of_ok`, `renderAllStep_of_citation`,
`renderAllStep_of_other`).
-/

namespace Citations

open Citations.Text

theorem mapM_eq_error {α β ε : Type} {f : α → Except ε β} {e : ε} :
    ∀ {xs : List α}, xs.mapM f = .error e → ∃ x ∈ xs, f x = .error e
  | [], h => by simp [pure, Except.pure] at h
  | x :: xs, h => by
    rw [List.mapM_cons] at h
    cases hx : f x with
    | error e' =>
      rw [hx] at h
      cases h
      exact ⟨x, List.mem_cons_self, hx⟩
    | ok b =>
      cases hxs : xs.mapM f with
      | error e' =>
        rw [hx, hxs] at h
        cases h
        obtain ⟨y, hy, hfy⟩ := mapM_eq_error hxs
        exact ⟨y, List.mem_cons_of_mem x hy, hfy⟩
      | ok bs =>
        rw [hx, hxs] at h
        cases h

/-! ## The prose styles' part of a batch -/

section Styles

variable {read : MarkupReader} {config : ServiceConfig} {s : CitationStyle} {raw : Value}
  {recordUrl : Option String}

theorem renderWith_notices_of_ne_ris (hs : s ≠ .ris) :
    (renderWith read config s raw recordUrl).notices = [] := by
  obtain ⟨formatIt, hf⟩ := CitationStyle.formatCitation_isSome config hs
  cases hv : Fields.ofValue raw with
  | error e => simp [renderWith, hv]
  | ok fields =>
    have hquiet : (s.contents read config fields recordUrl).notices = [] := by
      by_cases hx : fields.get "explicit" = [] <;> simp [CitationStyle.contents, hf, hx]
    cases hc : (s.contents read config fields recordUrl).result <;>
      cases hn : s.filename config recordUrl <;> simp [renderWith, hv, hc, hn, hquiet]

theorem renderWith_of_not_fields {e : BuildFault} (h : Fields.ofValue raw = .error e) :
    renderWith read config s raw recordUrl = ⟨.error (.build e), []⟩ := by
  simp [renderWith, h]

theorem style_of_renderWith_ok {r : Rendered}
    (h : (renderWith read config s raw recordUrl).result = .ok r) : r.style = s := by
  cases hv : Fields.ofValue raw with
  | error e =>
    rw [renderWith_of_fields_error hv] at h
    cases h
  | ok fields =>
    cases hc : (s.contents read config fields recordUrl).result with
    | error e =>
      rw [renderWith_of_contents_error hv hc] at h
      cases h
    | ok text =>
      cases hn : s.filename config recordUrl with
      | error e =>
        rw [renderWith_of_filename_error hv hc hn] at h
        cases h
      | ok name =>
        rw [renderWith_of_ok hv hc hn] at h
        cases h
        rfl

theorem not_citationError_of_prose {fields : Fields} (hs : s ∈ CitationStyle.prose)
    (h : Fields.ofValue raw = .ok fields) {e : Fault}
    (he : (renderWith read config s raw recordUrl).result = .error e) :
    e.isCitationError = false := by
  rcases (renderWith_prose hs h :
      (∃ r, (renderWith read config s raw recordUrl).result = .ok r) ∨ _) with ⟨r, hr⟩ | ⟨hr, -⟩
  · rw [hr] at he
    cases he
  · rw [hr] at he
    cases he
    rfl

theorem ne_ris_of_prose (hs : s ∈ CitationStyle.prose) : s ≠ .ris := by
  rintro rfl
  exact absurd hs (by decide)

theorem render_key (s : CitationStyle) :
    render read config (some s.key) raw recordUrl = renderWith read config s raw recordUrl := by
  apply render_eq_renderWith
  cases s <;> decide +kernel

theorem styles_of_mapM_renderWith :
    ∀ {ss : List CitationStyle} {outs : List Rendered},
      (ss.mapM fun s => (renderWith read config s raw recordUrl).result) = .ok outs →
        outs.map (·.style) = ss
  | [], outs, h => by
    simp only [List.mapM_nil, pure, Except.pure, Except.ok.injEq] at h
    simp [← h]
  | s :: ss, outs, h => by
    rw [List.mapM_cons] at h
    obtain ⟨r, hr, h⟩ := bind_eq_ok.mp h
    obtain ⟨rs, hrs, h⟩ := bind_eq_ok.mp h
    cases h
    simp [style_of_renderWith_ok hr, styles_of_mapM_renderWith hrs]

end Styles

/-! ## One step of a batch -/

section Step

variable {read : MarkupReader} {config : ServiceConfig} {raw : Value} {s : CitationStyle}
  {done : List Rendered} {n : List Notice}

@[simp] theorem renderAllStep_of_error {e : Fault} :
    renderAllStep read config raw ⟨.error e, n⟩ s = ⟨.error e, n⟩ := rfl

theorem renderAllStep_of_ok {out : Rendered}
    (h : (renderWith read config s raw none).result = .ok out) :
    renderAllStep read config raw ⟨.ok done, n⟩ s =
      ⟨.ok (done ++ [out]), n ++ (renderWith read config s raw none).notices⟩ := by
  simp [renderAllStep, h]

theorem renderAllStep_of_citation {e : Fault}
    (h : (renderWith read config s raw none).result = .error e) (he : e.isCitationError = true) :
    renderAllStep read config raw ⟨.ok done, n⟩ s =
      ⟨.ok done, n ++ (renderWith read config s raw none).notices ++
        [.styleFailed (s.format config).label e]⟩ := by
  simp [renderAllStep, h, he]

theorem renderAllStep_of_other {e : Fault}
    (h : (renderWith read config s raw none).result = .error e) (he : e.isCitationError = false) :
    renderAllStep read config raw ⟨.ok done, n⟩ s =
      ⟨.error e, n ++ (renderWith read config s raw none).notices⟩ := by
  simp [renderAllStep, h, he]

end Step

/-! ## A whole batch -/

section Run

variable {read : MarkupReader} {config : ServiceConfig} {raw : Value}

theorem foldl_renderAllStep_of_error {e : Fault} {n : List Notice} :
    ∀ ss : List CitationStyle,
      ss.foldl (renderAllStep read config raw) ⟨.error e, n⟩ = ⟨.error e, n⟩
  | [] => rfl
  | _ :: ss => foldl_renderAllStep_of_error ss

/-- Styles that all fail with one citation error and report nothing else are passed over, with a
notice for each. -/
theorem foldl_renderAllStep_skip {e : Fault} (he : e.isCitationError = true) :
    ∀ {ss : List CitationStyle}, (∀ s ∈ ss, renderWith read config s raw none = ⟨.error e, []⟩) →
      ∀ done n, ss.foldl (renderAllStep read config raw) ⟨.ok done, n⟩ =
        ⟨.ok done, n ++ ss.map fun s => .styleFailed (s.format config).label e⟩
  | [], _, done, n => by simp
  | s :: ss, hfail, done, n => by
    have hs := hfail s List.mem_cons_self
    rw [List.foldl_cons, renderAllStep_of_citation (by rw [hs]) he, hs,
      foldl_renderAllStep_skip he (fun t ht => hfail t (List.mem_cons_of_mem s ht))]
    simp

/-- Styles that report nothing and fail with no citation error give their outputs in order, or
the first failure among them. -/
theorem foldl_renderAllStep_mapM :
    ∀ {ss : List CitationStyle},
      (∀ s ∈ ss, (renderWith read config s raw none).notices = [] ∧
        ∀ e, (renderWith read config s raw none).result = .error e → e.isCitationError = false) →
      ∀ done n, ss.foldl (renderAllStep read config raw) ⟨.ok done, n⟩ =
        ⟨(ss.mapM fun s => (renderWith read config s raw none).result).map (done ++ ·), n⟩
  | [], _, done, n => by simp [pure, Except.pure, Except.map]
  | s :: ss, hstyles, done, n => by
    obtain ⟨hquiet, hfail⟩ := hstyles s List.mem_cons_self
    have ih := foldl_renderAllStep_mapM fun t (ht : t ∈ ss) => hstyles t (List.mem_cons_of_mem s ht)
    rw [List.foldl_cons, List.mapM_cons]
    cases hs : (renderWith read config s raw none).result with
    | ok out =>
      -- the output joins the batch, and the rest of the batch follows it
      rw [renderAllStep_of_ok hs, hquiet, List.append_nil, ih]
      cases (ss.mapM fun s => (renderWith read config s raw none).result) <;>
        simp [bind, Except.bind, pure, Except.pure, Except.map]
    | error e =>
      -- the failure ends the batch
      rw [renderAllStep_of_other hs (hfail e hs), hquiet, List.append_nil,
        foldl_renderAllStep_of_error]
      rfl

/-- On catalog fields, a batch renders the prose styles one by one, with no notice. -/
theorem renderAll_of_fields {fields : Fields} (h : Fields.ofValue raw = .ok fields) :
    renderAll read config raw =
      ⟨CitationStyle.prose.mapM fun s => (renderWith read config s raw none).result, []⟩ := by
  refine (foldl_renderAllStep_mapM (fun s hs => ⟨renderWith_notices_of_ne_ris
    (ne_ris_of_prose hs), fun e he => not_citationError_of_prose hs h he⟩) [] []).trans ?_
  cases CitationStyle.prose.mapM fun s => (renderWith read config s raw none).result <;> rfl

theorem renderAll_error_of_fields {fields : Fields} {e : Fault}
    (h : Fields.ofValue raw = .ok fields) (he : (renderAll read config raw).result = .error e) :
    e.isCitationError = false ∧
      ∃ s ∈ CitationStyle.prose, (renderWith read config s raw none).result = .error e := by
  rw [renderAll_of_fields h] at he
  obtain ⟨s, hs, hr⟩ := mapM_eq_error he
  exact ⟨not_citationError_of_prose hs h hr, s, hs, hr⟩

end Run

theorem prose_keys : CitationStyle.prose.map CitationStyle.key = ["mla", "apa", "cms", "lbb"] :=
  rfl

/-- **A batch renders every prose style or none.** Raw data that is not catalog fields gives no
output, with one notice per style. Catalog fields give exactly what rendering `mla`, `apa`,
`cms` and `lbb` one by one gives, with no notice: the four outputs in that order, or the first
failure among them, which is no citation error. So a batch that has an output has all four. -/
theorem renderAll_all_or_nothing (read : MarkupReader) (config : ServiceConfig) (raw : Value) :
    let batch := renderAll read config raw
    let each := ["mla", "apa", "cms", "lbb"].mapM fun k =>
      (render read config (some k) raw none).result
    (∀ e, Fields.ofValue raw = .error e →
      batch = ⟨.ok [], CitationStyle.prose.map fun s =>
        .styleFailed (s.format config).label (.build e)⟩) ∧
    (∀ fields, Fields.ofValue raw = .ok fields → batch = ⟨each, []⟩) ∧
    (∀ e, batch.result = .error e → e.isCitationError = false ∧
      ∃ k ∈ ["mla", "apa", "cms", "lbb"],
        (render read config (some k) raw none).result = .error e) ∧
    (∀ outs, batch.result = .ok outs →
      (outs = [] ↔ ∃ e, Fields.ofValue raw = .error e) ∧
      (outs ≠ [] → outs.map (·.style) = CitationStyle.prose)) := by
  intro batch each
  -- rendering by the keys is rendering the prose styles
  have heach :
      each = CitationStyle.prose.mapM fun s => (renderWith read config s raw none).result := by
    simp only [each, ← prose_keys, List.mapM_map, Function.comp_def, render_key]
  have hrejected : ∀ e, Fields.ofValue raw = .error e →
      batch = ⟨.ok [], CitationStyle.prose.map fun s =>
        .styleFailed (s.format config).label (.build e)⟩ := fun e h =>
    foldl_renderAllStep_skip rfl (fun s _ => renderWith_of_not_fields h) [] []
  have hfields : ∀ fields, Fields.ofValue raw = .ok fields → batch = ⟨each, []⟩ := by
    intro fields h
    rw [heach]
    exact renderAll_of_fields h
  refine ⟨hrejected, hfields, fun e he => ?_, fun outs hout => ?_⟩
  · cases h : Fields.ofValue raw with
    | error b => simp [hrejected b h] at he
    | ok fields =>
      obtain ⟨hc, s, hs, hr⟩ := renderAll_error_of_fields h he
      refine ⟨hc, s.key, prose_keys ▸ List.mem_map_of_mem hs, ?_⟩
      rw [render_key]
      exact hr
  · cases h : Fields.ofValue raw with
    | error b =>
      rw [hrejected b h] at hout
      cases hout
      exact ⟨by simp, by simp⟩
    | ok fields =>
      rw [hfields fields h, heach] at hout
      -- a traversal of the four styles that succeeds has an output of each, in order
      have hstyles : outs.map (·.style) = CitationStyle.prose := styles_of_mapM_renderWith hout
      refine ⟨⟨fun hnil => ?_, fun ⟨b, hb⟩ => by simp at hb⟩, fun _ => hstyles⟩
      rw [hnil] at hstyles
      cases hstyles

end Citations
