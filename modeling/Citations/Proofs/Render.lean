import Citations.Proofs.Faults

/-!
# What `render` answers

The answers of `render` for a requested key and raw fields, over every input and every
configuration:

* a key of no style is refused with `Fault.styleNotImplemented` (`select_of_not_mem_keys`);
* raw data that is not catalog fields is refused with `Fault.build`
  (`renderWith_of_fields_error`);
* an explicit citation is the body of every prose style and of `citeas`, its lines joined by
  line feeds, whatever the other fields and the configuration hold (`renderWith_of_explicit`);
* otherwise `citeas` fails with `Fault.noExplicitCitation`, a prose style fails only on a
  creator whose name is made only of commas (`renderWith_prose`), and the RIS export fails only
  where the markup reader gives up or the record's address is malformed (`renderWith_ris`).

`render_fault_contract` and `render_explicit_verbatim` put these together by the key requested.
-/

namespace Citations

open Std.Do Citations.Text Citations.Style

@[simp] theorem Citation.explicitText_build (fields : Fields) (opts : BuildOptions) :
    (Citation.build fields opts).explicitText = fields.get "explicit" := by
  by_cases hx : (fields.get "explicit").isEmpty <;> simp_all [Citation.build]

/-! ## Choosing a style -/

namespace CitationStyle

theorem key_injective : Function.Injective key := by
  intro a b h
  cases a <;> cases b <;> first | rfl | exact absurd h (by decide)

theorem mem_all (s : CitationStyle) : s ∈ all := by
  cases s <;> decide

theorem mem_keys {k : String} : k ∈ keys ↔ ∃ s : CitationStyle, s.key = k := by
  simp [keys, List.mem_mergeSort, mem_all]

theorem select_eq_ok_iff {requested : Option String} {s : CitationStyle} :
    select requested = .ok s ↔ s.key = lower (trim (requested.getD "")) := by
  unfold select
  split
  · rename_i t ht
    have hkey : t.key = lower (trim (requested.getD "")) := by
      simpa using List.find?_some ht
    constructor
    · rintro ⟨⟩
      exact hkey
    · intro h
      rw [key_injective (hkey.trans h.symm)]
  · rename_i hnone
    constructor
    · intro h
      cases h
    · intro h
      exact absurd (List.find?_eq_none.mp hnone s (mem_all s)) (by simp [h])

theorem select_of_not_mem_keys {requested : Option String}
    (h : lower (trim (requested.getD "")) ∉ keys) :
    select requested = .error (.styleNotImplemented requested) := by
  unfold select
  split
  · rename_i t ht
    exact absurd (mem_keys.mpr ⟨t, by simpa using List.find?_some ht⟩) h
  · rfl

/-! ## The body and the file name -/

theorem formatCitation_isSome (config : ServiceConfig) {s : CitationStyle} (hs : s ≠ .ris) :
    ∃ formatIt, s.formatCitation config = some formatIt := by
  cases s <;> simp_all [formatCitation]

theorem contents_of_explicit {config : ServiceConfig} {s : CitationStyle} {fields : Fields}
    {formatIt : Citation → Except Fault String} (read : MarkupReader) (recordUrl : Option String)
    (hs : s.formatCitation config = some formatIt) (hx : fields.get "explicit" ≠ []) :
    (s.contents read config fields recordUrl).result =
      .ok ("\n".intercalate (fields.get "explicit")) := by
  simp [contents, hs, hx]

theorem contents_of_no_explicit {config : ServiceConfig} {s : CitationStyle} {fields : Fields}
    {formatIt : Citation → Except Fault String} (read : MarkupReader) (recordUrl : Option String)
    (hs : s.formatCitation config = some formatIt) (hx : fields.get "explicit" = []) :
    (s.contents read config fields recordUrl).result =
      formatIt (Citation.build fields (s.options fields)) := by
  simp [contents, hs, hx]

theorem contents_ris (read : MarkupReader) (config : ServiceConfig) (fields : Fields)
    (recordUrl : Option String) :
    (CitationStyle.ris.contents read config fields recordUrl).result =
      Ris.record read (Ris.tagValues config.ris fields recordUrl).tags := rfl

theorem filename_of_ne_ris (config : ServiceConfig) (recordUrl : Option String)
    {s : CitationStyle} (hs : s ≠ .ris) : s.filename config recordUrl = .ok none := by
  simp [filename, hs, pure, Except.pure]

theorem filename_ris_error {config : ServiceConfig} {recordUrl : Option String} {e : Fault}
    (h : CitationStyle.ris.filename config recordUrl = .error e) :
    ∃ url, recordUrl = some url ∧ Address.parse url = .error e := by
  cases recordUrl with
  | none => simp [filename, pure, Except.pure, bind, Except.bind] at h
  | some url =>
    refine ⟨url, rfl, ?_⟩
    by_cases hu : url.isEmpty
    · simp [filename, hu, pure, Except.pure, bind, Except.bind] at h
    · cases hp : Address.parse url <;>
        simp_all [filename, Functor.map, Except.map, pure, Except.pure, bind, Except.bind]

end CitationStyle

/-! ## One style's output -/

section RenderWith

variable {read : MarkupReader} {config : ServiceConfig} {s : CitationStyle} {raw : Value}
  {recordUrl : Option String} {fields : Fields}

theorem renderWith_of_fields_error {e : BuildFault} (h : Fields.ofValue raw = .error e) :
    (renderWith read config s raw recordUrl).result = .error (.build e) := by
  simp [renderWith, h]

theorem renderWith_of_contents_error {e : Fault} (h : Fields.ofValue raw = .ok fields)
    (hc : (s.contents read config fields recordUrl).result = .error e) :
    (renderWith read config s raw recordUrl).result = .error e := by
  simp [renderWith, h, hc]

theorem renderWith_of_filename_error {text : String} {e : Fault}
    (h : Fields.ofValue raw = .ok fields)
    (hc : (s.contents read config fields recordUrl).result = .ok text)
    (hf : s.filename config recordUrl = .error e) :
    (renderWith read config s raw recordUrl).result = .error e := by
  simp [renderWith, h, hc, hf]

theorem renderWith_of_ok {text : String} {name : Option String}
    (h : Fields.ofValue raw = .ok fields)
    (hc : (s.contents read config fields recordUrl).result = .ok text)
    (hf : s.filename config recordUrl = .ok name) :
    (renderWith read config s raw recordUrl).result =
      .ok ⟨s, (s.format config).label, (s.format config).contentType, name, text⟩ := by
  simp [renderWith, h, hc, hf]

theorem contents_of_renderWith_ok {r : Rendered} (h : Fields.ofValue raw = .ok fields)
    (hr : (renderWith read config s raw recordUrl).result = .ok r) :
    (s.contents read config fields recordUrl).result = .ok r.body := by
  cases hc : (s.contents read config fields recordUrl).result with
  | error e =>
    rw [renderWith_of_contents_error h hc] at hr
    cases hr
  | ok text =>
    cases hf : s.filename config recordUrl with
    | error e =>
      rw [renderWith_of_filename_error h hc hf] at hr
      cases hr
    | ok name =>
      rw [renderWith_of_ok h hc hf] at hr
      cases hr
      rfl

/-- **An explicit citation is the body of every style but the RIS export**, whatever the other
fields, the configuration and the record's address. -/
theorem renderWith_of_explicit (hs : s ≠ .ris) (h : Fields.ofValue raw = .ok fields)
    (hx : fields.get "explicit" ≠ []) :
    (renderWith read config s raw recordUrl).result =
      .ok ⟨s, (s.format config).label, (s.format config).contentType, none,
        "\n".intercalate (fields.get "explicit")⟩ := by
  obtain ⟨formatIt, hf⟩ := CitationStyle.formatCitation_isSome config hs
  exact renderWith_of_ok h (CitationStyle.contents_of_explicit read recordUrl hf hx)
    (CitationStyle.filename_of_ne_ris config recordUrl hs)

/-- `citeas` fails exactly when the item has no explicit citation. -/
theorem renderWith_citeAs_error_iff (h : Fields.ofValue raw = .ok fields) :
    (renderWith read config .citeAs raw recordUrl).result = .error .noExplicitCitation ↔
      fields.get "explicit" = [] := by
  by_cases hx : fields.get "explicit" = []
  · have hc := CitationStyle.contents_of_no_explicit read recordUrl
      (show CitationStyle.citeAs.formatCitation config = some fun _ => .error .noExplicitCitation
        from rfl) hx
    simp [renderWith_of_contents_error h hc, hx]
  · simp [renderWith_of_explicit (show CitationStyle.citeAs ≠ .ris by decide) h hx, hx]

end RenderWith

/-! ## Creators made only of commas -/

/-- The fields of the creators whose names the prose styles format. -/
def creatorFields : List String := ["author", "editor", "compiler", "translator"]

/-- Catalog fields with a creator given only as commas and blanks. -/
def HasCommaOnlyCreator (fields : Fields) : Prop :=
  ∃ key ∈ creatorFields, ∃ name ∈ fields.get key, CommaOnly name

theorem mem_namesOf {fields : Fields} {key n : String} (h : n ∈ namesOf fields key) :
    ∃ v ∈ fields.get key, trim v = n := by
  simp only [namesOf, List.mem_filter, List.mem_map] at h
  exact h.1

theorem creatorNames_build {fields : Fields} {opts : BuildOptions} {n : String}
    (h : n ∈ (Citation.build fields opts).creatorNames) :
    ∃ key ∈ creatorFields, ∃ v ∈ fields.get key, trim v = n := by
  by_cases hx : (fields.get "explicit").isEmpty
  · simp only [Citation.build, hx, Bool.not_true, Bool.false_eq_true, if_false,
      Citation.creatorNames, List.mem_append] at h
    rcases h with ((h | h) | h) | h
    · exact ⟨"author", by simp [creatorFields], mem_namesOf h⟩
    · exact ⟨"editor", by simp [creatorFields], mem_namesOf h⟩
    · exact ⟨"compiler", by simp [creatorFields], mem_namesOf h⟩
    · exact ⟨"translator", by simp [creatorFields], mem_namesOf h⟩
  · simp [Citation.build, hx, Citation.creatorNames] at h

theorem hasCommaOnlyCreator_of_nameFault {fields : Fields} {opts : BuildOptions} {e : Fault}
    (h : NameFault (Citation.build fields opts).creatorNames e) :
    e = .nameWithoutParts ∧ HasCommaOnlyCreator fields := by
  obtain ⟨he, n, hn, hc⟩ := h
  obtain ⟨key, hkey, v, hv, rfl⟩ := creatorNames_build hn
  exact ⟨he, key, hkey, v, hv, commaOnly_trim.mp hc⟩

namespace CitationStyle

/-- A prose style's formatter fails only on a creator made only of commas. -/
theorem formatCitation_spec {config : ServiceConfig} {s : CitationStyle}
    {formatIt : Citation → Except Fault String} (hs : s ∈ prose)
    (hf : s.formatCitation config = some formatIt) (c : Citation) :
    ⦃⌜True⌝⦄ formatIt c ⦃post⟨fun _ => ⌜True⌝, fun e => ⌜NameFault c.creatorNames e⌝⟩⦄ := by
  simp only [prose, List.mem_cons, List.not_mem_nil, or_false] at hs
  rcases hs with rfl | rfl | rfl | rfl <;>
    simp only [formatCitation, Option.some.injEq] at hf <;> subst hf
  · exact Mla.format_spec c
  · exact Apa.format_spec c
  · exact Chicago.format_spec c
  · exact Bluebook.format_spec _ c

end CitationStyle

/-! ## The prose styles and the RIS export -/

section RenderWith

variable {read : MarkupReader} {config : ServiceConfig} {s : CitationStyle} {raw : Value}
  {recordUrl : Option String} {fields : Fields}

/-- A prose style gives its output unless a creator is made only of commas. -/
theorem renderWith_prose (hs : s ∈ CitationStyle.prose) (h : Fields.ofValue raw = .ok fields) :
    (∃ r, (renderWith read config s raw recordUrl).result = .ok r) ∨
      ((renderWith read config s raw recordUrl).result = .error .nameWithoutParts ∧
        HasCommaOnlyCreator fields) := by
  have hris : s ≠ .ris := by
    rintro rfl
    simp [CitationStyle.prose] at hs
  obtain ⟨formatIt, hf⟩ := CitationStyle.formatCitation_isSome config hris
  have hname := CitationStyle.filename_of_ne_ris config recordUrl hris
  by_cases hx : fields.get "explicit" = []
  · have hc := CitationStyle.contents_of_no_explicit read recordUrl hf hx
    -- without an explicit citation the body is the formatter's, which fails only on names
    rcases ok_or_fails_of_triple
        (CitationStyle.formatCitation_spec hs hf (Citation.build fields (s.options fields)))
      with ⟨text, ht⟩ | ⟨e, he, hfault⟩
    · exact .inl ⟨_, renderWith_of_ok h (hc.trans ht) hname⟩
    · obtain ⟨rfl, hcreator⟩ := hasCommaOnlyCreator_of_nameFault hfault
      exact .inr ⟨renderWith_of_contents_error h (hc.trans he), hcreator⟩
  · exact .inl ⟨_, renderWith_of_explicit hris h hx⟩

/-- The RIS export gives its output unless the markup reader gives up on a value or the
record's address is malformed. -/
theorem renderWith_ris (h : Fields.ofValue raw = .ok fields) :
    (∃ r, (renderWith read config .ris raw recordUrl).result = .ok r) ∨
      ∃ e, (renderWith read config .ris raw recordUrl).result = .error e ∧
        (ReaderFault read e ∨ ∃ url, recordUrl = some url ∧ Address.parse url = .error e) := by
  cases hc : (CitationStyle.ris.contents read config fields recordUrl).result with
  | error e =>
    have hrecord := hc
    rw [CitationStyle.contents_ris] at hrecord
    exact .inr ⟨e, renderWith_of_contents_error h hc,
      .inl (fails_of_triple (Ris.record_spec read _) hrecord)⟩
  | ok text =>
    cases hf : CitationStyle.ris.filename config recordUrl with
    | error e =>
      exact .inr ⟨e, renderWith_of_filename_error h hc hf,
        .inr (CitationStyle.filename_ris_error hf)⟩
    | ok name => exact .inl ⟨_, renderWith_of_ok h hc hf⟩

end RenderWith

/-! ## The requested style -/

theorem render_eq_renderWith {read : MarkupReader} {config : ServiceConfig}
    {requested : Option String} {raw : Value} {recordUrl : Option String} {s : CitationStyle}
    (hs : s.key = lower (trim (requested.getD ""))) :
    render read config requested raw recordUrl = renderWith read config s raw recordUrl := by
  simp [render, CitationStyle.select_eq_ok_iff.mpr hs]

theorem exists_prose_of_key {k : String} (hk : k ∈ ["apa", "mla", "cms", "lbb"]) :
    ∃ s ∈ CitationStyle.prose, s.key = k := by
  simp only [List.mem_cons, List.not_mem_nil, or_false] at hk
  rcases hk with rfl | rfl | rfl | rfl
  · exact ⟨.apa, by decide, rfl⟩
  · exact ⟨.mla, by decide, rfl⟩
  · exact ⟨.chicago, by decide, rfl⟩
  · exact ⟨.bluebook, by decide, rfl⟩

theorem exists_citing_of_key {k : String} (hk : k ∈ ["apa", "mla", "cms", "lbb", "citeas"]) :
    ∃ s : CitationStyle, s ≠ .ris ∧ s.key = k := by
  rcases List.mem_append.mp (show k ∈ ["apa", "mla", "cms", "lbb"] ++ ["citeas"] from hk)
    with hk | hk
  · -- a prose style, and the RIS export is none
    obtain ⟨s, hs, hkey⟩ := exists_prose_of_key hk
    refine ⟨s, ?_, hkey⟩
    rintro rfl
    exact absurd hs (by decide)
  · exact ⟨.citeAs, by decide, (List.mem_singleton.mp hk).symm⟩

/-- **The faults of `render`.** A key of no style is refused; for a style's key, raw data that
is not catalog fields is refused with the builder's fault; for catalog fields, `citeas` fails
exactly when there is no explicit citation, a prose style fails only on a creator made only of
commas, and the RIS export only where its markup or its record's address is malformed. On any
citation, a prose style's formatter fails only on such a creator. -/
theorem render_fault_contract (read : MarkupReader) (config : ServiceConfig)
    (requested : Option String) (raw : Value) (recordUrl : Option String) :
    let key := lower (trim (requested.getD ""))
    let result := (render read config requested raw recordUrl).result
    (key ∉ CitationStyle.keys → result = .error (.styleNotImplemented requested)) ∧
    (key ∈ CitationStyle.keys → ∀ e, Fields.ofValue raw = .error e → result = .error (.build e)) ∧
    (∀ fields, Fields.ofValue raw = .ok fields →
      (key = "citeas" →
        (result = .error .noExplicitCitation ↔ fields.get "explicit" = []) ∧
        (fields.get "explicit" ≠ [] → ∃ r, result = .ok r)) ∧
      (key ∈ ["apa", "mla", "cms", "lbb"] →
        (∃ r, result = .ok r) ∨
          (result = .error .nameWithoutParts ∧ HasCommaOnlyCreator fields)) ∧
      (key = "ris" →
        (∃ r, result = .ok r) ∨ ∃ e, result = .error e ∧
          (ReaderFault read e ∨ ∃ url, recordUrl = some url ∧ Address.parse url = .error e))) ∧
    ∀ c : Citation, ∀ s ∈ CitationStyle.prose, ∀ formatIt,
      s.formatCitation config = some formatIt →
        (∃ text, formatIt c = .ok text) ∨
          (formatIt c = .error .nameWithoutParts ∧ ∃ n ∈ c.creatorNames, CommaOnly n) := by
  dsimp only
  refine ⟨fun hk => ?_, fun hk e he => ?_, fun fields h => ⟨fun hk => ?_, fun hk => ?_,
    fun hk => ?_⟩, fun c s hs formatIt hf => ?_⟩
  · simp [render, CitationStyle.select_of_not_mem_keys hk]
  · obtain ⟨s, hs⟩ := CitationStyle.mem_keys.mp hk
    rw [render_eq_renderWith hs, renderWith_of_fields_error he]
  · rw [render_eq_renderWith (show CitationStyle.citeAs.key = _ from hk.symm)]
    exact ⟨renderWith_citeAs_error_iff h,
      fun hx => ⟨_, renderWith_of_explicit (show CitationStyle.citeAs ≠ .ris by decide) h hx⟩⟩
  · obtain ⟨s, hs, hkey⟩ := exists_prose_of_key hk
    rw [render_eq_renderWith hkey]
    exact renderWith_prose hs h
  · rw [render_eq_renderWith (show CitationStyle.ris.key = _ from hk.symm)]
    exact renderWith_ris h
  · rcases ok_or_fails_of_triple (CitationStyle.formatCitation_spec hs hf c)
      with ⟨text, ht⟩ | ⟨e, he, hfault, n, hn, hc⟩
    · exact .inl ⟨text, ht⟩
    · exact .inr ⟨hfault ▸ he, n, hn, hc⟩

/-- A name made only of a comma has no initials, so APA fails on an item whose author it is. -/
theorem render_apa_comma_author :
    (render Markup.plainText ServiceConfig.defaults (some "apa")
      (.dict [("author", .list [.str ","])]) none).result = .error .nameWithoutParts := by
  have hkey : CitationStyle.apa.key = lower (trim ((some "apa").getD "")) := by decide +kernel
  have hfields : Fields.ofValue (.dict [("author", .list [.str ","])]) =
      .ok ⟨[("author", [","])]⟩ := rfl
  rw [render_eq_renderWith hkey]
  have hfails : (renderWith Markup.plainText ServiceConfig.defaults .apa
      (.dict [("author", .list [.str ","])]) none).result.isOk = false := by
    decide +kernel
  -- APA either answers or fails on the name, and it does not answer
  rcases @renderWith_prose Markup.plainText ServiceConfig.defaults .apa _ none _ (by decide)
      hfields with ⟨r, hr⟩ | ⟨hr, -⟩
  · simp [hr, Except.isOk, Except.toBool] at hfails
  · exact hr

/-- **Explicit citations short-circuit every style but the RIS export.** Two items with the same
explicit citation get the same body, the citation's lines joined by line feeds, under any
configurations and record addresses, whatever their other fields hold. -/
theorem render_explicit_verbatim (read : MarkupReader) (config₁ config₂ : ServiceConfig)
    (requested : Option String) (raw₁ raw₂ : Value) (recordUrl₁ recordUrl₂ : Option String)
    (fields₁ fields₂ : Fields)
    (hkey : lower (trim (requested.getD "")) ∈ ["apa", "mla", "cms", "lbb", "citeas"])
    (h₁ : Fields.ofValue raw₁ = .ok fields₁) (h₂ : Fields.ofValue raw₂ = .ok fields₂)
    (hsame : fields₁.get "explicit" = fields₂.get "explicit")
    (hne : fields₁.get "explicit" ≠ []) :
    ∃ r₁ r₂, (render read config₁ requested raw₁ recordUrl₁).result = .ok r₁ ∧
      (render read config₂ requested raw₂ recordUrl₂).result = .ok r₂ ∧
      r₁.body = "\n".intercalate (fields₁.get "explicit") ∧ r₂.body = r₁.body := by
  obtain ⟨s, hs, hkey⟩ := exists_citing_of_key hkey
  rw [render_eq_renderWith hkey, render_eq_renderWith hkey,
    renderWith_of_explicit hs h₁ hne, renderWith_of_explicit hs h₂ (hsame ▸ hne), hsame]
  exact ⟨_, _, rfl, rfl, rfl, rfl⟩

/-- Two items citing the same text, one with a name made only of a comma and a malformed record
address, both get it from APA, with the reader the executable runs with. -/
theorem render_explicit_verbatim_apa :
    ∃ r₁ r₂, (render Markup.plainText ServiceConfig.defaults (some " APA ")
        (.dict [("explicit", .list [.str "Doe, J. A book."]), ("title", .str "Other")])
        none).result = .ok r₁ ∧
      (render Markup.plainText ServiceConfig.defaults (some " APA ")
        (.dict [("explicit", .str "Doe, J. A book."), ("author", .list [.str ","])])
        (some "http://[x")).result = .ok r₂ ∧
      r₁.body = "\n".intercalate ["Doe, J. A book."] ∧ r₂.body = r₁.body :=
  render_explicit_verbatim Markup.plainText ServiceConfig.defaults ServiceConfig.defaults
    (some " APA ")
    (.dict [("explicit", .list [.str "Doe, J. A book."]), ("title", .str "Other")])
    (.dict [("explicit", .str "Doe, J. A book."), ("author", .list [.str ","])])
    none (some "http://[x")
    ⟨[("explicit", ["Doe, J. A book."]), ("title", ["Other"])]⟩
    ⟨[("explicit", ["Doe, J. A book."]), ("author", [","])]⟩
    (by decide +kernel) rfl rfl rfl (by decide)

end Citations
