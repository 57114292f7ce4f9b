import Citations.Proofs.Render

/-!
# The layout of a RIS record

`render_ris_layout`: whatever the fields, the configuration and the markup reader, a RIS export
is the type line, then one line for each cleaned value of each tag other than `TY` and `ER`,
then the closing line. The framing a reader of the format relies on (`Framed`: lines ended by
CR-LF and holding no other line break, the type line first, the closing line last, no other line
opening or closing a record) follows when the type and the tags hold no line break and each
cleaned value is safe (`SafeValue`): cut at its CR-LFs, its lines hold no other line break and
none of its continuation lines opens or closes a record (`framed_of_layout`).

It does not follow in general: `cleanValue` cuts a value at each literal `\n` and joins the
pieces with CR-LF, so a continuation line may read `ER  - …`
(`render_ris_title_closes_record`).

The layout comes from the two stages of the export:
* `tagValues` adds the values tag by tag, and each step keeps the tags RIS tags with the type
  first (`TagValues.WellFormed`, `TagValues.WellFormed.add`), so the whole fold does
  (`tagValues_wellFormed`);
* `record` writes a line for each cleaned value of the sorted tags (`record_eq_ok`).
-/

namespace Citations.Style.Ris

open Citations.Text

/-! ## Lines -/

/-- Text without a carriage return or a line feed. -/
def NoLineBreak (s : String) : Prop := '\r' ∉ s.toList ∧ '\n' ∉ s.toList

/-- A text cut into lines, each ended by CR-LF and holding no other CR or LF. -/
def CrlfLines (text : String) (ls : List String) : Prop :=
  text.toList = ls.flatMap (fun l => l.toList ++ ['\r', '\n']) ∧ ∀ l ∈ ls, NoLineBreak l

theorem append_cr_inj {x₁ x₂ z₁ z₂ : List Char} (h₁ : '\r' ∉ x₁) (h₂ : '\r' ∉ x₂)
    (h : x₁ ++ '\r' :: z₁ = x₂ ++ '\r' :: z₂) : x₁ = x₂ ∧ z₁ = z₂ := by
  induction x₁ generalizing x₂ with
  | nil =>
    cases x₂ with
    | nil => simpa using h
    | cons d x₂ =>
      simp only [List.nil_append, List.cons_append, List.cons.injEq] at h
      simp [← h.1] at h₂
  | cons c x₁ ih =>
    cases x₂ with
    | nil =>
      simp only [List.nil_append, List.cons_append, List.cons.injEq] at h
      simp [h.1] at h₁
    | cons d x₂ =>
      simp only [List.cons_append, List.cons.injEq] at h
      obtain ⟨rfl, h⟩ := h
      obtain ⟨rfl, rfl⟩ := ih (by simp_all) (by simp_all) h
      exact ⟨rfl, rfl⟩

/-- A text has one cut into lines. -/
theorem CrlfLines.unique {text : String} {ls ls' : List String} (h : CrlfLines text ls)
    (h' : CrlfLines text ls') : ls = ls' := by
  obtain ⟨htext, hls⟩ := h
  obtain ⟨htext', hls'⟩ := h'
  have heq := htext.symm.trans htext'
  clear htext htext'
  -- each text starts with its first line and the first CR after it
  induction ls generalizing ls' with
  | nil =>
    cases ls' with
    | nil => rfl
    | cons l' ls' => simp at heq
  | cons l ls ih =>
    cases ls' with
    | nil => simp at heq
    | cons l' ls' =>
      simp only [List.flatMap_cons, List.append_assoc, List.cons_append, List.nil_append] at heq
      obtain ⟨hl, hrest⟩ := append_cr_inj (hls l List.mem_cons_self).1
        (hls' l' List.mem_cons_self).1 heq
      rw [String.toList_inj.mp hl, ih (fun m hm => hls m (List.mem_cons_of_mem l hm))
        (fun m hm => hls' m (List.mem_cons_of_mem l' hm)) (List.cons.inj hrest).2]

/-- The framing a RIS record promises: lines ended by CR-LF with no other line break, the type
line first, the closing line last, and no other line that opens or closes a record. -/
def Framed (text itemType : String) : Prop :=
  ∃ ls, CrlfLines text ls ∧ ls.head? = some ("TY  - " ++ itemType) ∧
    ls.getLast? = some "ER  - " ∧
    ∀ l ∈ ls.tail.dropLast, ¬ "TY  -".toList <+: l.toList ∧ ¬ "ER  -".toList <+: l.toList

/-! ## Framing of a record laid out line by line -/

theorem toList_line (tag value : String) :
    (line tag value).toList =
      tag.toList ++ ' ' :: ' ' :: '-' :: ' ' :: value.toList ++ ['\r', '\n'] := by
  simp [line, lineEnding]

theorem isTag_two_chars {tag : String} (h : isTag tag = true) (hn : '\n' ∉ tag.toList) :
    ∃ a b, tag.toList = [a, b] := by
  unfold isTag at h
  split at h
  · rename_i a b heq
    exact ⟨a, b, heq⟩
  · rename_i a b heq
    simp [heq] at hn
  · simp at h

theorem not_prefix_of_tag_ne {tag t value : String} (htag : ∃ a b, tag.toList = [a, b])
    (ht : ∃ a b, t.toList = [a, b]) (hne : tag ≠ t) :
    ¬ (t.toList ++ [' ', ' ', '-']) <+:
      (tag.toList ++ ' ' :: ' ' :: '-' :: ' ' :: value.toList) := by
  obtain ⟨a, b, hab⟩ := htag
  obtain ⟨c, d, hcd⟩ := ht
  rw [hab, hcd]
  rintro ⟨rest, hrest⟩
  simp only [List.cons_append, List.nil_append, List.cons.injEq] at hrest
  obtain ⟨rfl, rfl, -⟩ := hrest
  exact hne (String.toList_inj.mp (hab.trans hcd.symm))

instance : DecidablePred NoLineBreak := fun _ => inferInstanceAs (Decidable (_ ∧ _))

/-- A value as it is written after its tag: cut at each CR-LF into its first line, which goes on
the tag's line, and its continuation lines. It is safe when none of these lines holds another
line break and no continuation line opens or closes a record. -/
def SafeValue (value : String) : Prop :=
  ∃ first rest, value.toList = ['\r', '\n'].intercalate ((first :: rest).map String.toList) ∧
    NoLineBreak first ∧
    ∀ l ∈ rest, NoLineBreak l ∧ ¬ "TY  -".toList <+: l.toList ∧ ¬ "ER  -".toList <+: l.toList

theorem safeValue_of_noLineBreak {value : String} (h : NoLineBreak value) : SafeValue value :=
  ⟨value, [], by simp, h, by simp⟩

theorem intercalate_append_sep {α : Type} (sep : List α) :
    ∀ (x : List α) (xs : List (List α)),
      sep.intercalate (x :: xs) ++ sep = (x :: xs).flatMap (· ++ sep)
  | x, [] => by simp
  | x, y :: ys => by
    rw [List.intercalate_cons_cons, List.append_assoc, List.append_assoc,
      intercalate_append_sep sep y ys]
    simp

/-- A line neither opening nor closing a record, with no line break. -/
def MiddleLine (l : String) : Prop :=
  NoLineBreak l ∧ ¬ "TY  -".toList <+: l.toList ∧ ¬ "ER  -".toList <+: l.toList

theorem line_middleLines {tag value : String} (htag : isTag tag = true) (hTY : tag ≠ "TY")
    (hER : tag ≠ "ER") (hnb : NoLineBreak tag) (hv : SafeValue value) :
    ∃ ms : List String, (line tag value).toList = ms.flatMap (fun l => l.toList ++ ['\r', '\n']) ∧
      ∀ m ∈ ms, MiddleLine m := by
  obtain ⟨first, rest, hvalue, hfirst, hrest⟩ := hv
  refine ⟨(tag ++ "  - " ++ first) :: rest, ?_, ?_⟩
  · -- the value's CR-LFs and the line's own end cut the line after the tag into its lines
    have hjoin := intercalate_append_sep ['\r', '\n'] first.toList (rest.map String.toList)
    rw [toList_line, hvalue, List.map_cons, List.append_assoc]
    simp only [List.cons_append, hjoin]
    simp [List.flatMap_map]
  · have htwo := isTag_two_chars htag hnb.2
    rintro m (_ | ⟨_, hm⟩)
    · -- the tag's own line starts with the tag
      have hline : (tag ++ "  - " ++ first).toList =
          tag.toList ++ ' ' :: ' ' :: '-' :: ' ' :: first.toList := by
        simp
      refine ⟨?_, ?_, ?_⟩
      · simp_all [NoLineBreak]
      · rw [hline]
        simpa using not_prefix_of_tag_ne htwo ⟨'T', 'Y', rfl⟩ hTY
      · rw [hline]
        simpa using not_prefix_of_tag_ne htwo ⟨'E', 'R', rfl⟩ hER
    · exact hrest m hm

theorem join_middleLines {entries : List (String × String)}
    (hentries : ∀ e ∈ entries, isTag e.1 = true ∧ e.1 ≠ "TY" ∧ e.1 ≠ "ER" ∧
      NoLineBreak e.1 ∧ SafeValue e.2) :
    ∃ ms : List String, (String.join (entries.map fun e => line e.1 e.2)).toList =
      ms.flatMap (fun l => l.toList ++ ['\r', '\n']) ∧ ∀ m ∈ ms, MiddleLine m := by
  induction entries with
  | nil => exact ⟨[], by simp, by simp⟩
  | cons e entries ih =>
    obtain ⟨htag, hTY, hER, hnb, hv⟩ := hentries e List.mem_cons_self
    obtain ⟨ms₁, h₁, hm₁⟩ := line_middleLines htag hTY hER hnb hv
    obtain ⟨ms₂, h₂, hm₂⟩ := ih fun e' he' => hentries e' (List.mem_cons_of_mem e he')
    refine ⟨ms₁ ++ ms₂, ?_, fun m hm => (List.mem_append.mp hm).elim (hm₁ m) (hm₂ m)⟩
    simp only [List.map_cons, String.join_cons, String.toList_append, h₁, h₂, List.flatMap_append]

/-- **A record whose type and tags hold no line break and whose values are safe is framed.** -/
theorem framed_of_layout {itemType : String} {entries : List (String × String)}
    (hty : NoLineBreak itemType)
    (hentries : ∀ e ∈ entries, isTag e.1 = true ∧ e.1 ≠ "TY" ∧ e.1 ≠ "ER" ∧
      NoLineBreak e.1 ∧ SafeValue e.2) :
    Framed (line "TY" itemType ++ String.join (entries.map fun e => line e.1 e.2) ++
      line "ER" "") itemType := by
  obtain ⟨ms, hjoin, hms⟩ := join_middleLines hentries
  refine ⟨("TY  - " ++ itemType) :: (ms ++ ["ER  - "]), ⟨?_, ?_⟩, rfl,
    by rw [← List.cons_append, List.getLast?_concat], ?_⟩
  · simp [toList_line, hjoin, String.toList_append]
  · intro l hl
    simp only [List.mem_cons, List.mem_append, List.not_mem_nil, or_false] at hl
    rcases hl with rfl | hl | rfl
    · simpa [NoLineBreak] using hty
    · exact (hms l hl).1
    · decide
  · -- the middle lines are the entries' lines
    intro l hl
    rw [List.tail_cons, List.dropLast_concat] at hl
    exact (hms l hl).2

/-! ## The lines of a record -/

variable {read : MarkupReader}

theorem mapM_line_eq_ok {tag : String} {values lines : List String}
    (h : values.mapM (fun v => do return line tag (← cleanValue read tag v)) = .ok lines) :
    ∃ cleaned : List String, lines = cleaned.map (line tag) ∧
      ∀ c ∈ cleaned, ∃ v, cleanValue read tag v = .ok c := by
  induction values generalizing lines with
  | nil =>
    simp only [List.mapM_nil, pure, Except.pure, Except.ok.injEq] at h
    exact ⟨[], by simp [← h], by simp⟩
  | cons v vs ih =>
    rw [List.mapM_cons] at h
    cases hv : cleanValue read tag v with
    | error e =>
      rw [hv] at h
      cases h
    | ok c =>
      cases hvs : vs.mapM (fun v => do return line tag (← cleanValue read tag v)) with
      | error e =>
        rw [hv, hvs] at h
        cases h
      | ok more =>
        rw [hv, hvs] at h
        obtain ⟨cleaned, rfl, hc⟩ := ih hvs
        refine ⟨c :: cleaned, by cases h; rfl, ?_⟩
        rintro c' (_ | ⟨_, hc'⟩)
        · exact ⟨v, hv⟩
        · exact hc c' hc'

theorem flatMapM_entries {g : String → Except Fault (List String)}
    (hg : ∀ tag lines, g tag = .ok lines → ∃ cleaned : List String,
      lines = cleaned.map (line tag) ∧ ∀ c ∈ cleaned, ∃ v, cleanValue read tag v = .ok c)
    {others body : List String} (h : others.flatMapM g = .ok body) :
    ∃ entries : List (String × String), body = entries.map (fun e => line e.1 e.2) ∧
      ∀ e ∈ entries, e.1 ∈ others ∧ ∃ v, cleanValue read e.1 v = .ok e.2 := by
  induction others generalizing body with
  | nil =>
    simp only [List.flatMapM_nil, pure, Except.pure, Except.ok.injEq] at h
    exact ⟨[], by simp [← h], by simp⟩
  | cons tag rest ih =>
    rw [List.flatMapM_cons] at h
    obtain ⟨lines, hgt, h⟩ := bind_eq_ok.mp h
    obtain ⟨more, hr, h⟩ := bind_eq_ok.mp h
    cases h
    obtain ⟨cleaned, rfl, hc⟩ := hg tag lines hgt
    obtain ⟨entries, rfl, he⟩ := ih hr
    refine ⟨cleaned.map (tag, ·) ++ entries, by simp [Function.comp_def], ?_⟩
    intro e hmem
    rcases List.mem_append.mp hmem with hmem | hmem
    · obtain ⟨c, hcm, rfl⟩ := List.mem_map.mp hmem
      exact ⟨List.mem_cons_self, hc c hcm⟩
    · obtain ⟨hrest, hv⟩ := he e hmem
      exact ⟨List.mem_cons_of_mem tag hrest, hv⟩

/-- **The layout of a record**: the type line, a line for each cleaned value of each tag other
than `TY` and `ER`, and the closing line. -/
theorem record_eq_ok {tags : List (String × List String)} {text : String}
    (h : record read tags = .ok text) :
    ∃ entries : List (String × String),
      text = line "TY" ((((tags.find? (·.1 == "TY")).map (·.2)).getD ["GEN"]).headD "") ++
        String.join (entries.map fun e => line e.1 e.2) ++ line "ER" "" ∧
      ∀ e ∈ entries, e.1 ∈ tags.map (·.1) ∧ e.1 ≠ "TY" ∧ e.1 ≠ "ER" ∧
        ∃ v, cleanValue read e.1 v = .ok e.2 := by
  unfold record at h
  dsimp only at h
  obtain ⟨body, hbody, htext⟩ := bind_eq_ok.mp h
  cases htext
  obtain ⟨entries, rfl, hentries⟩ := flatMapM_entries
    (fun tag lines hl => mapM_line_eq_ok hl) hbody
  refine ⟨entries, rfl, fun e he => ?_⟩
  obtain ⟨hsorted, hv⟩ := hentries e he
  -- the tags written are the sorted tags other than the type and the end
  simp only [sortTags, List.mem_mergeSort, List.mem_filter, Bool.and_eq_true,
    bne_iff_ne, ne_eq] at hsorted
  exact ⟨hsorted.1, hsorted.2.1, hsorted.2.2, hv⟩

/-! ## The tags of an export -/

/-- What every step of `tagValues` keeps: its tags are RIS tags, and the type comes first. -/
structure TagValues.WellFormed (tv : TagValues) (itemType : String) : Prop where
  isTag_of_mem : ∀ p ∈ tv.tags, isTag p.1 = true
  type_first : ∃ rest more, tv.tags = ("TY", itemType :: rest) :: more

/-- Adding a value keeps the tags RIS tags and the type first. -/
theorem TagValues.WellFormed.add {tv : TagValues} {itemType : String}
    (h : tv.WellFormed itemType) (tag value : String) : (tv.add tag value).WellFormed itemType := by
  obtain ⟨hall, rest, more, htags⟩ := h
  unfold TagValues.add
  dsimp only
  split
  · -- a tag that is no RIS tag is skipped
    exact ⟨hall, rest, more, htags⟩
  · rename_i hok
    have hok : isTag (upper tag) = true := by simpa using hok
    split
    · -- a tag given before gets one more value, in its place
      refine ⟨fun p hp => ?_, ?_⟩
      · obtain ⟨q, hq, rfl⟩ := List.mem_map.mp hp
        have := hall q hq
        split <;> simpa
      · rw [htags, List.map_cons]
        by_cases hty : ("TY" == upper tag) = true
        · exact ⟨rest ++ [value], _, congrArg₂ List.cons (by simp [hty]) rfl⟩
        · exact ⟨rest, _, congrArg₂ List.cons (by simp [hty]) rfl⟩
    · -- a new tag goes last
      refine ⟨fun p hp => ?_, rest, more ++ [(upper tag, [value])], by simp [htags]⟩
      rcases List.mem_append.mp hp with hp | hp
      · exact hall p hp
      · rw [List.mem_singleton.mp hp]
        exact hok

theorem TagValues.WellFormed.foldl {α : Type} {itemType : String}
    {f : TagValues → α → TagValues}
    (hf : ∀ tv a, tv.WellFormed itemType → (f tv a).WellFormed itemType) :
    ∀ (l : List α) {tv : TagValues}, tv.WellFormed itemType → (l.foldl f tv).WellFormed itemType
  | [], _, h => h
  | a :: l, _, h => TagValues.WellFormed.foldl hf l (hf _ a h)

/-- **The tags of an export are RIS tags, and the first is the item's type**: the code of its
format, or the default type. -/
theorem tagValues_wellFormed (ris : RisConfig) (fields : Fields) (recordUrl : Option String) :
    (tagValues ris fields recordUrl).WellFormed
      (((ris.typeCodes.find? (·.1 == firstValue (fields.get "format"))).map (·.2)).getD
        ris.defaultType) := by
  unfold tagValues
  dsimp only
  generalize (((ris.typeCodes.find? (·.1 == firstValue (fields.get "format"))).map (·.2)).getD
    ris.defaultType) = itemType
  have hTY : upper "TY" = "TY" := by decide +kernel
  have hstart : (TagValues.add {} "TY" itemType).WellFormed itemType := by
    refine ⟨fun p hp => ?_, [], [], ?_⟩ <;> simp_all [TagValues.add, isTag]
  -- the configured fields add their values one by one, each keeping the tags well formed
  generalize hfold : List.foldl _ (TagValues.add {} "TY" itemType) ris.fieldTags = tv
  have hfields : tv.WellFormed itemType := by
    rw [← hfold]
    refine TagValues.WellFormed.foldl ?_ _ hstart
    rintro tv ⟨field, tags⟩ htv
    refine TagValues.WellFormed.foldl ?_ _ htv
    intro tv tag htv
    refine TagValues.WellFormed.foldl ?_ _ htv
    intro tv value htv
    split
    · exact htv
    · exact htv.add _ _
  -- and the record's address is a note
  split
  · split
    · exact hfields
    · exact hfields.add _ _
  · exact hfields

end Citations.Style.Ris

namespace Citations

open Citations.Text Citations.Style.Ris

/-! ## The RIS export -/

/-- **The layout of a RIS export.** For every item, configuration, record address and markup
reader, the body is the type line (the code of the item's format, or the default type), a line
for each cleaned value of RIS tags other than `TY` and `ER`, and the closing line. It is framed
when neither the type nor a tag holds a line break and every cleaned value is safe: its lines
hold no other line break and no continuation line opens or closes a record. -/
theorem render_ris_layout (read : MarkupReader) (config : ServiceConfig)
    (requested : Option String) (raw : Value) (recordUrl : Option String) (fields : Fields)
    (r : Rendered)
    (hkey : lower (trim (requested.getD "")) = "ris") (h : Fields.ofValue raw = .ok fields)
    (hr : (render read config requested raw recordUrl).result = .ok r) :
    let itemType := ((config.ris.typeCodes.find? (·.1 == firstValue (fields.get "format"))).map
      (·.2)).getD config.ris.defaultType
    ∃ entries : List (String × String),
      r.body = line "TY" itemType ++ String.join (entries.map fun e => line e.1 e.2) ++
        line "ER" "" ∧
      (∀ e ∈ entries, isTag e.1 = true ∧ e.1 ≠ "TY" ∧ e.1 ≠ "ER" ∧
        ∃ v, cleanValue read e.1 v = .ok e.2) ∧
      (NoLineBreak itemType → (∀ e ∈ entries, NoLineBreak e.1 ∧ SafeValue e.2) →
        Framed r.body itemType) := by
  intro itemType
  rw [render_eq_renderWith (show CitationStyle.ris.key = _ from hkey.symm)] at hr
  have hrecord : record read (tagValues config.ris fields recordUrl).tags = .ok r.body :=
    contents_of_renderWith_ok h hr
  obtain ⟨entries, hbody, hentries⟩ := record_eq_ok hrecord
  obtain ⟨hall, rest, more, htags⟩ := tagValues_wellFormed config.ris fields recordUrl
  -- the record's type is the first value of its first tag
  have htype : ((((tagValues config.ris fields recordUrl).tags.find? (·.1 == "TY")).map
      (·.2)).getD ["GEN"]).headD "" = itemType := by
    rw [htags]
    simp [itemType]
  rw [htype] at hbody
  -- every tag written is one of the export's, so a RIS tag
  have htag : ∀ e ∈ entries, isTag e.1 = true ∧ e.1 ≠ "TY" ∧ e.1 ≠ "ER" ∧
      ∃ v, cleanValue read e.1 v = .ok e.2 := by
    intro e he
    obtain ⟨hmem, hTY, hER, hv⟩ := hentries e he
    obtain ⟨p, hp, hpe⟩ := List.mem_map.mp hmem
    exact ⟨hpe ▸ hall p hp, hTY, hER, hv⟩
  refine ⟨entries, hbody, htag, fun hty hlines => ?_⟩
  rw [hbody]
  exact framed_of_layout hty fun e he =>
    ⟨(htag e he).1, (htag e he).2.1, (htag e he).2.2.1, hlines e he⟩

/-- An item with a title on two lines, under the default configuration and the reader the
executable runs with. -/
theorem render_ris_layout_title :
    ∃ r, (render Markup.plainText ServiceConfig.defaults (some "ris")
        (.dict [("title", .str "On\\nframing")]) none).result = .ok r ∧
      let itemType := ((ServiceConfig.defaults.ris.typeCodes.find?
        (·.1 == firstValue (Fields.get ⟨[("title", ["On\\nframing"])]⟩ "format"))).map
          (·.2)).getD ServiceConfig.defaults.ris.defaultType
      ∃ entries : List (String × String),
        r.body = line "TY" itemType ++ String.join (entries.map fun e => line e.1 e.2) ++
          line "ER" "" ∧
        (∀ e ∈ entries, isTag e.1 = true ∧ e.1 ≠ "TY" ∧ e.1 ≠ "ER" ∧
          ∃ v, cleanValue Markup.plainText e.1 v = .ok e.2) ∧
        (NoLineBreak itemType → (∀ e ∈ entries, NoLineBreak e.1 ∧ SafeValue e.2) →
          Framed r.body itemType) := by
  have hrun : ((render Markup.plainText ServiceConfig.defaults (some "ris")
      (.dict [("title", .str "On\\nframing")]) none).result.toOption.map (·.body)) =
      some "TY  - GEN\r\nTI  - On\r\nframing\r\nER  - \r\n" := by
    decide +kernel
  obtain ⟨r, hr, -⟩ := exists_ok_of_toOption hrun
  exact ⟨r, hr, render_ris_layout Markup.plainText ServiceConfig.defaults (some "ris")
    (.dict [("title", .str "On\\nframing")]) none ⟨[("title", ["On\\nframing"])]⟩ r
    (by decide +kernel) rfl hr⟩

/-- A literal `\n` in a title starts a continuation line, and the one here closes the record
early: the export is not framed. The title holds no markup, so the reader plays no part. -/
theorem render_ris_title_closes_record :
    ∃ r, (render Markup.plainText ServiceConfig.defaults (some "ris")
        (.dict [("title", .str "x\\nER  - y")]) none).result = .ok r ∧
      r.body = "TY  - GEN\r\nTI  - x\r\nER  - y\r\nER  - \r\n" ∧ ¬ Framed r.body "GEN" := by
  have hrun : ((render Markup.plainText ServiceConfig.defaults (some "ris")
      (.dict [("title", .str "x\\nER  - y")]) none).result.toOption.map (·.body)) =
      some "TY  - GEN\r\nTI  - x\r\nER  - y\r\nER  - \r\n" := by
    decide +kernel
  obtain ⟨r, hr, hbody⟩ := exists_ok_of_toOption hrun
  refine ⟨r, hr, hbody, ?_⟩
  rintro ⟨ls, hls, -, -, hmiddle⟩
  -- the body has one cut into lines, and its third line starts as a closing line does
  have hlines : CrlfLines r.body ["TY  - GEN", "TI  - x", "ER  - y", "ER  - "] := by
    rw [hbody]
    constructor
    · decide
    · decide
  rw [hls.unique hlines] at hmiddle
  exact (hmiddle "ER  - y" (by simp)).2 (by decide)

end Citations
