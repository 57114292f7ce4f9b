import Citations.Proofs.Dangling

/-!
# Separators in legal citations

A Bluebook citation is assembled from optional pieces: names, a title, dates, a publisher, the
numbers of a periodical. Each shape writes commas and spaces, parentheses and a closing period
between the pieces it has. This module shows that no such separator is left dangling
(`Undangled`): the body holds no comma and space before a period or an opening parenthesis and
no empty pair of parentheses, whatever the shape, as long as the fields are plain (`PlainField`,
`PlainName`) and a citation with authors has a title (`format_undangled`).

Plain is more than having no opening parenthesis and no comma and space: the pieces are written
as they are, so a title that ends with a comma leaves it before the thesis's parenthetical
(`format_title_comma_before_publisher`). The title is needed too: the book, sound-recording and
thesis shapes write the comma after the authors before they look at the title, so authors
without a title always leave it dangling (`format_untitled_dangles`).

* Every piece a shape writes is `Sealed`: the names (`sealed_buildNames`), the title in title case
  and italics, the dates (`sealed_newspaperDate`, `sealed_magazineDate`), the abbreviated
  journal, and the raw fields.
* Each shape is then a chain of junctions, each shown free of marks by `Sealed.comma`,
  `Sealed.space`, `Continuable.paren` and `Continuable.period`: a lead, parentheticals when their
  text is there, and the closing period (`thesisCitation_shape`), or pieces joined by commas
  (`undangled_commaList`).
-/

namespace Citations.Text

open Citations.Unicode

/-! ## Title case -/

theorem caseless_comma : Caseless ',' :=
  ⟨by decide +kernel, by decide +kernel, fun h => h.ne_comma, fun h => h.ne_comma, by decide⟩

theorem caseless_open : Caseless '(' :=
  ⟨by decide +kernel, by decide +kernel, fun h => h.ne_open, fun h => h.ne_open, by decide⟩

theorem pair_infix_append {x y : Char} : ∀ {a b : List Char},
    [x, y] <:+: a ++ b ↔
      [x, y] <:+: a ∨ [x, y] <:+: b ∨ (a.getLast? = some x ∧ b.head? = some y)
  | [], b => by simp
  | [c], b => by
    have hshort : ¬ [x, y] <:+: [c] := fun h => by simpa using h.length_le
    rw [List.singleton_append, List.infix_cons_iff]
    cases b with
    | nil => simp [hshort]
    | cons d b =>
      simp only [List.cons_prefix_cons, List.nil_prefix, and_true, List.getLast?_singleton,
        List.head?_cons, Option.some.injEq, hshort, false_or]
      constructor
      · rintro (⟨rfl, rfl⟩ | h)
        · exact .inr ⟨rfl, rfl⟩
        · exact .inl h
      · rintro (h | ⟨rfl, rfl⟩)
        · exact .inr h
        · exact .inl ⟨rfl, rfl⟩
  | c :: d :: a, b => by
    have hright : [x, y] <:+: c :: d :: a ↔ [x, y] <+: c :: d :: a ∨ [x, y] <:+: d :: a :=
      List.infix_cons_iff
    rw [List.cons_append, List.infix_cons_iff, pair_infix_append (a := d :: a), hright]
    simp only [List.cons_append, List.cons_prefix_cons, List.nil_prefix, and_true,
      List.getLast?_cons_cons]
    tauto

theorem pair_space_infix_intercalate {x : Char} (hx : x ≠ ' ') :
    ∀ {ls : List (List Char)}, (∀ l ∈ ls, ' ' ∉ l) →
      ([x, ' '] <:+: [' '].intercalate ls ↔ ∃ l ∈ ls.dropLast, l.getLast? = some x)
  | [], _ => by simp
  | [l], h => by
    simp only [List.intercalate_singleton, List.dropLast_singleton, List.not_mem_nil, false_and,
      exists_false, iff_false]
    exact fun hl => h l (by simp) (hl.subset (by simp))
  | l :: l' :: ls, h => by
    have ih : [x, ' '] <:+: [' '].intercalate (l' :: ls) ↔
        ∃ m ∈ (l' :: ls).dropLast, m.getLast? = some x :=
      pair_space_infix_intercalate hx fun m hm => h m (by simp [hm])
    rw [List.intercalate_cons_cons, List.append_assoc, pair_infix_append,
      List.singleton_append, List.infix_cons_iff, ih, List.dropLast_cons_cons]
    have hnot : ¬ [x, ' '] <:+: l := fun hl => h l (by simp) (hl.subset (by simp))
    simp only [hnot, List.cons_prefix_cons, hx, false_and, false_or, List.head?_cons, and_true,
      List.mem_cons, exists_eq_or_imp]
    exact or_comm

theorem pair_blank_of_intercalate_wordsOf {x : Char} (hx : isBlank x = false) :
    ∀ {cs : List Char}, [x, ' '] <:+: [' '].intercalate (wordsOf cs) →
      ∃ b, isBlank b = true ∧ [x, b] <:+: cs
  | [], h => by simp [wordsOf] at h
  | c :: rest, h => by
    -- a pair found in the words of the rest stands in the rest
    have ih : [x, ' '] <:+: [' '].intercalate (wordsOf rest) →
        ∃ b, isBlank b = true ∧ [x, b] <:+: c :: rest := fun h => by
      obtain ⟨b, hb, hin⟩ := pair_blank_of_intercalate_wordsOf hx h
      exact ⟨b, hb, hin.trans (List.suffix_cons c rest).isInfix⟩
    by_cases hc : isBlank c = true
    · rw [wordsOf_cons_of_blank hc] at h
      exact ih h
    have hc : isBlank c = false := by simpa using hc
    rw [wordsOf_cons_of_not_blank hc] at h
    split at h
    · rename_i w ws hrest
      have hw := isWord_of_mem_wordsOf (hrest ▸ List.mem_cons_self : w ∈ wordsOf rest)
      split at h
      · -- the character is a word of its own, before a blank
        rename_i hblank
        rw [List.intercalate_cons_cons, ← hrest, List.append_assoc, List.singleton_append,
          List.singleton_append, List.infix_cons_iff, List.infix_cons_iff] at h
        rcases h with h | h | h
        · obtain ⟨d, rest', rfl⟩ : ∃ d rest', rest = d :: rest' := by
            cases rest with
            | nil => simp at hblank
            | cons d rest' => exact ⟨d, rest', rfl⟩
          simp only [List.cons_prefix_cons, List.nil_prefix, and_true] at h
          refine ⟨d, by simpa using hblank, ?_⟩
          rw [h]
          exact (List.prefix_append [c, d] rest').isInfix
        · simp only [List.cons_prefix_cons] at h
          exact absurd h.1 (by rintro rfl; cases hx)
        · exact ih h
      · -- the character starts the first word of the rest
        rw [List.intercalate_cons_cons_left, ← hrest, List.infix_cons_iff] at h
        rcases h with h | h
        · -- the first word starts with a character that is no blank
          obtain ⟨d, w', rfl⟩ := List.exists_cons_of_ne_nil hw.1
          have hd := hw.2 d List.mem_cons_self
          rw [hrest, List.intercalate_cons_cons_left] at h
          simp only [List.cons_prefix_cons, List.nil_prefix, and_true] at h
          rw [← h.2] at hd
          exact absurd hd (by decide)
        · exact ih h
    · simp [List.infix_cons_iff] at h

/-- A word cased from another: it holds, or ends with, a caseless character only where the other
does. -/
structure CasedFrom (w w' : String) : Prop where
  mem : ∀ {x}, Caseless x → x ∈ w'.toList → x ∈ w.toList
  getLast : ∀ {x}, Caseless x → w'.toList.getLast? = some x → w.toList.getLast? = some x

theorem casedFrom_titleStep (capital : Bool) (w : String) :
    CasedFrom w (titleStep capital w) := by
  rcases titleStep_cases capital w with h | h <;> rw [h]
  · exact ⟨fun hx hm => hx.mem_lowerAfter (by simpa [lower, lowerChars] using hm),
      fun hx hl => hx.getLast?_lowerAfter.mp (by simpa [lower, lowerChars] using hl)⟩
  · exact ⟨fun hx hm => hx.mem_upperFirstChars (by simpa [upperFirst] using hm),
      fun hx hl => hx.getLast?_upperFirstChars.mp (by simpa [upperFirst] using hl)⟩

/-- A title in title case is its words, each cased from the title's own, joined by single
spaces. -/
theorem titleCase_frame (t : String) : ∃ ws : List String,
    (titleCase t).toList = [' '].intercalate (ws.map String.toList) ∧
      (∀ w ∈ ws, ' ' ∉ w.toList) ∧ List.Forall₂ CasedFrom (words t) ws := by
  obtain ⟨ws, hcase, hwords, hF⟩ := @caseWords_frame titleStep
    (fun capital w => .inr (titleStep_cases capital w)) CasedFrom casedFrom_titleStep t
  refine ⟨ws, ?_, fun w hw hspace => ?_, hF⟩
  · rw [titleCase_eq_caseWords, hcase, String.toList_intercalate]
    simp
  · have hword := isWord_of_mem_words (hwords ▸ hw : w ∈ words (caseWords titleStep t))
    exact absurd (hword.2 ' ' hspace) (by decide)

theorem exists_mem_of_forall₂ {α β : Type} {R : α → β → Prop} {p : α → Prop} {q : β → Prop}
    (hR : ∀ {a b}, R a b → q b → p a) {l₁ : List α} {l₂ : List β} (h : List.Forall₂ R l₁ l₂)
    (hb : ∃ b ∈ l₂, q b) : ∃ a ∈ l₁, p a := by
  induction h with
  | nil => simp at hb
  | cons hab _ ih =>
    obtain ⟨b, hb, hq⟩ := hb
    rcases List.mem_cons.mp hb with rfl | hb
    · exact ⟨_, List.mem_cons_self, hR hab hq⟩
    · obtain ⟨a, ha, hp⟩ := ih ⟨b, hb, hq⟩
      exact ⟨a, List.mem_cons_of_mem _ ha, hp⟩

theorem forall₂_dropLast {α β : Type} {R : α → β → Prop} {l₁ : List α} {l₂ : List β}
    (h : List.Forall₂ R l₁ l₂) : List.Forall₂ R l₁.dropLast l₂.dropLast := by
  rw [List.dropLast_eq_take, List.dropLast_eq_take, ← h.length_eq]
  exact List.forall₂_take _ h

theorem open_mem_of_titleCase {t : String} (h : '(' ∈ (titleCase t).toList) : '(' ∈ t.toList := by
  obtain ⟨ws, heq, -, hF⟩ := titleCase_frame t
  rw [heq] at h
  rcases Style.Ris.mem_intercalate h with h | ⟨l, hl, hx⟩
  · simp at h
  · obtain ⟨w', hw', rfl⟩ := List.mem_map.mp hl
    obtain ⟨w, hw, hwx⟩ :=
      exists_mem_of_forall₂ (fun hR hx => hR.mem caseless_open hx) hF ⟨w', hw', hx⟩
    exact mem_of_mem_words hw hwx

theorem comma_blank_of_titleCase {t : String} (h : [',', ' '] <:+: (titleCase t).toList) :
    ∃ b, isBlank b = true ∧ [',', b] <:+: t.toList := by
  obtain ⟨ws, heq, hsp, hF⟩ := titleCase_frame t
  have hsp' : ∀ l ∈ ws.map String.toList, ' ' ∉ l := by
    intro l hl
    obtain ⟨w, hw, rfl⟩ := List.mem_map.mp hl
    exact hsp w hw
  rw [heq, pair_space_infix_intercalate (by decide) hsp', ← List.map_dropLast] at h
  obtain ⟨l, hl, hlast⟩ := h
  obtain ⟨w', hw', rfl⟩ := List.mem_map.mp hl
  obtain ⟨w, hw, hwl⟩ := exists_mem_of_forall₂ (fun hR hl => hR.getLast caseless_comma hl)
    (forall₂_dropLast hF) ⟨w', hw', hlast⟩
  apply pair_blank_of_intercalate_wordsOf (by decide)
  have hwords : (words t).map String.toList = wordsOf t.toList := by
    simp [words]
  have hblank : ∀ l ∈ wordsOf t.toList, ' ' ∉ l := fun l hl hspace =>
    absurd ((isWord_of_mem_wordsOf hl).2 ' ' hspace) (by decide)
  rw [pair_space_infix_intercalate (by decide) hblank, ← hwords, ← List.map_dropLast]
  exact ⟨w.toList, List.mem_map_of_mem hw, hwl⟩

/-! ## Plain fields -/

/-- Text with no opening parenthesis and no comma before a space has no dangling mark: each mark
holds one or the other. -/
theorem undangled_of_no_open {cs : List Char} (h : '(' ∉ cs) (h' : ¬ [',', ' '] <:+: cs) :
    Undangled cs := by
  intro m hm hin
  simp only [danglingMarks, List.mem_cons, List.not_mem_nil, or_false] at hm
  rcases hm with rfl | rfl | rfl | rfl
  · exact h' ((List.prefix_append [',', ' '] ['.']).isInfix.trans hin)
  · exact h' ((List.prefix_append [',', ' '] ['(']).isInfix.trans hin)
  · exact h (hin.subset (by simp))
  · exact h (hin.subset (by simp))

/-- A field that can stand anywhere in a citation: it holds no opening parenthesis and no comma
before a blank, and it neither starts with a period or a closing parenthesis nor ends with a
comma. -/
structure PlainField (s : String) : Prop where
  no_open : '(' ∉ s.toList
  no_comma_blank : ∀ b ∈ s.toList, isBlank b = true → ¬ [',', b] <:+: s.toList
  head_period : s.toList.head? ≠ some '.'
  head_close : s.toList.head? ≠ some ')'
  last_comma : s.toList.getLast? ≠ some ','

instance (s : String) : Decidable (PlainField s) :=
  decidable_of_iff ('(' ∉ s.toList ∧
      (∀ b ∈ s.toList, isBlank b = true → ¬ [',', b] <:+: s.toList) ∧
      s.toList.head? ≠ some '.' ∧ s.toList.head? ≠ some ')' ∧ s.toList.getLast? ≠ some ',')
    ⟨fun ⟨h₁, h₂, h₃, h₄, h₅⟩ => ⟨h₁, h₂, h₃, h₄, h₅⟩,
      fun ⟨h₁, h₂, h₃, h₄, h₅⟩ => ⟨h₁, h₂, h₃, h₄, h₅⟩⟩

theorem head?_of_singleton_isPrefix {x : Char} {cs : List Char} (h : [x] <+: cs) :
    cs.head? = some x := by
  obtain ⟨t, rfl⟩ := h
  rfl

theorem PlainField.sealed {s : String} (h : PlainField s) : Sealed s.toList := by
  have hcomma : ¬ [',', ' '] <:+: s.toList := fun hin =>
    h.no_comma_blank ' ' (hin.subset (by simp)) (by decide) hin
  refine ⟨undangled_of_no_open h.no_open hcomma, leads_iff.mpr ⟨?_, ?_, ?_, ?_⟩,
    trails_iff.mpr ⟨?_, fun hs => hcomma hs.isInfix, fun hs => h.no_open (hs.subset (by simp))⟩⟩
  · exact fun hp => h.head_period (head?_of_singleton_isPrefix hp)
  · exact fun hp => h.no_open (hp.subset (by simp))
  · exact fun hp => h.no_open (hp.subset (by simp))
  · exact fun hp => h.head_close (head?_of_singleton_isPrefix hp)
  · exact fun hs => h.last_comma (List.singleton_suffix_iff_getLast?_eq_some.mp hs)

theorem PlainField.undangled_titleCase {t : String} (h : PlainField t) :
    Undangled (titleCase t).toList :=
  undangled_of_no_open (fun hin => h.no_open (open_mem_of_titleCase hin)) fun hin => by
    obtain ⟨b, hb, hcb⟩ := comma_blank_of_titleCase hin
    exact h.no_comma_blank b (hcb.subset (by simp)) hb hcb

theorem plainField_of_forall {s : String}
    (h : ∀ c ∈ s.toList, c ≠ ',' ∧ c ≠ '(' ∧ c ≠ '.' ∧ c ≠ ')') : PlainField s := by
  refine ⟨fun hc => (h _ hc).2.1 rfl, fun _ _ _ hin => (h ',' (hin.subset (by simp))).1 rfl,
    fun hd => ?_, fun hd => ?_, fun hd => ?_⟩
  · exact (h '.' (List.mem_of_mem_head? hd)).2.2.1 rfl
  · exact (h ')' (List.mem_of_mem_head? hd)).2.2.2 rfl
  · exact (h ',' (List.mem_of_getLast? hd)).1 rfl

theorem plainField_of_all {s : String}
    (h : s.toList.all (fun c => c != ',' && c != '(' && c != '.' && c != ')') = true) :
    PlainField s :=
  plainField_of_forall (by simpa [List.all_eq_true, and_assoc] using h)

theorem plainField_intText (n : Int) : PlainField (intText n) := by
  have hdigit : ∀ k c, c ∈ Nat.toDigits 10 k → c ≠ ',' ∧ c ≠ '(' ∧ c ≠ '.' ∧ c ≠ ')' := by
    intro k c hc
    have hd := Nat.isDigit_of_mem_toDigits (by norm_num) (by norm_num) hc
    refine ⟨?_, ?_, ?_, ?_⟩ <;> rintro rfl <;> exact absurd hd (by decide)
  apply plainField_of_forall
  intro c hc
  unfold intText at hc
  split at hc
  · simp only [String.toList_append, String.toList_ofList, List.mem_append] at hc
    rcases hc with hc | hc
    · obtain rfl : c = '-' := by simpa using hc
      decide
    · exact hdigit _ c hc
  · simp only [String.toList_ofList] at hc
    exact hdigit _ c hc

theorem toList_ne_nil_of_present {s : String} (h : (!s.isEmpty) = true) : s.toList ≠ [] := by
  simpa [String.isEmpty_iff] using h

theorem intText_present (n : Int) : (!(intText n).isEmpty) = true := by
  unfold intText
  split <;> simp [← String.toList_eq_nil_iff, Nat.toDigits_ne_nil]

/-! ## Pieces -/

theorem sealed_append_comma {a b : String} (ha : Sealed a.toList) (hb : Sealed b.toList)
    (hne : (!b.isEmpty) = true) : Sealed (a ++ ", " ++ b).toList := by
  have e : (a ++ ", " ++ b).toList = a.toList ++ [',', ' '] ++ b.toList := by simp
  rw [e]
  exact ha.comma hb (toList_ne_nil_of_present hne)

theorem sealed_append_space {a b : String} (ha : Sealed a.toList) (hb : Sealed b.toList)
    (ha' : (!a.isEmpty) = true) (hb' : (!b.isEmpty) = true) : Sealed (a ++ " " ++ b).toList := by
  have e : (a ++ " " ++ b).toList = a.toList ++ [' '] ++ b.toList := by simp
  rw [e]
  exact ha.space hb.undangled hb.trails (toList_ne_nil_of_present ha')
    (toList_ne_nil_of_present hb')

theorem sealed_append_clear {a s : String} (ha : Sealed a.toList) (hs : Clear s.toList) :
    Sealed (a ++ s).toList := by
  simpa using ha.clearJoin Sealed.nil hs

theorem sealed_of_mem_present {ps : List String} (h : ∀ p ∈ ps, Sealed p.toList) :
    ∀ l ∈ (ps.filter (!·.isEmpty)).map String.toList, Sealed l ∧ l ≠ [] := by
  intro l hl
  obtain ⟨p, hp, rfl⟩ := List.mem_map.mp hl
  obtain ⟨hp, hne⟩ := List.mem_filter.mp hp
  exact ⟨h p hp, by simpa [String.isEmpty_iff] using hne⟩

theorem sealed_commaJoin_present {ps : List String} (h : ∀ p ∈ ps, Sealed p.toList) :
    Sealed (", ".intercalate (ps.filter (!·.isEmpty))).toList := by
  rw [String.toList_intercalate, show ", ".toList = [',', ' '] by simp]
  exact Sealed.commaJoin _ (sealed_of_mem_present h)

theorem sealed_spaceJoin_cons {p : String} {ps : List String} (hp : Sealed p.toList)
    (hne : (!p.isEmpty) = true)
    (hps : ∀ q ∈ ps, Undangled q.toList ∧ Trails q.toList ∧ (!q.isEmpty) = true) :
    Sealed (" ".intercalate (p :: ps)).toList := by
  rw [String.toList_intercalate, show " ".toList = [' '] by simp, List.map_cons]
  refine Sealed.spaceJoin_cons _ hp (toList_ne_nil_of_present hne) fun l hl => ?_
  obtain ⟨q, hq, rfl⟩ := List.mem_map.mp hl
  obtain ⟨hu, ht, hne⟩ := hps q hq
  exact ⟨hu, ht, toList_ne_nil_of_present hne⟩

theorem sealed_spaceJoin_present {ps : List String} (h : ∀ p ∈ ps, Sealed p.toList) :
    Sealed (" ".intercalate (ps.filter (!·.isEmpty))).toList := by
  rw [String.toList_intercalate, show " ".toList = [' '] by simp]
  exact Sealed.spaceJoin _ (sealed_of_mem_present h)

theorem intercalate_present {sep : String} {ps : List String} (h : (!ps.isEmpty) = true)
    (hps : ∀ p ∈ ps, (!p.isEmpty) = true) : (!(sep.intercalate ps).isEmpty) = true := by
  obtain ⟨p, qs, rfl⟩ := List.exists_cons_of_ne_nil (by simpa using h)
  have hp : p.toList ≠ [] := by simpa [String.isEmpty_iff] using hps p List.mem_cons_self
  have hjoin : (sep.intercalate (p :: qs)).toList ≠ [] := by
    rw [String.toList_intercalate, List.map_cons]
    exact intercalate_cons_ne_nil _ hp _
  have hne : sep.intercalate (p :: qs) ≠ "" := fun he => hjoin (by simp [he])
  simpa [String.isEmpty_iff] using hne

theorem present_of_mem_filter {ps : List String} {p : String}
    (h : p ∈ ps.filter (!·.isEmpty)) : (!p.isEmpty) = true :=
  (List.mem_filter.mp h).2

theorem Clear.enclose {o c x : List Char} (ho : Clear o) (hc : Clear c) (hx : Undangled x) :
    Sealed (o ++ x ++ c) := by
  have hox : Undangled (o ++ x) :=
    undangled_append ho.undangled hx (by simpa using ho.ends.not_crosses [] x)
  refine ⟨undangled_append hox hc.undangled (by simpa using hc.starts.not_crosses (o ++ x) []),
    ?_, ⟨hc.ends.not_crosses (o ++ x) _, hc.ends.not_crosses (o ++ x) _⟩⟩
  rw [List.append_assoc]
  exact ⟨ho.starts.not_crosses _ _, ho.starts.not_crosses _ _⟩

theorem sealed_tagged {o c s : String} (ho : Clear o.toList) (hc : Clear c.toList)
    (h : Undangled s.toList) : Sealed (if s.isEmpty then "" else o ++ s ++ c).toList := by
  split
  · simpa using Sealed.nil
  · simpa using ho.enclose hc h

theorem sealed_smallCaps {s : String} (h : Undangled s.toList) : Sealed (smallCaps s).toList :=
  sealed_tagged (by decide) (by decide) h

theorem sealed_italicize {s : String} (h : Undangled s.toList) : Sealed (italicize s).toList :=
  sealed_tagged (by decide) (by decide) h

theorem smallCaps_present {s : String} (h : (!s.isEmpty) = true) :
    (!(smallCaps s).isEmpty) = true := by
  simp only [Bool.not_eq_true'] at h
  simp [smallCaps, h]

/-- Text that a parenthetical or a closing period can follow without leaving a mark. -/
structure Continuable (s : String) : Prop where
  undangled : Undangled s.toList
  trails : Trails s.toList

theorem Sealed.continuable {s : String} (h : Sealed s.toList) : Continuable s :=
  ⟨h.undangled, h.trails⟩

theorem Continuable.paren {a x : String} (ha : Continuable a) (hx : Sealed x.toList)
    (hne : (!x.isEmpty) = true) : Continuable (a ++ " (" ++ x ++ ")") := by
  have e : (a ++ " (" ++ x ++ ")").toList = a.toList ++ [' ', '('] ++ x.toList ++ [')'] := by
    simp
  exact ⟨e ▸ undangled_paren ha.undangled ha.trails hx (toList_ne_nil_of_present hne),
    e ▸ trails_paren _ _⟩

theorem Continuable.period {a : String} (ha : Continuable a) : Undangled (a ++ ".").toList := by
  have e : (a ++ ".").toList = a.toList ++ ['.'] := by simp
  exact e ▸ undangled_period ha.undangled ha.trails

theorem sealed_commaJoin_of_present {ps : List String}
    (h : ∀ p ∈ ps, Sealed p.toList ∧ (!p.isEmpty) = true) :
    Sealed (", ".intercalate ps).toList := by
  have hps : ps.filter (!·.isEmpty) = ps := List.filter_eq_self.mpr fun p hp => (h p hp).2
  have hsealed := sealed_commaJoin_present fun p (hp : p ∈ ps) => (h p hp).1
  rwa [hps] at hsealed

/-- Sealed pieces, the empty ones dropped, joined by commas and closed by a period. -/
theorem undangled_commaList {ps : List String} (h : ∀ p ∈ ps, Sealed p.toList) :
    Undangled (", ".intercalate (ps.filter (!·.isEmpty)) ++ ".").toList :=
  (sealed_commaJoin_present h).continuable.period

theorem Continuable.commaParen {a : String} (ha : Continuable a) {ps : List String}
    (hne : (!ps.isEmpty) = true) (h : ∀ p ∈ ps, Sealed p.toList ∧ (!p.isEmpty) = true) :
    Continuable (a ++ " (" ++ ", ".intercalate ps ++ ")") :=
  ha.paren (sealed_commaJoin_of_present h) (intercalate_present hne fun p hp => (h p hp).2)

theorem Continuable.optParen {a x : String} (ha : Continuable a) (hx : Sealed x.toList) :
    Continuable (a ++ (if (!x.isEmpty) = true then " (" ++ x ++ ")" else "")) := by
  split
  · simpa [String.append_assoc] using ha.paren hx ‹_›
  · simpa using ha

/-! ## Dates -/

theorem plainField_monthName (m : Int) : PlainField (monthName m) := by
  have hcheck : monthNames.all (fun n => n.toList.all fun c =>
      c != ',' && c != '(' && c != '.' && c != ')') = true := by
    decide
  have hnames : ∀ n ∈ monthNames, ∀ c ∈ n.toList, c ≠ ',' ∧ c ≠ '(' ∧ c ≠ '.' ∧ c ≠ ')' := by
    simpa [List.all_eq_true, and_assoc] using hcheck
  unfold monthName
  split
  · rw [List.getD_eq_getElem?_getD]
    cases hget : monthNames[m.toNat - 1]? with
    | none => exact plainField_of_forall (by simp)
    | some n => exact plainField_of_forall (hnames n (List.mem_of_getElem? hget))
  · exact plainField_of_forall (by simp)

theorem paren_piece {y : String} (hy : Sealed y.toList) (hne : (!y.isEmpty) = true) :
    Undangled ("(" ++ y ++ ")").toList ∧ Trails ("(" ++ y ++ ")").toList ∧
      (!("(" ++ y ++ ")").isEmpty) = true := by
  have hspaced := (Sealed.nil.continuable (s := "")).paren hy hne
  have hsuffix : ("(" ++ y ++ ")").toList <:+ ("" ++ " (" ++ y ++ ")").toList := by
    have e : ("" ++ " (" ++ y ++ ")").toList = [' '] ++ ("(" ++ y ++ ")").toList := by simp
    rw [e]
    exact List.suffix_append _ _
  refine ⟨undangled_of_isInfix hspaced.undangled hsuffix.isInfix,
    ⟨fun hc => hspaced.trails.1 (hc.mono_left hsuffix),
      fun hc => hspaced.trails.2 (hc.mono_left hsuffix)⟩, ?_⟩
  simp [← String.toList_eq_nil_iff]

end Citations.Text

namespace Citations.Style.Bluebook

open Citations.Text Citations.Legal

/-! ## What a Bluebook citation is made of -/

theorem sealed_monthAbbrev (c : Citation) : Sealed (monthAbbrev c).toList :=
  Table.sealed_apply monthTable_clean (plainField_monthName c.month).sealed

theorem sealed_newspaperDate (c : Citation) : Sealed (newspaperDate c).toList := by
  have hday := (plainField_intText c.day).sealed
  have hyear := (plainField_intText c.year).sealed
  unfold newspaperDate
  split
  · simpa using Sealed.nil
  · dsimp only
    split
    · rename_i hmonth
      simp only [Bool.and_eq_true] at hmonth
      exact sealed_append_comma (sealed_append_space (sealed_monthAbbrev c) hday hmonth.1
        (intText_present _)) hyear (intText_present _)
    · split
      · exact sealed_append_space (sealed_monthAbbrev c) hyear ‹_› (intText_present _)
      · exact hyear

theorem sealed_magazineDate (c : Citation) : Sealed (magazineDate c).toList := by
  have hyear := (plainField_intText c.year).sealed
  unfold magazineDate
  split
  · simpa using Sealed.nil
  · dsimp only
    split
    · exact sealed_append_space (sealed_monthAbbrev c) hyear ‹_› (intText_present _)
    · exact hyear

theorem sealed_yearText (c : Citation) : Sealed (yearText c).toList := by
  unfold yearText
  split
  · exact (plainField_intText _).sealed
  · simpa using Sealed.nil

theorem sealed_lawReviewDate (c : Citation) : Sealed (lawReviewDate c).toList := by
  unfold lawReviewDate
  split
  · exact (plainField_intText _).sealed
  · simpa using Sealed.nil

variable {names : List String} {r : String}

theorem ne_nil_of_buildNames (h : buildNames names = .ok r) (hr : (!r.isEmpty) = true) :
    names ≠ [] := by
  rintro rfl
  cases h
  simp at hr

theorem sealed_buildEditors (hn : ∀ n ∈ names, PlainName n) (h : buildEditors names = .ok r) :
    Sealed r.toList := by
  unfold buildEditors at h
  split at h
  · cases h
    simpa using Sealed.nil
  · obtain ⟨a, ha, h⟩ := bind_eq_ok.mp h
    cases h
    split
    · exact sealed_append_clear (sealed_buildNames hn ha) (by decide)
    · exact sealed_append_clear (sealed_buildNames hn ha) (by decide)

theorem sealed_buildTranslators (hn : ∀ n ∈ names, PlainName n)
    (h : buildTranslators names = .ok r) : Sealed r.toList := by
  unfold buildTranslators at h
  split at h
  · cases h
    simpa using Sealed.nil
  · obtain ⟨a, ha, h⟩ := bind_eq_ok.mp h
    cases h
    exact sealed_append_clear (sealed_buildNames hn ha) (by decide)

theorem sealed_lawWords {v J p : String} (Y : List String) (hv : Sealed v.toList)
    (hJ : Sealed J.toList) (hJne : (!J.isEmpty) = true) (hp : Sealed p.toList)
    (hY : ∀ y ∈ Y, Undangled y.toList ∧ Trails y.toList ∧ (!y.isEmpty) = true) :
    Sealed (" ".intercalate (([v] ++ [J] ++ [p] ++ Y).filter (!·.isEmpty))).toList := by
  have hrest : ∀ q ∈ ([p] ++ Y).filter (!·.isEmpty),
      Undangled q.toList ∧ Trails q.toList ∧ (!q.isEmpty) = true := by
    intro q hq
    obtain ⟨hq, hqne⟩ := List.mem_filter.mp hq
    rcases List.mem_append.mp hq with hq | hq
    · obtain rfl := List.mem_singleton.mp hq
      exact ⟨hp.undangled, hp.trails, hqne⟩
    · exact hY q hq
  have hJ' : J.isEmpty = false := by simpa using hJne
  by_cases hv' : (!v.isEmpty) = true
  · have hsplit : ([v] ++ [J] ++ [p] ++ Y).filter (!·.isEmpty) =
        v :: J :: ([p] ++ Y).filter (!·.isEmpty) := by
      have hv0 : v.isEmpty = false := by simpa using hv'
      simp [hv0, hJ']
    rw [hsplit]
    refine sealed_spaceJoin_cons hv hv' fun q hq => ?_
    rcases List.mem_cons.mp hq with rfl | hq
    · exact ⟨hJ.undangled, hJ.trails, hJne⟩
    · exact hrest q hq
  · have hsplit : ([v] ++ [J] ++ [p] ++ Y).filter (!·.isEmpty) =
        J :: ([p] ++ Y).filter (!·.isEmpty) := by
      have hv0 : v.isEmpty = true := by simpa using hv'
      simp [hv0, hJ']
    rw [hsplit]
    exact sealed_spaceJoin_cons hJ hJne hrest

/-- An item's fields are plain, its creators' names are plain, and an item with authors has a
title. -/
structure PlainCitation (c : Citation) : Prop where
  title : PlainField c.title
  publisher : PlainField c.publisher
  edition : PlainField c.edition
  journal : PlainField c.journal
  volume : PlainField c.volume
  pageFrom : PlainField c.pageFrom
  authors : ∀ n ∈ c.authors, PlainName n
  editors : ∀ n ∈ c.editors, PlainName n
  translators : ∀ n ∈ c.translators, PlainName n
  titled : c.authors ≠ [] → c.title ≠ ""

variable {c : Citation} {body : String}

theorem PlainCitation.title_present (hc : PlainCitation c) (h : c.authors ≠ []) :
    (!c.title.isEmpty) = true := by
  simpa [String.isEmpty_iff] using hc.titled h

/-! ## The four shapes -/

theorem continuable_smallCapsLead (hc : PlainCitation c) {a : String}
    (ha : buildNames c.authors = .ok a) :
    Continuable ((if a.isEmpty = true then "" else smallCaps a ++ ", ") ++ smallCaps c.title) := by
  have hT := sealed_smallCaps hc.title.sealed.undangled
  split
  · simpa using hT.continuable
  · rename_i hne
    have hpresent : (!a.isEmpty) = true := by simpa using hne
    exact (sealed_append_comma (sealed_smallCaps (sealed_buildNames hc.authors ha).undangled) hT
      (smallCaps_present (hc.title_present (ne_nil_of_buildNames ha hpresent)))).continuable

theorem names_of_bookCitation_ok (h : bookCitation c = .ok body) :
    ∃ a e t, buildNames c.authors = .ok a ∧ buildEditors c.editors = .ok e ∧
      buildTranslators c.translators = .ok t := by
  unfold bookCitation at h
  obtain ⟨a, ha, h⟩ := bind_eq_ok.mp h
  obtain ⟨e, he, h⟩ := bind_eq_ok.mp h
  obtain ⟨t, ht, -⟩ := bind_eq_ok.mp h
  exact ⟨a, e, t, ha, he, ht⟩

theorem undangled_bookCitation (hc : PlainCitation c) (h : bookCitation c = .ok body) :
    Undangled body.toList := by
  obtain ⟨a, e, t, ha, he, ht⟩ := names_of_bookCitation_ok h
  simp only [bookCitation, ha, he, ht, bind, Except.bind, pure, Except.pure] at h
  have hlead := continuable_smallCapsLead hc ha
  have hroles : ∀ p ∈ [e, t].filter (!·.isEmpty), Sealed p.toList ∧ (!p.isEmpty) = true := by
    intro p hp
    refine ⟨?_, present_of_mem_filter hp⟩
    rcases List.mem_pair.mp (List.mem_filter.mp hp).1 with rfl | rfl
    · exact sealed_buildEditors hc.editors he
    · exact sealed_buildTranslators hc.translators ht
  split at h
  · -- an edition or a year closes the parenthetical, which is therefore there
    rename_i hpart
    have hyear : Sealed (" ".intercalate ([c.edition, yearText c].filter (!·.isEmpty))).toList :=
      sealed_spaceJoin_present (by simp [hc.edition.sealed, sealed_yearText])
    rw [if_pos (by simp)] at h
    obtain rfl := Except.ok.inj h
    refine (hlead.commaParen (by simp) fun p hp => ?_).period
    rcases List.mem_append.mp hp with hp | hp
    · exact hroles p hp
    · obtain rfl := List.mem_singleton.mp hp
      exact ⟨hyear, intercalate_present hpart fun q hq => present_of_mem_filter hq⟩
  · split at h <;> obtain rfl := Except.ok.inj h
    · exact (hlead.commaParen ‹_› hroles).period
    · exact hlead.period

theorem isLawJournal_present {j : String} (h : isLawJournal j = true) : (!j.isEmpty) = true := by
  unfold isLawJournal at h
  exact (Bool.and_eq_true _ _ ▸ h).1

theorem sealed_lawReviewWords (hc : PlainCitation c) (hj : (!c.journal.isEmpty) = true)
    (Y : List String) (hY : Y = [] ∨ (!(lawReviewDate c).isEmpty) = true ∧
      Y = ["(" ++ lawReviewDate c ++ ")"]) :
    Sealed (" ".intercalate (([c.volume] ++ [smallCaps (abbreviatePeriodicalTitle c.journal)] ++
      [c.pageFrom] ++ Y).filter (!·.isEmpty))).toList := by
  have hJ := sealed_smallCaps (sealed_abbreviatePeriodicalTitle hc.journal.sealed).undangled
  have hJne := smallCaps_present
    (by simpa using abbreviatePeriodicalTitle_ne_empty (by simpa using hj))
  refine sealed_lawWords Y hc.volume.sealed hJ hJne hc.pageFrom.sealed fun y hy => ?_
  rcases hY with rfl | ⟨hyear, rfl⟩
  · simp at hy
  · obtain rfl := List.mem_singleton.mp hy
    exact paren_piece (sealed_lawReviewDate c) hyear

theorem sealed_atPage (hc : PlainCitation c) : Sealed ("at " ++ c.pageFrom).toList := by
  have e : ("at " ++ c.pageFrom).toList = [] ++ "at ".toList ++ c.pageFrom.toList := by simp
  rw [e]
  exact Sealed.nil.clearJoin hc.pageFrom.sealed (by decide)

theorem sealed_articleDate (c : Citation) : Sealed (if (c.publicationType == "news") = true then
    newspaperDate c else magazineDate c).toList := by
  split
  · exact sealed_newspaperDate c
  · exact sealed_magazineDate c

theorem undangled_lawReviewArticle (hc : PlainCitation c) {a : String}
    (ha : buildNames c.authors = .ok a)
    (hlaw : (lawReviewTypes.contains c.publicationType && isLawJournal c.journal) = true)
    (h : articleCitation c = .ok body) : Undangled body.toList := by
  have hA : Sealed a.toList := sealed_buildNames hc.authors ha
  have hT : Sealed (italicize (titleCase c.title)).toList :=
    sealed_italicize hc.title.undangled_titleCase
  have hj := isLawJournal_present (Bool.and_eq_true _ _ ▸ hlaw).2
  -- the branch facts go into the first `simp`, so that `h` never holds the other branches
  by_cases hy : (!(lawReviewDate c).isEmpty) = true
  · have hwords := sealed_lawReviewWords hc hj _ (.inr ⟨hy, rfl⟩)
    simp only [articleCitation, ha, bind, Except.bind, pure, Except.pure, hlaw, hj, hy,
      ↓reduceIte] at h
    split at h <;> split at h <;> obtain rfl := Except.ok.inj h <;>
      exact undangled_commaList (by simp only [List.nil_append, List.forall_mem_append,
        List.forall_mem_singleton, hA, hT, hwords, and_self])
  · have hwords := sealed_lawReviewWords hc hj [] (.inl rfl)
    simp only [articleCitation, ha, bind, Except.bind, pure, Except.pure, hlaw, hj, hy,
      ↓reduceIte, List.append_nil] at h hwords
    split at h <;> split at h <;> obtain rfl := Except.ok.inj h <;>
      exact undangled_commaList (by simp only [List.nil_append, List.forall_mem_append,
        List.forall_mem_singleton, hA, hT, hwords, and_self])

theorem sealed_volumeJournal (hc : PlainCitation c) (hj : c.journal.isEmpty = false) :
    Sealed (smallCaps (if c.volume.isEmpty = true then abbreviatePeriodicalTitle c.journal
      else c.volume ++ " " ++ abbreviatePeriodicalTitle c.journal)).toList := by
  have hJ := sealed_abbreviatePeriodicalTitle hc.journal.sealed
  split
  · exact sealed_smallCaps hJ.undangled
  · rename_i hv
    exact sealed_smallCaps (sealed_append_space hc.volume.sealed hJ (by simpa using hv)
      (by simpa using abbreviatePeriodicalTitle_ne_empty (by simpa using hj))).undangled

theorem undangled_periodicalArticle (hc : PlainCitation c) {a : String}
    (ha : buildNames c.authors = .ok a)
    (hlaw : (lawReviewTypes.contains c.publicationType && isLawJournal c.journal) = false)
    (h : articleCitation c = .ok body) : Undangled body.toList := by
  have hA : Sealed a.toList := sealed_buildNames hc.authors ha
  have hT : Sealed (italicize (titleCase c.title)).toList :=
    sealed_italicize hc.title.undangled_titleCase
  have hD := sealed_articleDate c
  have hP := sealed_atPage hc
  by_cases hj : (!c.journal.isEmpty) = true
  · have hJ' := sealed_volumeJournal hc (by simpa using hj)
    simp only [articleCitation, ha, bind, Except.bind, pure, Except.pure, hlaw, hj,
      Bool.false_eq_true, ↓reduceIte] at h
    -- the pieces are named, so that splitting `h` only opens the choices of pieces
    generalize (if (c.publicationType == "news") = true then newspaperDate c
      else magazineDate c) = date at h hD
    generalize smallCaps (if c.volume.isEmpty = true then abbreviatePeriodicalTitle c.journal
      else c.volume ++ " " ++ abbreviatePeriodicalTitle c.journal) = J at h hJ'
    generalize "at " ++ c.pageFrom = P at h hP
    repeat' split at h
    all_goals
      obtain rfl := Except.ok.inj h
      exact undangled_commaList (by simp only [List.nil_append, List.forall_mem_append,
        List.forall_mem_singleton, hA, hT, hJ', hD, hP, and_self])
  · simp only [articleCitation, ha, bind, Except.bind, pure, Except.pure, hlaw, hj,
      Bool.false_eq_true, ↓reduceIte] at h
    generalize (if (c.publicationType == "news") = true then newspaperDate c
      else magazineDate c) = date at h hD
    generalize "at " ++ c.pageFrom = P at h hP
    repeat' split at h
    all_goals
      obtain rfl := Except.ok.inj h
      exact undangled_commaList (by simp only [List.nil_append, List.forall_mem_append,
        List.forall_mem_singleton, hA, hT, hD, hP, and_self, List.not_mem_nil, false_implies,
        implies_true])

theorem undangled_articleCitation (hc : PlainCitation c) (h : articleCitation c = .ok body) :
    Undangled body.toList := by
  have hbinds := h
  unfold articleCitation at hbinds
  obtain ⟨a, ha, -⟩ := bind_eq_ok.mp hbinds
  cases hlaw : (lawReviewTypes.contains c.publicationType && isLawJournal c.journal)
  · exact undangled_periodicalArticle hc ha hlaw h
  · exact undangled_lawReviewArticle hc ha hlaw h

theorem undangled_mediaCitation (hc : PlainCitation c) (h : mediaCitation c = .ok body) :
    Undangled body.toList := by
  have hT := sealed_smallCaps hc.title.sealed.undangled
  have hwords : Sealed (" ".intercalate ([c.publisher, yearText c].filter (!·.isEmpty))).toList :=
    sealed_spaceJoin_present (by simp [hc.publisher.sealed, sealed_yearText])
  -- the lead: the artists of a sound recording, and the title
  obtain ⟨lead, hlead, hbody⟩ : ∃ lead, Continuable lead ∧
      (body = lead ++ "." ∨ (!([c.publisher, yearText c].filter (!·.isEmpty)).isEmpty) = true ∧
        body = lead ++ " (" ++ " ".intercalate ([c.publisher, yearText c].filter (!·.isEmpty)) ++
          ")" ++ ".") := by
    by_cases hsound : (c.format == "sound") = true
    · cases ha : buildNames c.authors with
      | error e => simp [mediaCitation, hsound, ha, bind, Except.bind] at h
      | ok a =>
        simp only [mediaCitation, hsound, ha, bind, Except.bind, pure, Except.pure,
          ↓reduceIte] at h
        split at h
        · rename_i hpresent
          have hlead := (sealed_append_comma
            (sealed_smallCaps (sealed_buildNames hc.authors ha).undangled) hT
            (smallCaps_present (hc.title_present (ne_nil_of_buildNames ha hpresent)))).continuable
          split at h
          · exact ⟨_, hlead, .inr ⟨‹_›, (Except.ok.inj h).symm⟩⟩
          · exact ⟨_, hlead, .inl (Except.ok.inj h).symm⟩
        · split at h
          · exact ⟨_, (by simpa using hT.continuable), .inr ⟨‹_›, (Except.ok.inj h).symm⟩⟩
          · exact ⟨_, (by simpa using hT.continuable), .inl (Except.ok.inj h).symm⟩
    · simp only [mediaCitation, hsound, Bool.false_eq_true, pure, Except.pure, ↓reduceIte] at h
      split at h
      · exact ⟨_, (by simpa using hT.continuable), .inr ⟨‹_›, (Except.ok.inj h).symm⟩⟩
      · exact ⟨_, (by simpa using hT.continuable), .inl (Except.ok.inj h).symm⟩
  rcases hbody with rfl | ⟨hne, rfl⟩
  · exact hlead.period
  · exact (hlead.paren hwords (intercalate_present hne fun q hq => present_of_mem_filter hq)).period

/-- A thesis is cited as its lead, the first author and the title or the title alone, followed by
the date and the publisher in parentheses when they are there. -/
theorem thesisCitation_shape (hc : PlainCitation c) (h : thesisCitation c = .ok body) :
    ∃ lead, Continuable lead ∧ body = lead ++
      (if (!(newspaperDate c).isEmpty) = true then " (" ++ newspaperDate c ++ ")" else "") ++
      (if (!c.publisher.isEmpty) = true then " (" ++ c.publisher ++ ")" else "") ++ "." := by
  have hT := hc.title.sealed
  by_cases hauthors : (!c.authors.isEmpty) = true
  · cases ha : buildNames (c.authors.take 1) with
    | error e => simp [thesisCitation, hauthors, ha, bind, Except.bind] at h
    | ok a =>
      simp only [thesisCitation, hauthors, ha, bind, Except.bind, pure, Except.pure,
        ↓reduceIte] at h
      have hA := sealed_buildNames (fun n hn => hc.authors n (List.mem_of_mem_take hn)) ha
      refine ⟨a ++ ", " ++ c.title, (sealed_append_comma hA hT
        (hc.title_present (by simpa using hauthors))).continuable, ?_⟩
      -- literals are kept apart, so that both sides reassociate alike
      split at h <;> split at h <;> obtain rfl := Except.ok.inj h <;>
        simp [*, String.append_assoc, -String.reduceAppend]
  · simp only [thesisCitation, hauthors, Bool.false_eq_true, pure, Except.pure, ↓reduceIte] at h
    refine ⟨c.title, hT.continuable, ?_⟩
    split at h <;> split at h <;> obtain rfl := Except.ok.inj h <;>
      simp [*, String.append_assoc, -String.reduceAppend]

theorem undangled_thesisCitation (hc : PlainCitation c) (h : thesisCitation c = .ok body) :
    Undangled body.toList := by
  obtain ⟨lead, hlead, rfl⟩ := thesisCitation_shape hc h
  exact ((hlead.optParen (sealed_newspaperDate c)).optParen hc.publisher.sealed).period

/-- No separator of a Bluebook citation dangles: for plain fields and names, and a title when
there are authors, the body holds no comma and space before a period or an opening parenthesis
and no empty parentheses, whichever shape the item takes. -/
theorem format_undangled (sources : List String) (c : Citation) (hc : PlainCitation c)
    (body : String) (h : format sources c = .ok body) : Undangled body.toList := by
  unfold format at h
  split at h
  · exact undangled_thesisCitation hc h
  · exact undangled_bookCitation hc h
  · exact undangled_mediaCitation hc h
  · exact undangled_articleCitation hc h

theorem buildName_of_readingOrder {name r : String} (h : readingOrder name = some r) :
    buildName name = .ok (abbreviateName r) := by
  simp [buildName, orderName, h]

theorem buildName_smith : buildName "Smith, John" = .ok "John Smith" := by
  have hcase : caseNameTable.apply "John Smith" = "John Smith" := by decide +kernel
  have hgeo : geographicalTable.apply "John Smith" = "John Smith" := by decide +kernel
  rw [buildName_of_readingOrder (r := "John Smith") (by decide +kernel), abbreviateName, hcase,
    hgeo]

theorem format_undangled_book :
    let c : Citation :=
      { authors := ["Smith, John"], editors := ["Doe, Jane"], title := "The Law of Things",
        edition := "2nd", year := 2019, format := "book" }
    let body := "<span style=\"font-variant: small-caps;\">John Smith</span>, " ++
      "<span style=\"font-variant: small-caps;\">The Law of Things</span> (Jane Doe ed., 2nd 2019)."
    PlainCitation c ∧ format [] c = .ok body ∧ Undangled body.toList := by
  intro c body
  have hc : PlainCitation c :=
    { title := plainField_of_all (by decide)
      publisher := plainField_of_all (by decide)
      edition := plainField_of_all (by decide)
      journal := plainField_of_all (by decide)
      volume := plainField_of_all (by decide)
      pageFrom := plainField_of_all (by decide)
      authors := by simp only [c, List.mem_singleton, forall_eq]; decide +kernel
      editors := by simp only [c, List.mem_singleton, forall_eq]; decide +kernel
      translators := by simp [c]
      titled := fun _ => by decide +kernel }
  -- The names are read through the two tables apart from the rest of the citation, one table
  -- at a time: each kernel check then holds one table's spellings, not both.
  have hcase : caseNameTable.apply "Jane Doe" = "Jane Doe" := by decide +kernel
  have hgeo : geographicalTable.apply "Jane Doe" = "Jane Doe" := by decide +kernel
  have hdoe : buildName "Doe, Jane" = .ok "Jane Doe" := by
    rw [buildName_of_readingOrder (r := "Jane Doe") (by decide +kernel), abbreviateName, hcase,
      hgeo]
  have hfmt : (format [] c).toOption.map id = some body := by
    simp only [format, show shapeOf [] c = .book from rfl, bookCitation, c, buildNames,
      buildEditors, buildTranslators, buildName_smith, hdoe]
    decide +kernel
  obtain ⟨_, hfmt, rfl⟩ := exists_ok_of_toOption hfmt
  exact ⟨hc, hfmt, format_undangled [] c hc _ hfmt⟩

/-- A thesis whose title ends with a comma: no field holds an opening parenthesis or a comma and
a space, yet the comma stands before the publisher's parenthesis. -/
theorem format_title_comma_before_publisher :
    let c : Citation := { title := "T,", publisher := "P", format := "thesis" }
    '(' ∉ c.title.toList ∧ ¬ [',', ' '] <:+: c.title.toList ∧ '(' ∉ c.publisher.toList ∧
      format [] c = .ok "T, (P)." ∧ [',', ' ', '('] <:+: "T, (P).".toList := by
  intro c
  have hfmt : (format [] c).toOption.map id = some "T, (P)." := by decide +kernel
  obtain ⟨_, hfmt, rfl⟩ := exists_ok_of_toOption hfmt
  exact ⟨by decide +kernel, by decide +kernel, by decide +kernel, hfmt, by decide +kernel⟩

/-! ## Authors without a title -/

theorem not_undangled_comma_tail (lead : String) {tail : String}
    (htail : tail = "." ∨ [' ', '('] <+: tail.toList) :
    ¬ Undangled (lead ++ ", " ++ tail).toList := by
  intro hund
  rcases htail with rfl | ⟨p, hp⟩
  · exact hund [',', ' ', '.'] (by simp [danglingMarks]) ⟨lead.toList, [], by simp⟩
  · exact hund [',', ' ', ' ', '('] (by simp [danglingMarks]) ⟨lead.toList, p, by simp [← hp]⟩

theorem bookCitation_untitled {a : String} (ha : buildNames c.authors = .ok a) (hne : a ≠ "")
    (htitle : c.title = "") (h : bookCitation c = .ok body) : ¬ Undangled body.toList := by
  obtain ⟨-, e, t, -, he, ht⟩ := names_of_bookCitation_ok h
  have ha_empty : a.isEmpty = false := by simpa [String.isEmpty_iff] using hne
  have hcaps : smallCaps "" = "" := rfl
  simp only [bookCitation, ha, he, ht, htitle, ha_empty, hcaps, bind, Except.bind, pure,
    Except.pure, Bool.false_eq_true, if_false, String.append_empty] at h
  -- with no title, the authors' comma is followed by the parenthetical or the period
  split at h <;> (try split at h) <;> obtain rfl := Except.ok.inj h <;>
    (try simp only [@String.append_assoc (smallCaps a ++ ", ")]) <;>
    exact not_undangled_comma_tail _ (by simp)

theorem mediaCitation_untitled (hsound : c.format = "sound") {a : String}
    (ha : buildNames c.authors = .ok a) (hne : a ≠ "") (htitle : c.title = "")
    (h : mediaCitation c = .ok body) : ¬ Undangled body.toList := by
  have ha_empty : a.isEmpty = false := by simpa [String.isEmpty_iff] using hne
  have hcaps : smallCaps "" = "" := rfl
  simp only [mediaCitation, hsound, ha, htitle, ha_empty, hcaps, bind, Except.bind, pure,
    Except.pure, beq_self_eq_true, Bool.not_false, if_true, String.append_empty] at h
  split at h <;> obtain rfl := Except.ok.inj h <;>
    (try simp only [@String.append_assoc (smallCaps a ++ ", ")]) <;>
    exact not_undangled_comma_tail _ (by simp)

theorem thesisCitation_untitled (hauthors : c.authors ≠ []) (htitle : c.title = "")
    (h : thesisCitation c = .ok body) : ¬ Undangled body.toList := by
  have hpresent : (!c.authors.isEmpty) = true := by simpa using hauthors
  cases ha : buildNames (c.authors.take 1) with
  | error e => simp [thesisCitation, hpresent, ha, bind, Except.bind] at h
  | ok a =>
    simp only [thesisCitation, hpresent, ha, htitle, bind, Except.bind, pure, Except.pure,
      if_true, String.append_empty] at h
    split at h <;> split at h <;> obtain rfl := Except.ok.inj h <;>
      (try simp only [@String.append_assoc (a ++ ", ")]) <;>
      exact not_undangled_comma_tail _ (by simp)

/-- Authors without a title leave the comma after them dangling, in every shape that writes the
authors' names: a thesis, a book (and an item of unknown format), and a sound recording. -/
theorem format_untitled_dangles (sources : List String) (c : Citation) (htitle : c.title = "")
    (hwritten : shapeOf sources c = .thesis ∧ c.authors ≠ [] ∨
      (shapeOf sources c = .book ∨ shapeOf sources c = .media ∧ c.format = "sound") ∧
        ∃ a, buildNames c.authors = .ok a ∧ a ≠ "")
    (body : String) (h : format sources c = .ok body) : ¬ Undangled body.toList := by
  unfold format at h
  rcases hwritten with ⟨hshape, hauthors⟩ | ⟨hshape | ⟨hshape, hsound⟩, a, ha, hne⟩ <;>
    rw [hshape] at h
  · exact thesisCitation_untitled hauthors htitle h
  · exact bookCitation_untitled ha hne htitle h
  · exact mediaCitation_untitled hsound ha hne htitle h

theorem format_untitled_dangles_book :
    let c : Citation := { authors := ["Smith, John"], format := "book" }
    let body := "<span style=\"font-variant: small-caps;\">John Smith</span>, ."
    format [] c = .ok body ∧ ¬ Undangled body.toList := by
  intro c body
  have hfmt : (format [] c).toOption.map id = some body := by
    simp only [format, show shapeOf [] c = .book from rfl, bookCitation, c, buildNames,
      buildEditors, buildTranslators, buildName_smith]
    decide +kernel
  obtain ⟨_, hfmt, rfl⟩ := exists_ok_of_toOption hfmt
  exact ⟨hfmt, format_untitled_dangles [] c rfl
    (.inr ⟨.inl rfl, _, buildName_smith, by decide⟩) _ hfmt⟩

end Citations.Style.Bluebook
