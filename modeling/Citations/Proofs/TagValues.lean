import Citations.Proofs.Record

/-!
# What a RIS export holds

A RIS export neither loses nor repeats a value (`ris_export_values`). For every configuration that
validation accepts, let the values of a tag be those the configuration sends there
(`exportValues`): for each configured field in order, and each time the tag is listed for it, the
field's nonblank values, trimmed, with the field's role after them under the author tags; then,
under `N1`, the record's address. The export has lines for exactly the RIS tags other than `TY` and
`ER` that have values, in ascending order, each tag's values merged and cleaned; and it warns once
for each nonblank value sent to a tag that is no RIS tag (`skippedValues`).

The proof follows the two stages of the export.

* `tagValues` adds one pair of tag and value after another (`tagValues_eq_foldl`,
  `routedValues`). One step of adding is described through the tags given so far
  (`TagValues.keys`) and the values of each (`TagValues.valuesOf`), so a whole run is: the values of
  a tag are those of the pairs naming it, the tags are those named, each once, and a warning is made
  for each pair whose tag is no RIS tag (`TagValues.valuesOf_foldl_add` and the lemmas beside it).
* The export upper-cases each tag before it looks at it, and the statement speaks of the
  configured tags themselves. Validation writes tags in upper case, and upper case changes such a
  tag no further once it is a RIS tag (`upper_upper_of_isTag`): the Unicode upper-case table
  sends no character to one whose own upper case is made of capital letters and digits
  (`Unicode.upperFull_of_mem_upperFull`).
* `record` then writes the sorted tags (`sortTags_pairwise`).
-/

namespace Citations.Unicode

/-- The code of a character that a RIS tag may hold: a capital letter, a digit, or the line feed
that may end it. -/
def isTagCode (n : Nat) : Bool :=
  n == 0x0a || (0x30 ≤ n && n ≤ 0x39) || (0x41 ≤ n && n ≤ 0x5a)

theorem getD_mem_or_eq {α : Type} (xs : Array α) (i : Nat) (d : α) :
    xs.getD i d ∈ xs.toList ∨ xs.getD i d = d := by
  rw [Array.getD_eq_getD_getElem?]
  cases h : xs[i]? with
  | none => exact .inr rfl
  | some a => exact .inl (Array.mem_toList_iff.mpr (Array.mem_of_getElem? h))

theorem CodeMap.find?_sound {m : CodeMap} {n : Nat} {vs : List Nat} (h : m.find? n = some vs) :
    (n, vs) ∈ m.entries.toList ∨ (n = 0 ∧ vs = []) := by
  unfold CodeMap.find? at h
  split at h
  · cases h
  · split at h
    · cases h
    · dsimp only at h
      have hmem := getD_mem_or_eq m.entries
        (CodeMap.lastKeyAtOrBelow m.entries n 0 m.entries.size) (0, [])
      generalize m.entries.getD _ (0, []) = e at h hmem
      split at h
      · rename_i heq
        cases h
        subst heq
        rcases hmem with hmem | rfl
        · exact .inl hmem
        · exact .inr ⟨rfl, rfl⟩
      · cases h

theorem upperCaseMap_first : upperCaseMap.entries[0]? = some (0x61, [0x41]) := by
  decide +kernel

theorem upperFull_of_lt {c : Char} (h : c.toNat < 0x61) : upperFull c = [c] := by
  simp [upperFull, CodeMap.apply, CodeMap.find?, upperCaseMap_first, h]

/-- The characters whose upper case is made of tag characters without being themselves: the
small letters, `ß`, `ı`, `ſ` and the ligatures `ﬀ` to `ﬆ`. -/
def hasTagUpperCase (n : Nat) : Bool :=
  (0x61 ≤ n && n ≤ 0x7a) || n == 0xdf || n == 0x131 || n == 0x17f || (0xfb00 ≤ n && n ≤ 0xfb06)

set_option maxRecDepth 100000 in
theorem upperCaseMap_tagCase :
    upperCaseMap.entries.toList.all (fun e => !e.2.all isTagCode || hasTagUpperCase e.1) =
      true := by
  decide +kernel

set_option maxRecDepth 100000 in
theorem upperCaseMap_not_tagCase :
    upperCaseMap.entries.toList.all (fun e => e.2.all fun v => !hasTagUpperCase v) = true := by
  decide +kernel

theorem toNat_ofNat_eq_or (w : Nat) : (Char.ofNat w).toNat = w ∨ (Char.ofNat w).toNat = 0 := by
  rw [Char.toNat_ofNat]
  split
  · exact .inl rfl
  · exact .inr rfl

/-- A character of an upper case whose own upper case is made of tag characters is its own
upper case. -/
theorem upperFull_of_mem_upperFull {c d : Char} (hd : d ∈ upperFull c)
    (htag : ∀ x ∈ upperFull d, isTagCode x.toNat) : upperFull d = [d] := by
  have hzero : upperCaseMap.find? 0 = none := by
    simp [CodeMap.find?, upperCaseMap_first]
  simp only [upperFull, CodeMap.apply] at hd htag ⊢
  cases hc : upperCaseMap.find? c.toNat with
  | none =>
    simp only [hc, List.mem_singleton] at hd
    subst hd
    simp [hc]
  | some vs =>
    simp only [hc, List.mem_map] at hd
    obtain ⟨v, hv, rfl⟩ := hd
    cases hd' : upperCaseMap.find? (Char.ofNat v).toNat with
    | none => rfl
    | some ws =>
      exfalso
      simp only [hd', List.mem_map, forall_exists_index, and_imp,
        forall_apply_eq_imp_iff₂] at htag
      -- `v` and the codes of its upper case name characters: code 0 has no entry and is no tag code
      have hv' : (Char.ofNat v).toNat = v := (toNat_ofNat_eq_or v).resolve_right fun h => by
        rw [h, hzero] at hd'
        cases hd'
      have hws : ws.all isTagCode = true := List.all_eq_true.mpr fun w hw => by
        have hw' := htag w hw
        rwa [(toNat_ofNat_eq_or w).resolve_right fun h => by simp [h, isTagCode] at hw'] at hw'
      rw [hv'] at hd'
      have hmem : (v, ws) ∈ upperCaseMap.entries.toList :=
        (CodeMap.find?_sound hd').resolve_right fun h => by
          rw [h.1, hzero] at hd'
          cases hd'
      rcases CodeMap.find?_sound hc with hcmem | ⟨-, rfl⟩
      · -- `v` keys an entry made of tag codes, and `c`'s entry holds `v`: the table has neither
        have hcase : hasTagUpperCase v = true := by
          simpa [hws] using List.all_eq_true.mp upperCaseMap_tagCase _ hmem
        have hnot : hasTagUpperCase v = false := by
          have hentry := List.all_eq_true.mp upperCaseMap_not_tagCase _ hcmem
          simpa using List.all_eq_true.mp hentry v hv
        simp [hcase] at hnot
      · simp at hv

end Citations.Unicode

namespace Citations.Style.Ris

open Citations.Text Citations.Unicode

/-! ## Tags in upper case -/

theorem isTagCode_of_isTag {tag : String} (h : isTag tag = true) :
    ∀ x ∈ tag.toList, isTagCode x.toNat = true := by
  have hok : ∀ c : Char, (('A' ≤ c && c ≤ 'Z') || ('0' ≤ c && c ≤ '9')) = true →
      isTagCode c.toNat = true := by
    intro c hc
    simp only [Bool.or_eq_true, Bool.and_eq_true, decide_eq_true_eq, Char.le_def] at hc
    simp only [isTagCode, Bool.or_eq_true, beq_iff_eq, Bool.and_eq_true, decide_eq_true_eq]
    have : c.val.toNat = c.toNat := rfl
    rcases hc with ⟨h1, h2⟩ | ⟨h1, h2⟩
    · right; simp [UInt32.le_iff_toNat_le] at h1 h2; omega
    · left; right; simp [UInt32.le_iff_toNat_le] at h1 h2; omega
  unfold isTag at h
  split at h
  · rename_i a b heq
    simp only [Bool.and_eq_true] at h
    rw [heq]
    intro x hx
    simp only [List.mem_cons, List.not_mem_nil, or_false] at hx
    rcases hx with rfl | rfl
    · exact hok _ h.1
    · exact hok _ h.2
  · rename_i a b heq
    simp only [Bool.and_eq_true] at h
    rw [heq]
    intro x hx
    simp only [List.mem_cons, List.not_mem_nil, or_false] at hx
    rcases hx with rfl | rfl | rfl
    · exact hok _ h.1
    · exact hok _ h.2
    · decide
  · cases h

@[simp] theorem toList_upper (s : String) : (upper s).toList = s.toList.flatMap upperFull := by
  simp only [upper, String.toList_ofList]
  rfl

theorem upper_eq_self {t : String} (h : ∀ d ∈ t.toList, upperFull d = [d]) : upper t = t := by
  apply String.toList_inj.mp
  rw [toList_upper]
  calc t.toList.flatMap upperFull = t.toList.flatMap (fun d => [d]) := List.flatMap_congr h
    _ = t.toList := List.flatMap_singleton' _

theorem upper_of_isTag {tag : String} (h : isTag tag = true) : upper tag = tag := by
  apply upper_eq_self
  intro d hd
  have hcode := isTagCode_of_isTag h d hd
  simp only [isTagCode, Bool.or_eq_true, beq_iff_eq, Bool.and_eq_true, decide_eq_true_eq] at hcode
  exact upperFull_of_lt (by omega)

/-- Text in upper case whose upper case is a RIS tag is that tag. -/
theorem upper_upper_of_isTag {s : String} (h : isTag (upper (upper s)) = true) :
    upper (upper s) = upper s := by
  have hchars := isTagCode_of_isTag h
  apply upper_eq_self
  intro d hd
  -- `d` comes from the upper case of a character of `s`; its own upper case lies in the tag
  obtain ⟨c, -, hdc⟩ : ∃ c ∈ s.toList, d ∈ upperFull c := by
    simpa only [toList_upper, List.mem_flatMap] using hd
  refine upperFull_of_mem_upperFull hdc fun x hx => hchars x ?_
  rw [toList_upper, List.mem_flatMap]
  exact ⟨d, hd, hx⟩

section Written

variable {t : String} (ht : isTag (upper t) = true → upper t = t)
include ht

theorem isTag_upper_eq : isTag (upper t) = isTag t := by
  by_cases h : isTag (upper t) = true
  · rw [ht h]
  · by_cases h' : isTag t = true
    · rw [upper_of_isTag h'] at h
      exact absurd h' h
    · simp_all

theorem tag_matches {T : String} (hT : isTag T = true) :
    (isTag (upper t) && upper t == T) = (t == T) := by
  by_cases h : isTag (upper t) = true
  · have hu := ht h
    rw [hu] at h ⊢
    simp [h]
  · have hne : t ≠ T := by
      rintro rfl
      rw [upper_of_isTag hT] at h
      exact h hT
    simp [h, hne]

end Written

/-! ## Adding values tag by tag -/

namespace TagValues

/-- The values gathered for a tag; none for a tag not given. -/
def valuesOf (tv : TagValues) (tag : String) : List String :=
  ((tv.tags.find? (·.1 == tag)).map (·.2)).getD []

/-- The tags given, in the order in which they were first given. -/
def keys (tv : TagValues) : List String := tv.tags.map (·.1)

section Step

variable (tv : TagValues) (tag value : String)

theorem valuesOf_add (T : String) :
    (tv.add tag value).valuesOf T =
      tv.valuesOf T ++ if isTag (upper tag) && upper tag == T then [value] else [] := by
  unfold add valuesOf
  by_cases hok : isTag (upper tag) = true
  · by_cases hany : tv.tags.any (·.1 == upper tag) = true
    · -- the tag's entry gets the value; the first entry of `T` is found where it was
      simp only [hok, Bool.not_true, Bool.false_eq_true, if_false, hany, if_true,
        List.find?_map, Function.comp_def, apply_ite Prod.fst, ite_self, Option.map_map]
      cases hf : tv.tags.find? (·.1 == T) with
      | none =>
        have hnone := List.find?_eq_none.mp hf
        obtain ⟨p, hp, hpu⟩ := List.any_eq_true.mp hany
        by_cases hT : upper tag = T
        · exact absurd (hT ▸ hpu) (hnone p hp)
        · simp [hT]
      | some p =>
        have hpT : p.1 = T := by simpa using List.find?_some hf
        by_cases hT : upper tag = T
        · simp [hT, hpT]
        · simp [hT, hpT, Ne.symm hT]
    · -- a new tag goes last with its value
      have hnone : ∀ vs, (upper tag, vs) ∉ tv.tags := by
        simpa [List.any_eq_true] using hany
      simp only [hok, Bool.not_true, Bool.false_eq_true, if_false, hany, List.find?_append]
      cases hf : tv.tags.find? (·.1 == T) with
      | none =>
        by_cases hT : upper tag = T <;> simp [hT]
      | some p =>
        have hpT : p.1 = T := by simpa using List.find?_some hf
        have hne : upper tag ≠ T := by
          rintro rfl
          exact hnone p.2 (hpT ▸ List.mem_of_find?_eq_some hf)
        simp [hne]
  · simp [hok]

theorem keys_add :
    (tv.add tag value).keys = tv.keys ++
      if isTag (upper tag) && !tv.keys.contains (upper tag) then [upper tag] else [] := by
  unfold add keys
  by_cases hok : isTag (upper tag) = true
  · by_cases hany : tv.tags.any (·.1 == upper tag) = true
    · have hmem : upper tag ∈ tv.tags.map (·.1) := by
        obtain ⟨p, hp, hpu⟩ := List.any_eq_true.mp hany
        exact List.mem_map.mpr ⟨p, hp, by simpa using hpu⟩
      simp [hok, hany, Function.comp_def, apply_ite Prod.fst, hmem]
    · have hmem : upper tag ∉ tv.tags.map (·.1) := by
        simpa [List.any_eq_true] using hany
      simp [hok, hany, hmem]
  · simp [hok]

theorem notices_add :
    (tv.add tag value).notices =
      tv.notices ++ if isTag (upper tag) then [] else [.skippedTag (upper tag)] := by
  unfold add
  by_cases hok : isTag (upper tag) = true
  · by_cases hany : tv.tags.any (·.1 == upper tag) = true <;> simp [hok, hany]
  · simp [hok]

theorem mem_keys_add (T : String) :
    T ∈ (tv.add tag value).keys ↔ T ∈ tv.keys ∨ (isTag (upper tag) = true ∧ upper tag = T) := by
  rw [keys_add]
  by_cases hok : isTag (upper tag) = true
  · by_cases hmem : upper tag ∈ tv.keys
    · -- a tag given before is not listed again
      have hc : tv.keys.contains (upper tag) = true := List.contains_iff_mem.mpr hmem
      simp only [hok, hc, Bool.not_true, Bool.and_false, Bool.false_eq_true, if_false,
        List.append_nil, true_and]
      exact ⟨.inl, fun h => h.elim id (· ▸ hmem)⟩
    · simp [hok, hmem, eq_comm]
  · simp [hok]

theorem nodup_keys_add (h : tv.keys.Nodup) : (tv.add tag value).keys.Nodup := by
  rw [keys_add]
  split
  · rename_i hnew
    have hfresh : upper tag ∉ tv.keys := by
      simp only [Bool.and_eq_true, Bool.not_eq_true', List.contains_eq_mem,
        decide_eq_false_iff_not] at hnew
      exact hnew.2
    exact h.append (List.nodup_singleton _) (by simpa using hfresh)
  · simpa using h

end Step

section Run

variable (ps : List (String × String))

/-- The values of a tag after adding pairs: those it had, then the values of the pairs whose tag
is, in upper case, a RIS tag and this one, in order. -/
theorem valuesOf_foldl_add (tv : TagValues) (T : String) :
    (ps.foldl (fun tv p => tv.add p.1 p.2) tv).valuesOf T =
      tv.valuesOf T ++ (ps.filter fun p => isTag (upper p.1) && upper p.1 == T).map (·.2) := by
  induction ps generalizing tv with
  | nil => simp
  | cons p ps ih =>
    rw [List.foldl_cons, ih, valuesOf_add, List.filter_cons]
    by_cases hp : (isTag (upper p.1) && upper p.1 == T) = true <;> simp [hp]

theorem mem_keys_foldl_add (tv : TagValues) (T : String) :
    T ∈ (ps.foldl (fun tv p => tv.add p.1 p.2) tv).keys ↔
      T ∈ tv.keys ∨ ∃ p ∈ ps, isTag (upper p.1) = true ∧ upper p.1 = T := by
  induction ps generalizing tv with
  | nil => simp
  | cons p ps ih => rw [List.foldl_cons, ih, mem_keys_add, List.exists_mem_cons_iff, or_assoc]

theorem nodup_keys_foldl_add {tv : TagValues} (h : tv.keys.Nodup) :
    (ps.foldl (fun tv p => tv.add p.1 p.2) tv).keys.Nodup := by
  induction ps generalizing tv with
  | nil => exact h
  | cons p ps ih => exact ih (nodup_keys_add _ _ _ h)

theorem notices_foldl_add (tv : TagValues) :
    (ps.foldl (fun tv p => tv.add p.1 p.2) tv).notices =
      tv.notices ++ (ps.filter fun p => !isTag (upper p.1)).map
        fun p => .skippedTag (upper p.1) := by
  induction ps generalizing tv with
  | nil => simp
  | cons p ps ih =>
    rw [List.foldl_cons, ih, notices_add, List.filter_cons]
    by_cases hp : isTag (upper p.1) = true <;> simp [hp]

end Run

end TagValues

/-! ## The values an export adds -/

/-- The role that marks a field's values under a tag: the field's configured role under the
author tags, none under the others. -/
def roleSuffix (ris : RisConfig) (field tag : String) : String :=
  if authorTags.contains tag then ((ris.roleSuffixes.find? (·.1 == field)).map (·.2)).getD ""
  else ""

/-- The tags and values that an export adds after the item's type, in order: each nonblank value
of each configured field, trimmed and marked with its role, under each of the field's tags in
turn; then the record's address as a note. -/
def routedValues (ris : RisConfig) (fields : Fields) (recordUrl : Option String) :
    List (String × String) :=
  (ris.fieldTags.flatMap fun (field, tags) => tags.flatMap fun tag =>
    ((fields.get field).filter fun x => !(trim x).isEmpty).map
      fun x => (tag, trim x ++ roleSuffix ris field tag)) ++
  match recordUrl with
  | some url => if url.isEmpty then [] else [("N1", url)]
  | none => []

/-- The type of an item's format comes first; then the values are added one after another. -/
theorem tagValues_eq_foldl (ris : RisConfig) (fields : Fields) (recordUrl : Option String) :
    tagValues ris fields recordUrl =
      (routedValues ris fields recordUrl).foldl (fun tv p => tv.add p.1 p.2)
        (TagValues.add {} "TY" (((ris.typeCodes.find? (·.1 == firstValue (fields.get "format"))).map
          (·.2)).getD ris.defaultType)) := by
  unfold tagValues routedValues roleSuffix
  simp only [List.foldl_append, List.foldl_flatMap, List.foldl_map, List.foldl_filter]
  -- the fields' values are added alike; the record's address is one more pair or none
  cases recordUrl with
  | none => simp
  | some url => by_cases hu : url.isEmpty = true <;> simp [hu]

section TypeFirst

variable (itemType : String)

@[simp] theorem TagValues.keys_empty : ({} : TagValues).keys = [] := rfl

@[simp] theorem TagValues.valuesOf_empty (T : String) : ({} : TagValues).valuesOf T = [] := rfl

theorem upper_TY : upper "TY" = "TY" := upper_of_isTag (by decide)

theorem keys_typeFirst : (TagValues.add {} "TY" itemType).keys = ["TY"] := by
  simp [TagValues.keys_add, upper_TY, show isTag "TY" = true by decide]

theorem valuesOf_typeFirst (T : String) :
    (TagValues.add {} "TY" itemType).valuesOf T = if "TY" == T then [itemType] else [] := by
  simp [TagValues.valuesOf_add, upper_TY, show isTag "TY" = true by decide]

theorem notices_typeFirst : (TagValues.add {} "TY" itemType).notices = [] := by
  simp [TagValues.notices_add, upper_TY, show isTag "TY" = true by decide]

end TypeFirst

section Export

variable (ris : RisConfig) (fields : Fields) (recordUrl : Option String)

theorem mem_keys_tagValues (T : String) :
    T ∈ (tagValues ris fields recordUrl).keys ↔
      T = "TY" ∨
        ∃ p ∈ routedValues ris fields recordUrl, isTag (upper p.1) = true ∧ upper p.1 = T := by
  rw [tagValues_eq_foldl, TagValues.mem_keys_foldl_add, keys_typeFirst, List.mem_singleton]

theorem nodup_keys_tagValues : (tagValues ris fields recordUrl).keys.Nodup := by
  rw [tagValues_eq_foldl]
  apply TagValues.nodup_keys_foldl_add
  rw [keys_typeFirst]
  exact List.nodup_singleton _

theorem valuesOf_tagValues {T : String} (hT : T ≠ "TY") :
    (tagValues ris fields recordUrl).valuesOf T =
      ((routedValues ris fields recordUrl).filter
        fun p => isTag (upper p.1) && upper p.1 == T).map (·.2) := by
  rw [tagValues_eq_foldl, TagValues.valuesOf_foldl_add, valuesOf_typeFirst]
  simp [Ne.symm hT]

theorem notices_tagValues :
    (tagValues ris fields recordUrl).notices =
      ((routedValues ris fields recordUrl).filter fun p => !isTag (upper p.1)).map
        fun p => .skippedTag (upper p.1) := by
  rw [tagValues_eq_foldl, TagValues.notices_foldl_add, notices_typeFirst, List.nil_append]

end Export

/-! ## The values of a tag, as the configuration gives them -/

/-- The values that a configuration sends to a tag: for each configured field in order and each
time the tag is listed for it, the field's nonblank values, trimmed, followed by the field's role
under the author tags `AU` and `A1`; then, under `N1`, the record's address if there is one. -/
def exportValues (ris : RisConfig) (fields : Fields) (recordUrl : Option String) (tag : String) :
    List String :=
  (ris.fieldTags.flatMap fun (field, tags) =>
    (tags.filter (· == tag)).flatMap fun _ =>
      ((fields.get field).filter fun x => !(trim x).isEmpty).map fun x =>
        trim x ++ if tag = "AU" ∨ tag = "A1" then
          ((ris.roleSuffixes.find? (·.1 == field)).map (·.2)).getD "" else "") ++
  match recordUrl with
  | some url => if tag = "N1" ∧ url ≠ "" then [url] else []
  | none => []

/-- A warning for each nonblank value of a field sent to a tag that is no RIS tag, naming the tag
in upper case, in order. -/
def skippedValues (ris : RisConfig) (fields : Fields) : List Notice :=
  ris.fieldTags.flatMap fun (field, tags) =>
    (tags.filter (!isTag ·)).flatMap fun tag =>
      ((fields.get field).filter fun x => !(trim x).isEmpty).map fun _ => .skippedTag (upper tag)

theorem flatMap_filter_eq {α β : Type} (p : α → Bool) (f : α → List β) :
    ∀ l : List α, (l.filter p).flatMap f = l.flatMap fun a => if p a then f a else []
  | [] => rfl
  | a :: l => by by_cases h : p a <;> simp [h, flatMap_filter_eq p f l]

section Validated

variable {ris : RisConfig}
  (hris : ∀ p ∈ ris.fieldTags, ∀ t ∈ p.2, isTag (upper t) = true → upper t = t)
  (fields : Fields) (recordUrl : Option String)
include hris

/-- The values of a RIS tag are those of the pairs the export adds under it. -/
theorem exportValues_eq_routed {T : String} (hT : isTag T = true) :
    exportValues ris fields recordUrl T =
      ((routedValues ris fields recordUrl).filter
        fun p => isTag (upper p.1) && upper p.1 == T).map (·.2) := by
  unfold exportValues routedValues
  rw [List.filter_append, List.map_append]
  congr 1
  · -- each configured field gives its values under each listing of the tag
    rw [List.filter_flatMap, List.map_flatMap]
    apply List.flatMap_congr
    rintro ⟨field, tags⟩ hp
    dsimp only
    rw [flatMap_filter_eq, List.filter_flatMap, List.map_flatMap]
    apply List.flatMap_congr
    intro tag htag
    rw [List.filter_map, List.map_map]
    simp only [Function.comp_def, tag_matches (hris _ hp tag htag) hT]
    by_cases hmatch : (tag == T) = true
    · have htT : tag = T := by simpa using hmatch
      subst htT
      simp [roleSuffix, authorTags]
    · simp [hmatch]
  · -- the record's address is a note
    have hN1 : upper "N1" = "N1" := upper_of_isTag (by decide)
    cases recordUrl with
    | none => rfl
    | some url =>
      by_cases hu : url = ""
      · simp [hu]
      · by_cases hN : T = "N1"
        · simp [hu, hN, hN1, show isTag "N1" = true by decide]
        · simp [hu, hN, hN1, Ne.symm hN]

theorem skippedValues_eq_routed :
    skippedValues ris fields =
      ((routedValues ris fields recordUrl).filter fun p => !isTag (upper p.1)).map
        fun p => .skippedTag (upper p.1) := by
  unfold skippedValues routedValues
  rw [List.filter_append, List.map_append]
  have hnote : ((match recordUrl with
      | some url => if url.isEmpty then [] else [("N1", url)]
      | none => []).filter fun p : String × String => !isTag (upper p.1)) = [] := by
    have hN1 : upper "N1" = "N1" := upper_of_isTag (by decide)
    cases recordUrl with
    | none => rfl
    | some url =>
      by_cases hu : url.isEmpty = true <;> simp [hu, hN1, show isTag "N1" = true by decide]
  rw [hnote, List.map_nil, List.append_nil, List.filter_flatMap, List.map_flatMap]
  apply List.flatMap_congr
  rintro ⟨field, tags⟩ hp
  dsimp only
  rw [flatMap_filter_eq, List.filter_flatMap, List.map_flatMap]
  apply List.flatMap_congr
  intro tag htag
  rw [List.filter_map, List.map_map]
  simp only [Function.comp_def, isTag_upper_eq (hris _ hp tag htag)]
  by_cases hok : isTag tag = true <;> simp [hok]

end Validated

/-! ## The lines of a record -/

/-- Sorting distinct tags puts them in strictly ascending order. -/
theorem sortTags_pairwise {tags : List String} (h : tags.Nodup) :
    (sortTags tags).Pairwise (· < ·) := by
  have hsorted : (sortTags tags).Pairwise (fun a b => decide (a ≤ b) = true) :=
    List.pairwise_mergeSort
      (fun a b c hab hbc => by
        simpa using String.le_trans (by simpa using hab) (by simpa using hbc))
      (fun a b => by simpa using String.le_total a b) tags
  have hnodup : (sortTags tags).Nodup := List.nodup_mergeSort.mpr h
  exact (hsorted.and hnodup).imp fun ⟨hle, hne⟩ => lt_of_le_of_ne (by simpa using hle) hne

theorem flatMapM_congr {α β ε : Type} {f g : α → Except ε (List β)} :
    ∀ {l : List α}, (∀ a ∈ l, f a = g a) → l.flatMapM f = l.flatMapM g
  | [], _ => rfl
  | a :: l, h => by
    rw [List.flatMapM_cons, List.flatMapM_cons, h a List.mem_cons_self,
      flatMapM_congr fun b hb => h b (List.mem_cons_of_mem a hb)]

end Citations.Style.Ris

namespace Citations

open Citations.Text Citations.Style.Ris

theorem RisConfig.tagForm_of_check {loc : List String} {v : Value} {p : String × List String}
    (hp : p ∈ (RisConfig.check loc v).value.fieldTags) : ∀ t ∈ p.2, ∃ s, t = tagForm s := by
  unfold RisConfig.check at hp
  split at hp
  · obtain ⟨⟨field, tags⟩, -, rfl⟩ := List.mem_map.mp hp
    intro t ht
    obtain ⟨s, -, rfl⟩ := List.mem_map.mp ht
    exact ⟨s, rfl⟩
  · simp [Checked.fail] at hp

theorem RisConfig.tagForm_of_optional {loc : List String} {es : List (String × Value)}
    {p : String × List String}
    (hp : p ∈ (Checked.optional es "ris" {} (RisConfig.check loc)).value.fieldTags) :
    ∀ t ∈ p.2, ∃ s, t = tagForm s := by
  unfold Checked.optional at hp
  split at hp
  · exact RisConfig.tagForm_of_check hp
  · simp at hp

/-- A configuration that validation accepted lists each RIS tag trimmed and in upper case. -/
theorem ServiceConfig.tagForm_of_ofValue {data : Value} {config : ServiceConfig}
    (h : ServiceConfig.ofValue data = .ok config) :
    ∀ p ∈ config.ris.fieldTags, ∀ t ∈ p.2, ∃ s, t = tagForm s := by
  unfold ServiceConfig.ofValue at h
  split at h
  · dsimp only at h
    split_ifs at h
    cases h
    intro p hp
    exact RisConfig.tagForm_of_optional hp
  · cases h

theorem upper_tag_of_ofValue {data : Value} {config : ServiceConfig}
    (h : ServiceConfig.ofValue data = .ok config) :
    ∀ p ∈ config.ris.fieldTags, ∀ t ∈ p.2, isTag (upper t) = true → upper t = t := by
  intro p hp t ht htag
  obtain ⟨s, rfl⟩ := ServiceConfig.tagForm_of_ofValue h p hp t ht
  exact upper_upper_of_isTag htag

/-- **A RIS export loses and repeats no value.** For a configuration that validation accepts,
the export has a line of values for exactly the RIS tags other than `TY` and `ER` to which the
configuration sends values, in ascending order; each tag's values are those sent to it, in the
order of the configured fields and of their values, merged and cleaned as the tag's rule says.
The export warns once for each nonblank value sent to a tag that is no RIS tag. -/
theorem ris_export_values (read : MarkupReader) (data : Value) (config : ServiceConfig)
    (hconfig : ServiceConfig.ofValue data = .ok config) (fields : Fields)
    (recordUrl : Option String) :
    let values := exportValues config.ris fields recordUrl
    let itemType := ((config.ris.typeCodes.find? (·.1 == firstValue (fields.get "format"))).map
      (·.2)).getD config.ris.defaultType
    let exported := CitationStyle.ris.contents read config fields recordUrl
    ∃ tags : List String, tags.Pairwise (· < ·) ∧
      (∀ T, T ∈ tags ↔ isTag T = true ∧ T ≠ "TY" ∧ T ≠ "ER" ∧ values T ≠ []) ∧
      exported.result = (do
        let lines ← tags.flatMapM fun T =>
          (mergeValues T (values T)).mapM fun v => do return line T (← cleanValue read T v)
        return line "TY" itemType ++ String.join lines ++ line "ER" "") ∧
      exported.notices = skippedValues config.ris fields := by
  intro values itemType exported
  have hris := upper_tag_of_ofValue hconfig
  set tv := tagValues config.ris fields recordUrl with htv
  set tags := sortTags (tv.keys.filter fun t => t != "TY" && t != "ER") with htags
  -- the tags written are the RIS tags other than `TY` and `ER` that have values
  have hmem : ∀ T, T ∈ tags ↔ isTag T = true ∧ T ≠ "TY" ∧ T ≠ "ER" ∧ values T ≠ [] := by
    intro T
    have hkey := mem_keys_tagValues config.ris fields recordUrl T
    simp only [htags, sortTags, List.mem_mergeSort, List.mem_filter, Bool.and_eq_true,
      bne_iff_ne, ne_eq]
    constructor
    · rintro ⟨hT, hTY, hER⟩
      obtain rfl | ⟨p, hp, hpT, rfl⟩ := hkey.mp hT
      · exact absurd rfl hTY
      · refine ⟨hpT, hTY, hER, ?_⟩
        show exportValues config.ris fields recordUrl _ ≠ []
        rw [exportValues_eq_routed hris fields recordUrl hpT]
        exact List.ne_nil_of_mem (List.mem_map_of_mem (List.mem_filter.mpr ⟨hp, by simp [hpT]⟩))
    · rintro ⟨hT, hTY, hER, hne⟩
      change exportValues config.ris fields recordUrl T ≠ [] at hne
      rw [exportValues_eq_routed hris fields recordUrl hT] at hne
      obtain ⟨v, hv⟩ := List.exists_mem_of_ne_nil _ hne
      obtain ⟨p, hp, -⟩ := List.mem_map.mp hv
      obtain ⟨hp, hpT⟩ := List.mem_filter.mp hp
      simp only [Bool.and_eq_true, beq_iff_eq] at hpT
      exact ⟨hkey.mpr (.inr ⟨p, hp, hpT⟩), hTY, hER⟩
  -- and each has the values sent to it
  have hvalues : ∀ T ∈ tags, tv.valuesOf T = values T := by
    intro T hT
    obtain ⟨hT, hTY, -, -⟩ := (hmem T).mp hT
    show _ = exportValues config.ris fields recordUrl T
    rw [valuesOf_tagValues _ _ _ hTY, exportValues_eq_routed hris fields recordUrl hT]
  refine ⟨tags, sortTags_pairwise ((nodup_keys_tagValues _ _ _).filter _), hmem, ?_, ?_⟩
  · -- the record: the type line, the lines of the sorted tags, the closing line
    obtain ⟨-, rest, more, hfirst⟩ := tagValues_wellFormed config.ris fields recordUrl
    have htype : (((tv.tags.find? (·.1 == "TY")).map (·.2)).getD ["GEN"]).headD "" = itemType := by
      rw [hfirst]
      simp [itemType]
    show record read tv.tags = _
    unfold record
    dsimp only
    rw [htype]
    show (do
      let lines ← tags.flatMapM fun T =>
        (mergeValues T (tv.valuesOf T)).mapM fun v => do return line T (← cleanValue read T v)
      return line "TY" itemType ++ String.join lines ++ line "ER" "") = _
    rw [flatMapM_congr fun T hT => by rw [hvalues T hT]]
  · show tv.notices = _
    rw [notices_tagValues, skippedValues_eq_routed hris fields recordUrl]

theorem exists_ok_of_isOk {ε α : Type} {x : Except ε α} {P : α → Prop} (hok : x.isOk = true)
    (hP : ∀ a, x = .ok a → P a) : ∃ a, x = .ok a ∧ P a := by
  cases x with
  | error e => cases hok
  | ok a => exact ⟨a, rfl, hP a rfl⟩

/-- A configuration written in lower case and with blanks, which validation puts right: authors
go to `au`, editors to `AU` and ` kw `, a note to `n 1`. -/
theorem ris_export_values_lower_case :
    ∃ config, ServiceConfig.ofValue (.dict [("formats", .dict []), ("ris", .dict [
        ("field_tags", .dict [("author", .list [.str "au"]),
          ("editor", .list [.str "AU", .str " kw "]), ("note", .list [.str "n 1"])]),
        ("role_suffixes", .dict [("editor", .str ", editor")])])]) = .ok config ∧
      let fields : Fields := ⟨[("author", ["Doe, Jane"]), ("editor", ["Roe, Rita", " "]),
        ("note", ["draft"])]⟩
      let values := exportValues config.ris fields (some "https://example.org/1")
      let itemType := ((config.ris.typeCodes.find? (·.1 == firstValue (fields.get "format"))).map
        (·.2)).getD config.ris.defaultType
      let exported :=
        CitationStyle.ris.contents Markup.plainText config fields (some "https://example.org/1")
      ∃ tags : List String, tags.Pairwise (· < ·) ∧
        (∀ T, T ∈ tags ↔ isTag T = true ∧ T ≠ "TY" ∧ T ≠ "ER" ∧ values T ≠ []) ∧
        exported.result = (do
          let lines ← tags.flatMapM fun T =>
            (mergeValues T (values T)).mapM fun v =>
              do return line T (← cleanValue Markup.plainText T v)
          return line "TY" itemType ++ String.join lines ++ line "ER" "") ∧
        exported.notices = skippedValues config.ris fields := by
  refine exists_ok_of_isOk (by decide +kernel) fun config h => ?_
  exact ris_export_values Markup.plainText _ config h
    ⟨[("author", ["Doe, Jane"]), ("editor", ["Roe, Rita", " "]), ("note", ["draft"])]⟩
    (some "https://example.org/1")

end Citations
