import Citations.Proofs.Names
import Citations.Proofs.Titles

/-!
# Reading order only reorders a name

`readingOrder` puts the surname of a catalog heading after the given names and keeps the
suffixes at the end. It writes no word of its own and drops none: the words of its result, the
runs of characters that are neither blank nor a comma (`nameWords`), are those of the name in
another order (`readingOrder_words_perm`). A name with no comma and no parenthesis is already in
reading order, and comes back with its blanks made single spaces (`readingOrder_of_plain`). The
main statement is `readingOrder_reorders`.

Both rest on the runs of a text between breaks (`runsOf`), cut by `List.splitOnP`:
* a break joins nothing: the runs of `a ++ c :: b` are those of `a` and then of `b`
  (`runsOf_append_break`), so runs pass through joins with blanks and commas
  (`runsOf_intercalate`) and through trimming (`runsOf_trimChars`);
* the words of a text are its runs between blanks (`wordsOf_eq_runsOf`);
* the words of a name are those of its comma parts, in order (`nameWords_eq_flatMap_nameParts`).
-/

namespace Citations.Text

open Citations.Unicode

/-! ## Runs between breaks -/

section Runs

variable {p : Char → Bool}

/-- The maximal runs of a text that hold no break, a character of `p`. -/
def runsOf (p : Char → Bool) (cs : List Char) : List (List Char) :=
  (cs.splitOnP p).filter (· ≠ [])

@[simp] theorem runsOf_nil : runsOf p [] = [] := by simp [runsOf]

/-- A break joins nothing: everything about runs follows from this equation. -/
theorem runsOf_append_break {c : Char} (hc : p c = true) (a b : List Char) :
    runsOf p (a ++ c :: b) = runsOf p a ++ runsOf p b := by
  rw [runsOf, List.splitOnP_append_cons a b hc, List.filter_append]
  rfl

theorem runsOf_cons_break {c : Char} (hc : p c = true) (b : List Char) :
    runsOf p (c :: b) = runsOf p b := by
  simpa using runsOf_append_break hc [] b

theorem runsOf_breaks_append {s : List Char} (hs : ∀ c ∈ s, p c = true) (b : List Char) :
    runsOf p (s ++ b) = runsOf p b := by
  induction s with
  | nil => rfl
  | cons c s ih =>
    rw [List.cons_append, runsOf_cons_break (hs c List.mem_cons_self)]
    exact ih fun d hd => hs d (List.mem_cons_of_mem c hd)

theorem runsOf_eq_nil {s : List Char} (hs : ∀ c ∈ s, p c = true) : runsOf p s = [] := by
  simpa using runsOf_breaks_append hs []

theorem runsOf_append_breaks {s : List Char} (hs : ∀ c ∈ s, p c = true) (a : List Char) :
    runsOf p (a ++ s) = runsOf p a := by
  cases s with
  | nil => simp
  | cons c s =>
    rw [runsOf_append_break (hs c List.mem_cons_self),
      runsOf_eq_nil (fun d hd => hs d (List.mem_cons_of_mem c hd)), List.append_nil]

theorem runsOf_append_sep {s : List Char} (hs : ∀ c ∈ s, p c = true) (hne : s ≠ [])
    (a b : List Char) : runsOf p (a ++ s ++ b) = runsOf p a ++ runsOf p b := by
  obtain ⟨c, s, rfl⟩ := List.exists_cons_of_ne_nil hne
  rw [List.append_assoc, List.cons_append, runsOf_append_break (hs c List.mem_cons_self),
    runsOf_breaks_append (fun d hd => hs d (List.mem_cons_of_mem c hd))]

theorem runsOf_intercalate {s : List Char} (hs : ∀ c ∈ s, p c = true) (hne : s ≠ []) :
    ∀ xs : List (List Char), runsOf p (s.intercalate xs) = xs.flatMap (runsOf p)
  | [] => by simp
  | [x] => by simp
  | x :: y :: xs => by
    rw [List.intercalate_cons_cons, runsOf_append_sep hs hne, runsOf_intercalate hs hne (y :: xs)]
    simp

theorem runsOf_of_no_break {w : List Char} (hne : w ≠ []) (h : ∀ c ∈ w, p c = false) :
    runsOf p w = [w] := by
  rw [runsOf, List.splitOnP_eq_singleton h]
  simp [hne]

/-- Trimming takes only blanks, so it keeps the runs between breaks that include the blanks. -/
theorem runsOf_trimChars (hp : ∀ c, isBlank c = true → p c = true) (cs : List Char) :
    runsOf p (trimChars cs) = runsOf p cs := by
  have hleft : runsOf p (cs.dropWhile isBlank) = runsOf p cs := by
    conv_rhs => rw [← List.takeWhile_append_dropWhile (p := isBlank) (l := cs)]
    exact (runsOf_breaks_append (fun c hc => hp c (List.mem_takeWhile_imp hc)) _).symm
  rw [trimChars, trimRightChars_eq_rdropWhile, ← hleft]
  conv_rhs => rw [← List.rdropWhile_append_rtakeWhile (p := isBlank) (l := cs.dropWhile isBlank)]
  exact (runsOf_append_breaks (fun c hc => hp c (List.mem_rtakeWhile_imp hc)) _).symm

theorem splitOnP_congr {q : Char → Bool} :
    ∀ {cs : List Char}, (∀ c ∈ cs, p c = q c) → cs.splitOnP p = cs.splitOnP q
  | [], _ => rfl
  | c :: cs, h => by
    rw [List.splitOnP_cons_eq_if_modifyHead, List.splitOnP_cons_eq_if_modifyHead,
      h c List.mem_cons_self, splitOnP_congr fun d hd => h d (List.mem_cons_of_mem c hd)]

theorem runsOf_congr {q : Char → Bool} {cs : List Char} (h : ∀ c ∈ cs, p c = q c) :
    runsOf p cs = runsOf q cs := by
  rw [runsOf, runsOf, splitOnP_congr h]

theorem mem_of_mem_splitOnP :
    ∀ {cs w : List Char}, w ∈ cs.splitOnP p → ∀ c ∈ w, c ∈ cs ∧ p c = false
  | [], w, hw => by simp at hw; simp [hw]
  | d :: cs, w, hw => by
    rw [List.splitOnP_cons_eq_if_modifyHead] at hw
    -- a break starts a new piece; any other character goes to the front of the first one
    split at hw
    · rcases List.mem_cons.mp hw with rfl | hw
      · simp
      · exact fun c hc => (mem_of_mem_splitOnP hw c hc).imp_left (List.mem_cons_of_mem d)
    · rename_i hd
      obtain ⟨v, vs, hv⟩ := List.exists_cons_of_ne_nil (List.splitOnP_ne_nil p cs)
      rw [hv, List.modifyHead_cons] at hw
      rcases List.mem_cons.mp hw with rfl | hw
      · intro c hc
        rcases List.mem_cons.mp hc with rfl | hc
        · exact ⟨List.mem_cons_self, by simpa using hd⟩
        · exact (mem_of_mem_splitOnP (hv ▸ List.mem_cons_self) c hc).imp_left
            (List.mem_cons_of_mem d)
      · exact fun c hc => (mem_of_mem_splitOnP (hv ▸ List.mem_cons_of_mem _ hw) c hc).imp_left
          (List.mem_cons_of_mem d)

theorem mem_runsOf {w cs : List Char} (h : w ∈ runsOf p cs) : w ≠ [] ∧ ∀ c ∈ w, p c = false := by
  rw [runsOf, List.mem_filter] at h
  exact ⟨by simpa using h.2, fun c hc => (mem_of_mem_splitOnP h.1 c hc).2⟩

theorem runsOf_cons_of_head_break {c : Char} (hc : p c = false) {cs : List Char}
    (h : cs.head?.all p = true) : runsOf p (c :: cs) = [c] :: runsOf p cs := by
  cases cs with
  | nil => simp [runsOf, List.splitOnP_cons_eq_if_modifyHead, hc]
  | cons d rest =>
    have hd : p d = true := by simpa using h
    rw [runsOf_cons_break hd]
    simp [runsOf, List.splitOnP_cons_eq_if_modifyHead, hc, hd]

theorem runsOf_cons_cons {c d : Char} (hc : p c = false) (hd : p d = false) (rest : List Char) :
    ∃ w ws, runsOf p (d :: rest) = (d :: w) :: ws ∧
      runsOf p (c :: d :: rest) = (c :: d :: w) :: ws := by
  obtain ⟨w, ws, hsplit⟩ := List.exists_cons_of_ne_nil (List.splitOnP_ne_nil p rest)
  refine ⟨w, ws.filter (· ≠ []), ?_, ?_⟩ <;>
    simp [runsOf, List.splitOnP_cons_eq_if_modifyHead, hc, hd, hsplit]

end Runs

/-- The words of a text are its runs between blanks. -/
theorem wordsOf_eq_runsOf (cs : List Char) : wordsOf cs = runsOf isBlank cs := by
  induction cs with
  | nil => simp [wordsOf]
  | cons c cs ih =>
    by_cases hc : isBlank c = true
    · rw [wordsOf_cons_of_blank hc, runsOf_cons_break hc, ih]
    have hc : isBlank c = false := by simpa using hc
    rw [wordsOf_cons_of_not_blank hc, ih]
    -- the first character of the rest decides whether `c` starts a word or joins one
    cases cs with
    | nil =>
      have hnil : ([] : List Char).head?.all isBlank = true := rfl
      simp [runsOf_cons_of_head_break (p := isBlank) hc hnil]
    | cons d rest =>
      by_cases hd : isBlank d = true
      · rw [runsOf_cons_of_head_break hc (by simpa using hd)]
        cases runsOf isBlank (d :: rest) <;> simp [hd]
      · have hd : isBlank d = false := by simpa using hd
        obtain ⟨w, ws, hrest, hcons⟩ := runsOf_cons_cons hc hd rest
        simp [hrest, hcons, hd]

theorem words_eq_runsOf (s : String) : words s = (runsOf isBlank s.toList).map String.ofList := by
  rw [words, wordsOf_eq_runsOf]

@[simp] theorem words_trim (s : String) : words (trim s) = words s := by
  simp [words_eq_runsOf, runsOf_trimChars (p := isBlank) (fun _ h => h)]

/-! ## The words of a name -/

/-- A character that ends a word of a name: a blank or a comma. -/
def isNameBreak (c : Char) : Bool := isBlank c || c == ','

/-- The words of a name: the runs of characters that are neither blank nor a comma. -/
def nameWords (s : String) : List String := (runsOf isNameBreak s.toList).map String.ofList

@[simp] theorem nameWords_empty : nameWords "" = [] := by simp [nameWords]

theorem isNameBreak_of_blank {c : Char} (h : isBlank c = true) : isNameBreak c = true := by
  simp [isNameBreak, h]

@[simp] theorem nameWords_trim (s : String) : nameWords (trim s) = nameWords s := by
  simp [nameWords, runsOf_trimChars (fun _ => isNameBreak_of_blank)]

theorem nameWords_append_sep {sep : String} (hs : ∀ c ∈ sep.toList, isNameBreak c = true)
    (hne : sep ≠ "") (a b : String) :
    nameWords (a ++ sep ++ b) = nameWords a ++ nameWords b := by
  simp only [nameWords, String.toList_append]
  rw [runsOf_append_sep hs (by simpa using hne), List.map_append]

theorem space_breaks : ∀ c ∈ " ".toList, isNameBreak c = true := by
  simp [isNameBreak]
  decide

theorem comma_space_breaks : ∀ c ∈ ", ".toList, isNameBreak c = true := by
  simp [isNameBreak]
  decide

theorem nameWords_append_space (a b : String) :
    nameWords (a ++ " " ++ b) = nameWords a ++ nameWords b :=
  nameWords_append_sep space_breaks (by simp) a b

theorem nameWords_append_comma (a b : String) :
    nameWords (a ++ ", " ++ b) = nameWords a ++ nameWords b :=
  nameWords_append_sep comma_space_breaks (by simp) a b

theorem nameWords_intercalate {sep : String} (hs : ∀ c ∈ sep.toList, isNameBreak c = true)
    (hne : sep ≠ "") (xs : List String) :
    nameWords (sep.intercalate xs) = xs.flatMap nameWords := by
  simp only [nameWords, String.toList_intercalate]
  rw [runsOf_intercalate hs (by simpa using hne), List.map_flatMap, List.flatMap_map]
  rfl

theorem nameWords_eq_words {s : String} (h : ',' ∉ s.toList) : nameWords s = words s := by
  rw [nameWords, words_eq_runsOf, runsOf_congr]
  intro c hc
  have hcomma : c ≠ ',' := fun heq => h (heq ▸ hc)
  simp [isNameBreak, hcomma]

theorem flatMap_nameWords_words {s : String} (h : ',' ∉ s.toList) :
    (words s).flatMap nameWords = nameWords s := by
  have hone : ∀ w ∈ words s, nameWords w = [w] := by
    intro w hw
    rw [← nameWords_eq_words h, nameWords, List.mem_map] at hw
    obtain ⟨cs, hcs, rfl⟩ := hw
    obtain ⟨hne, hbreak⟩ := mem_runsOf hcs
    simp [nameWords, runsOf_of_no_break hne hbreak]
  rw [List.flatMap_congr hone, List.flatMap_singleton', nameWords_eq_words h]

/-! ## The parts of a name -/

theorem nameParts_eq (name : String) :
    nameParts name = ((name.toList.splitOn ',').map (trim ∘ String.ofList)).filter (· ≠ "") := by
  have hsep : ",".toList = [','] := by simp
  rw [nameParts, splitOn, hsep, splitList_single, List.map_map]

theorem comma_not_mem_of_mem_nameParts {name part : String} (h : part ∈ nameParts name) :
    ',' ∉ part.toList := by
  rw [nameParts_eq, List.mem_filter, List.mem_map] at h
  obtain ⟨⟨piece, hpiece, rfl⟩, -⟩ := h
  intro hmem
  rw [Function.comp_apply, toList_trim, String.toList_ofList] at hmem
  exact (mem_splitOn_iff.mp ⟨piece, hpiece, (trimChars_isInfix piece).subset hmem⟩).2 rfl

/-- The words of a name are those of its comma parts, in order. -/
theorem nameWords_eq_flatMap_nameParts (name : String) :
    nameWords name = (nameParts name).flatMap nameWords := by
  -- a part that trims to nothing has no words, so dropping it drops none
  have hdrop : ∀ l : List String, (l.filter (· ≠ "")).flatMap nameWords = l.flatMap nameWords := by
    intro l
    induction l with
    | nil => rfl
    | cons x l ih =>
      rw [List.filter_cons]
      split
      · rw [List.flatMap_cons, List.flatMap_cons, ih]
      · rename_i hx
        have hx : x = "" := by simpa using hx
        rw [ih, List.flatMap_cons, hx, nameWords_empty, List.nil_append]
  have hjoin : runsOf isNameBreak name.toList =
      (name.toList.splitOn ',').flatMap (runsOf isNameBreak) := by
    have hsplit : [','].intercalate (name.toList.splitOn ',') = name.toList :=
      List.intercalate_splitOn ','
    conv_lhs => rw [← hsplit]
    exact runsOf_intercalate (by simp [isNameBreak]) (by simp) _
  rw [nameParts_eq, hdrop, List.flatMap_map, nameWords, hjoin, List.map_flatMap]
  simp [nameWords, runsOf_trimChars (fun _ => isNameBreak_of_blank)]

/-! ## Reading order -/

/-- The given names and surname of a name in reading order are its words before and after one
cut. -/
theorem splitName_eq (s : String) :
    ∃ k, splitName s =
      (" ".intercalate ((words s).take k), " ".intercalate ((words s).drop k)) := by
  unfold splitName
  dsimp only
  split
  · rename_i h
    exact ⟨0, by simp [h]⟩
  · exact ⟨_, rfl⟩

theorem nameWords_finish (joined : String) (suffixes : List String) :
    nameWords (readingOrder.finish joined suffixes) =
      nameWords joined ++ suffixes.flatMap nameWords := by
  unfold readingOrder.finish
  split
  · rename_i h
    simp at h
    simp [h]
  · rw [nameWords_append_comma, nameWords_trim, nameWords_intercalate comma_space_breaks (by simp)]

/-- **Reading order writes the words of a name in another order**, and no other word. -/
theorem readingOrder_words_perm {name r : String} (h : readingOrder name = some r) :
    (nameWords r).Perm (nameWords name) := by
  rw [← nameWords_trim name]
  simp only [readingOrder] at h
  split at h
  · cases h
    exact List.Perm.refl _
  -- the parts are the core, surname first, and the suffixes peeled from the end
  rw [nameWords_eq_flatMap_nameParts (trim name),
    ← List.take_append_drop (coreLength (nameParts (trim name))) (nameParts (trim name)),
    List.flatMap_append]
  split at h
  · cases h
  · rename_i only hcore
    obtain ⟨k, hk⟩ := splitName_eq only
    have hmem : only ∈ nameParts (trim name) := by
      apply List.mem_of_mem_take (i := coreLength (nameParts (trim name)))
      rw [hcore]
      exact List.mem_singleton_self only
    have hcomma : ',' ∉ only.toList := comma_not_mem_of_mem_nameParts hmem
    rw [hk] at h
    obtain rfl := Option.some.inj h
    rw [nameWords_finish, hcore, nameWords_append_space,
      nameWords_intercalate space_breaks (by simp), nameWords_intercalate space_breaks (by simp),
      ← List.flatMap_append, List.take_append_drop, flatMap_nameWords_words hcomma]
    simp
  · rename_i surname given _ hcore
    obtain rfl := Option.some.inj h
    rw [nameWords_finish, hcore, nameWords_append_space,
      nameWords_intercalate comma_space_breaks (by simp), List.flatMap_cons]
    exact List.perm_append_comm.append_right _

/-! ## Names already in reading order -/

theorem trimChars_eq_self_of_ends {l : List Char} (hhead : ∀ c ∈ l.head?, isBlank c = false)
    (hlast : ∀ c ∈ l.getLast?, isBlank c = false) : trimChars l = l := by
  apply trimChars_eq_self
  · cases l with
    | nil => rfl
    | cons c t => simp [hhead c rfl]
  · rcases List.eq_nil_or_concat l with rfl | ⟨init, d, rfl⟩
    · rfl
    · rw [List.concat_eq_append] at hlast ⊢
      exact List.rdropWhile_concat_neg _ _ _ (by simp [hlast d (by simp)])

theorem trimChars_cons_blank {b : Char} (hb : isBlank b = true) (cs : List Char) :
    trimChars (b :: cs) = trimChars cs := by
  simp [trimChars, hb]

theorem trimChars_concat_blank {b : Char} (hb : isBlank b = true) (cs : List Char) :
    trimChars (cs ++ [b]) = trimChars cs := by
  rw [trimChars, trimChars, trimRightChars_eq_rdropWhile, trimRightChars_eq_rdropWhile,
    List.dropWhile_append]
  split
  · rename_i hall
    rw [List.isEmpty_iff.mp hall]
    simp [hb]
  · exact List.rdropWhile_concat_pos _ _ _ hb

theorem trim_intercalate_words {ws : List String} (h : ∀ w ∈ ws, IsWord w) :
    trim (" ".intercalate ws) = " ".intercalate ws := by
  rcases List.eq_nil_or_concat ws with rfl | ⟨init, z, rfl⟩
  · simp [trim, trimChars, trimRightChars]
  rw [List.concat_eq_append] at h ⊢
  obtain ⟨w, rest, hws⟩ := List.exists_cons_of_ne_nil (show init ++ [z] ≠ [] by simp)
  have hw := h w (by simp [hws])
  have hz := h z (by simp)
  have hwne : w.toList ≠ [] := by simpa using hw.1
  have hzne : z.toList ≠ [] := by simpa using hz.1
  have hhead : (" ".intercalate (init ++ [z])).toList.head? = w.toList.head? := by
    rw [hws]
    cases rest with
    | nil => simp
    | cons v rest =>
      rw [String.intercalate_cons_cons, String.toList_append, String.toList_append,
        List.append_assoc, List.head?_append_of_ne_nil _ hwne]
  have hlast : (" ".intercalate (init ++ [z])).toList.getLast? = z.toList.getLast? := by
    rcases List.eq_nil_or_concat init with rfl | ⟨_, _, rfl⟩
    · simp
    · rw [List.concat_eq_append, String.intercalate_append_of_ne_nil (by simp) (by simp),
        String.toList_append, List.getLast?_append_of_ne_nil _ (by simpa using hzne)]
      simp
  rw [trim, trimChars_eq_self_of_ends, String.ofList_toList]
  · rw [hhead]
    intro c hc
    exact hw.2 c (List.mem_of_mem_head? hc)
  · rw [hlast]
    intro c hc
    exact hz.2 c (List.mem_of_mem_getLast? hc)

theorem trim_join_cut {ws : List String} (h : ∀ w ∈ ws, IsWord w) (k : Nat) :
    trim (" ".intercalate (ws.take k) ++ " " ++ " ".intercalate (ws.drop k)) =
      " ".intercalate ws := by
  have hspace : isBlank ' ' = true := by decide
  by_cases hfront : ws.take k = []
  · have hdrop : ws.drop k = ws := by
      rcases List.take_eq_nil_iff.mp hfront with rfl | rfl <;> simp
    rw [hfront, hdrop]
    conv_rhs => rw [← trim_intercalate_words h]
    simp [trim, trimChars_cons_blank hspace]
  by_cases hback : ws.drop k = []
  · have htake : ws.take k = ws := by
      rw [List.drop_eq_nil_iff] at hback
      exact List.take_of_length_le hback
    rw [hback, htake]
    conv_rhs => rw [← trim_intercalate_words h]
    simp [trim, trimChars_concat_blank hspace]
  · rw [← String.intercalate_append_of_ne_nil hfront hback, List.take_append_drop,
      trim_intercalate_words h]

/-- **A name without a comma or a parenthesis is in reading order already**: it comes back with
its blanks made single spaces. -/
theorem readingOrder_of_plain {name : String} (hcomma : ',' ∉ name.toList)
    (hcorp : isCorporate name = false) :
    readingOrder name = some (" ".intercalate (words name)) := by
  have hsub : ∀ c ∈ (trim name).toList, c ∈ name.toList := fun c hc =>
    (trimChars_isInfix _).subset (by simpa using hc)
  have hcomma' : ',' ∉ (trim name).toList := fun h => hcomma (hsub ',' h)
  have hcorp' : isCorporate (trim name) = false := by
    simp only [isCorporate, Bool.or_eq_false_iff, List.contains_eq_mem, decide_eq_false_iff_not]
      at hcorp ⊢
    exact ⟨fun h => hcorp.1 (hsub _ h), fun h => hcorp.2 (hsub _ h)⟩
  simp only [readingOrder]
  by_cases hempty : (trim name).isEmpty = true
  · rw [if_pos (by simp [hempty])]
    have htrim : trim name = "" := by simpa using hempty
    rw [← words_trim, htrim]
    simp [words, wordsOf]
  rw [if_neg (by simp [hcorp', hempty])]
  -- one part, the whole name, and no suffixes
  have hparts : nameParts (trim name) = [trim name] := by
    have hne : trim name ≠ "" := by simpa using hempty
    rw [nameParts_eq, List.splitOn_eq_singleton hcomma']
    simp only [List.map_cons, List.map_nil, Function.comp_apply, String.ofList_toList, trim_trim]
    simp [hne]
  have hcore : coreLength [trim name] = 1 := rfl
  obtain ⟨k, hk⟩ := splitName_eq (trim name)
  simp only [hparts, hcore, List.take_one, List.drop_one, List.head?_cons, Option.toList_some,
    List.tail_cons, hk, readingOrder.finish, List.isEmpty_nil, if_true, words_trim]
  exact congrArg some (trim_join_cut (fun w hw => isWord_of_mem_words hw) k)

/-- **Reading order only reorders a name.** A name with a character that is neither blank nor
a comma has a reading order; its words, the runs of characters that are neither blank nor a
comma, are those of the name in another order; and a name with no comma and no parenthesis
comes back as its blank-separated words joined by single spaces. -/
theorem readingOrder_reorders {name : String}
    (h : ∃ c ∈ name.toList, c ≠ ',' ∧ isBlank c = false) :
    ∃ r, readingOrder name = some r ∧ (nameWords r).Perm (nameWords name) ∧
      (',' ∉ name.toList → '(' ∉ name.toList → ')' ∉ name.toList →
        r = " ".intercalate (words name)) := by
  obtain ⟨c, hc, hcomma, hblank⟩ := h
  have hsome : readingOrder name ≠ none := by
    rw [Ne, readingOrder_eq_none_iff]
    rintro ⟨-, hall⟩
    rcases hall c hc with h | h
    · exact hcomma h
    · simp [hblank] at h
  obtain ⟨r, hr⟩ := Option.ne_none_iff_exists'.mp hsome
  refine ⟨r, hr, readingOrder_words_perm hr, fun hcomma hopen hclose => ?_⟩
  rw [readingOrder_of_plain hcomma (by simp [isCorporate, hopen, hclose])] at hr
  exact (Option.some.inj hr).symm

theorem readingOrder_reorders_croix :
    (∃ c ∈ "Croix, Jean de la".toList, c ≠ ',' ∧ isBlank c = false) ∧
      ∃ r, readingOrder "Croix, Jean de la" = some r ∧
        (nameWords r).Perm (nameWords "Croix, Jean de la") ∧
        (',' ∉ "Croix, Jean de la".toList → '(' ∉ "Croix, Jean de la".toList →
          ')' ∉ "Croix, Jean de la".toList → r = " ".intercalate (words "Croix, Jean de la")) := by
  have h : ∃ c ∈ "Croix, Jean de la".toList, c ≠ ',' ∧ isBlank c = false :=
    ⟨'C', by simp, by decide, by decide⟩
  exact ⟨h, readingOrder_reorders h⟩

end Citations.Text
