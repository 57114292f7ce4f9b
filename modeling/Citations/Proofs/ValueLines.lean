import Citations.Proofs.Record

/-!
# The lines of a cleaned RIS value

`cleanValue` cuts a value into lines at each line feed (a literal backslash and `n` first
becomes one), sanitizes each line, drops the lines left empty, writes `*` as `#` in titles and
similar fields, cuts names and keywords to the longest value, and joins the lines with CR-LF.

* Whatever the value, every line kept is nonempty, has no `*` in the fields that forbid it, and
  fits in a name or keyword (`cleanValue_lines_shape`).
* A clean line (`CleanLine`) also holds no line break and none of the typographic characters of
  the character map. That holds when no line is read as markup (`markupOpeners`) and the value
  has no carriage return (`cleanValue_clean_of_plain`); `cleanValue_lines` states both.
* It does not hold in general. The character map runs before the markup reader, so a reader
  that decodes a reference such as `&#8226;` hands back the bullet that the map replaces
  (`cleanValue_of_reads_bullet`, `cleanValue_decoded_bullet`); and only line feeds cut lines, so
  a carriage return stays.

The proofs go through `replace`: every character it writes is one of the text's or of the
replacement's (`mem_replace`), and a single character replaced leaves no copy of itself
(`not_mem_replace_single`). So the character map, applied entry after entry, leaves none of its
typographic characters, and brings in replacements only for characters that were there
(`mem_foldl_replace`).
-/

namespace Citations.Style.Ris

open Citations.Text

/-! ## Replacing text -/

theorem mem_intercalate {d : Char} {sep : List Char} :
    ∀ {ls : List (List Char)}, d ∈ sep.intercalate ls → d ∈ sep ∨ ∃ l ∈ ls, d ∈ l
  | [], h => by simp at h
  | [l], h => .inr ⟨l, by simp, by simpa using h⟩
  | l :: l' :: ls, h => by
    rw [List.intercalate_cons_cons, List.mem_append, List.mem_append] at h
    rcases h with (h | h) | h
    · exact .inr ⟨l, List.mem_cons_self, h⟩
    · exact .inl h
    · rcases mem_intercalate h with h | ⟨m, hm, h⟩
      · exact .inl h
      · exact .inr ⟨m, List.mem_cons_of_mem l hm, h⟩

theorem mem_of_mem_splitList_go {sep : List Char} {d : Char} :
    ∀ (fuel : Nat) (rest acc : List Char) (piece : List Char),
      piece ∈ splitList.go sep rest acc fuel → d ∈ piece → d ∈ rest ∨ d ∈ acc
  | 0, rest, acc, piece, hp, hd => by
    simp only [splitList.go, List.mem_singleton] at hp
    subst hp
    rcases List.mem_append.mp hd with h | h
    · exact .inr (List.mem_reverse.mp h)
    · exact .inl h
  | fuel + 1, rest, acc, piece, hp, hd => by
    simp only [splitList.go] at hp
    by_cases hpre : sep.isPrefixOf rest = true
    · rw [if_pos hpre] at hp
      rcases List.mem_cons.mp hp with rfl | hp
      · exact .inr (List.mem_reverse.mp hd)
      · rcases mem_of_mem_splitList_go fuel _ [] piece hp hd with h | h
        · exact .inl (List.mem_of_mem_drop h)
        · simp at h
    · rw [if_neg hpre] at hp
      cases rest with
      | nil =>
        simp only [List.mem_singleton] at hp
        subst hp
        exact .inr (List.mem_reverse.mp hd)
      | cons c more =>
        rcases mem_of_mem_splitList_go fuel more (c :: acc) piece hp hd with h | h
        · exact .inl (List.mem_cons_of_mem c h)
        · rcases List.mem_cons.mp h with rfl | h
          · exact .inl List.mem_cons_self
          · exact .inr h

theorem mem_of_mem_splitList {sep cs piece : List Char} {d : Char}
    (hp : piece ∈ splitList sep cs) (hd : d ∈ piece) : d ∈ cs := by
  unfold splitList at hp
  split at hp
  · simp only [List.mem_singleton] at hp
    exact hp ▸ hd
  · simpa using mem_of_mem_splitList_go _ cs [] piece hp hd

/-- Replacing writes only characters of the text and of the replacement. -/
theorem mem_replace {pat rep s : String} {d : Char} (h : d ∈ (replace pat rep s).toList) :
    d ∈ s.toList ∨ d ∈ rep.toList := by
  simp only [replace, String.toList_ofList] at h
  unfold replaceList at h
  split at h
  · exact .inl h
  · rcases mem_intercalate h with h | ⟨piece, hp, hd⟩
    · exact .inr h
    · exact .inl (mem_of_mem_splitList hp hd)

theorem replace_single_of_not_mem {pat rep s : String} {x : Char} (hpat : pat.toList = [x])
    (hx : x ∉ s.toList) : replace pat rep s = s := by
  rw [replace, hpat, replaceList, splitList_single, List.splitOn_eq_singleton hx]
  simp

/-- A character replaced by text without it leaves no copy of it. -/
theorem not_mem_replace_single {pat rep s : String} {x : Char} (hpat : pat.toList = [x])
    (hrep : x ∉ rep.toList) : x ∉ (replace pat rep s).toList := by
  rw [replace, hpat, replaceList, splitList_single, String.toList_ofList]
  intro h
  rcases mem_intercalate h with h | ⟨piece, hp, hd⟩
  · exact hrep h
  · exact (mem_splitOn_iff.mp ⟨piece, hp, hd⟩).2 rfl

theorem mem_replace_single {pat rep s : String} {x d : Char} (hpat : pat.toList = [x])
    (h : d ∈ (replace pat rep s).toList) : d ∈ s.toList ∨ (x ∈ s.toList ∧ d ∈ rep.toList) := by
  by_cases hx : x ∈ s.toList
  · exact (mem_replace h).imp_right fun hd => ⟨hx, hd⟩
  · rw [replace_single_of_not_mem hpat hx] at h
    exact .inl h

theorem replace_single_ne_empty {pat rep s : String} {x : Char} (hpat : pat.toList = [x])
    (hrep : rep ≠ "") (hs : s ≠ "") : replace pat rep s ≠ "" := by
  by_cases hx : x ∈ s.toList
  · -- the text is cut into at least two pieces, so the replacement stands between them
    obtain ⟨before, after, hsplit⟩ := List.append_of_mem hx
    rw [ne_eq, ← String.toList_inj, replace, hpat, replaceList, splitList_single,
      String.toList_ofList, hsplit, List.splitOn_append_cons_self]
    obtain ⟨p, ps, hp⟩ := List.exists_cons_of_ne_nil (List.splitOn_ne_nil x before)
    obtain ⟨q, qs, hq⟩ := List.exists_cons_of_ne_nil (List.splitOn_ne_nil x after)
    have hrep : rep.toList ≠ [] := by simpa using hrep
    intro heq
    have hmem : rep.toList.head hrep ∈ rep.toList.intercalate ((p :: ps) ++ q :: qs) := by
      cases ps with
      | nil => simp [List.intercalate_cons_cons]
      | cons p' ps =>
        rw [List.cons_append, List.cons_append, List.intercalate_cons_cons]
        simp
    rw [hp, hq] at heq
    rw [heq] at hmem
    simp at hmem
  · rwa [replace_single_of_not_mem hpat hx]

/-- The character map applied entry after entry, each entry one character with replacements
that hold no entry's character: no entry's character is left, and a replacement is written only
for a character of the text. -/
theorem mem_foldl_replace {entries : List (String × String)}
    (hsingle : ∀ e ∈ entries, ∃ x, e.1.toList = [x])
    (hfresh : ∀ e ∈ entries, ∀ e' ∈ entries, ∀ x ∈ e.1.toList, x ∉ e'.2.toList) :
    ∀ {t : String} {d : Char},
      d ∈ (entries.foldl (fun t (c, r) => replace c r t) t).toList →
        (∀ e ∈ entries, d ∉ e.1.toList) ∧
          (d ∈ t.toList ∨ ∃ e ∈ entries, (∃ x ∈ e.1.toList, x ∈ t.toList) ∧ d ∈ e.2.toList) := by
  induction entries with
  | nil => intro t d h; exact ⟨by simp, .inl h⟩
  | cons e entries ih =>
    intro t d h
    obtain ⟨x, hx⟩ := hsingle e List.mem_cons_self
    have hxrep : ∀ e' ∈ e :: entries, x ∉ e'.2.toList :=
      fun e' he' => hfresh e List.mem_cons_self e' he' x (by simp [hx])
    obtain ⟨hnot, hfrom⟩ := ih (fun e' he' => hsingle e' (List.mem_cons_of_mem e he'))
      (fun e' he' e'' he'' => hfresh e' (List.mem_cons_of_mem e he') e''
        (List.mem_cons_of_mem e he'')) h
    refine ⟨?_, ?_⟩
    · -- `d` is not `x`: it is in the text after `x` was replaced, or in a later replacement
      intro e' he'
      rcases List.mem_cons.mp he' with rfl | he'
      · rw [hx, List.mem_singleton]
        rintro rfl
        rcases hfrom with hd | ⟨e'', he'', -, hd⟩
        · exact not_mem_replace_single hx (hxrep e' List.mem_cons_self) hd
        · exact hxrep e'' (List.mem_cons_of_mem e' he'') hd
      · exact hnot e' he'
    · rcases hfrom with hd | ⟨e', he', ⟨y, hy, hyt⟩, hd⟩
      · rcases mem_replace_single hx hd with hd | ⟨hxt, hd⟩
        · exact .inl hd
        · exact .inr ⟨e, List.mem_cons_self, ⟨x, by simp [hx], hxt⟩, hd⟩
      · -- a later entry's character was in the text already: no replacement writes one
        rcases mem_replace_single hx hyt with hyt | ⟨-, hyr⟩
        · exact .inr ⟨e', List.mem_cons_of_mem e he', ⟨y, hy, hyt⟩, hd⟩
        · exact absurd hyr
            (hfresh e' (List.mem_cons_of_mem e he') e List.mem_cons_self y hy)

/-! ## The character map -/

theorem plainCharacters_single : ∀ e ∈ plainCharacters, ∃ x, e.1.toList = [x] := by
  have h : plainCharacters.all (fun e => e.1.toList.length == 1) = true := by decide
  simp only [List.all_eq_true, beq_iff_eq, List.length_eq_one_iff] at h
  exact h

theorem plainCharacters_fresh :
    ∀ e ∈ plainCharacters, ∀ e' ∈ plainCharacters, ∀ x ∈ e.1.toList, x ∉ e'.2.toList := by
  have h : plainCharacters.all (fun e => e.1.toList.all fun x =>
      plainCharacters.all fun e' => !e'.2.toList.contains x) = true := by decide
  simp only [List.all_eq_true, Bool.not_eq_eq_eq_not, Bool.not_true, List.contains_eq_mem,
    decide_eq_false_iff_not] at h
  exact fun e he e' he' x hx => h e he x hx e' he'

theorem plainCharacters_plain :
    ∀ e ∈ plainCharacters, ∀ x ∈ e.2.toList, x ≠ '\r' ∧ x ≠ '\n' ∧ x ≠ '&' := by
  have h : plainCharacters.all (fun e => e.2.toList.all fun x =>
      x != '\r' && x != '\n' && x != '&') = true := by decide
  simp only [List.all_eq_true, Bool.and_eq_true, bne_iff_ne] at h
  exact fun e he x hx => ⟨(h e he x hx).1.1, (h e he x hx).1.2, (h e he x hx).2⟩

/-- The characters that make a line be read as markup once the character map has run: `<` and
`&`, and the arrows and signs whose plain forms start with `<`. -/
def markupOpeners : List Char := ['<', '&', '←', '↔', '⇐', '⇔', '≤', '≦']

theorem markupOpener_of_lt_mem :
    ∀ e ∈ plainCharacters, '<' ∈ e.2.toList → ∀ x ∈ e.1.toList, x ∈ markupOpeners := by
  have h : plainCharacters.all (fun e => !e.2.toList.contains '<' ||
      e.1.toList.all markupOpeners.contains) = true := by decide
  simp only [List.all_eq_true, Bool.or_eq_true, Bool.not_eq_eq_eq_not, Bool.not_true,
    List.contains_eq_mem, decide_eq_false_iff_not, decide_eq_true_eq] at h
  intro e he hlt x hx
  exact (h e he).resolve_left (not_not.mpr hlt) x hx

/-- The text with its typographic characters replaced, before markup is read. -/
def typographicPlain (text : String) : String :=
  plainCharacters.foldl (fun t (c, r) => replace c r t) text

variable {read : MarkupReader}

theorem sanitize_eq (text : String) :
    sanitize read text =
      if (typographicPlain text).toList.any (fun c => c = '<' || c = '&') then
        trim <$> read (typographicPlain text)
      else .ok (trim (typographicPlain text)) := rfl

theorem mem_typographicPlain {text : String} {d : Char}
    (h : d ∈ (typographicPlain text).toList) :
    (∀ e ∈ plainCharacters, d ∉ e.1.toList) ∧
      (d ∈ text.toList ∨
        ∃ e ∈ plainCharacters, (∃ x ∈ e.1.toList, x ∈ text.toList) ∧ d ∈ e.2.toList) :=
  mem_foldl_replace plainCharacters_single plainCharacters_fresh h

/-- Without characters that open markup, sanitizing is the character map and trimming. -/
theorem sanitize_of_no_opener {text : String} (h : ∀ c ∈ text.toList, c ∉ markupOpeners) :
    sanitize read text = .ok (trim (typographicPlain text)) := by
  rw [sanitize_eq, if_neg]
  simp only [List.any_eq_true, Bool.or_eq_true, decide_eq_true_eq, not_exists, not_and]
  intro d hd hopen
  rcases (mem_typographicPlain hd).2 with hd | ⟨e, he, ⟨x, hx, hxt⟩, hde⟩
  · exact h d hd (by rcases hopen with rfl | rfl <;> simp [markupOpeners])
  · rcases hopen with rfl | rfl
    · exact h x hxt (markupOpener_of_lt_mem e he hde x hx)
    · exact (plainCharacters_plain e he _ hde).2.2 rfl

/-! ## The lines of a value -/

/-- The lines of a value before sanitizing: a literal backslash and `n` cuts a line too. -/
def valuePieces (value : String) : List String := splitOn "\n" (replace "\\n" "\n" value)

/-- A sanitized line as it is kept: `*` written `#` in titles and similar fields, and cut to
the longest value in names and keywords. -/
def finishLine (tag line : String) : String :=
  let line := if noAsteriskTags.contains tag then replace "*" "#" line else line
  if truncatedTags.contains tag then takeChars line maxValueLength else line

/-- One line of a value as `cleanValue` keeps it, or drops it when it sanitizes to nothing. -/
def cleanLine (read : MarkupReader) (tag line : String) : Except Fault (Option String) := do
  let line ← sanitize read line
  if line.isEmpty then return none
  return some (finishLine tag line)

theorem cleanValue_eq (tag value : String) :
    cleanValue read tag value = (do
      let lines ← (valuePieces value).filterMapM (cleanLine read tag)
      return lineEnding.intercalate lines) := rfl

theorem cleanLine_of_sanitize {tag line s : String} (h : sanitize read line = .ok s) :
    cleanLine read tag line = .ok (if s.isEmpty then none else some (finishLine tag s)) := by
  unfold cleanLine
  rw [h]
  show (if s.isEmpty = true then pure none else pure (some (finishLine tag s))) = _
  by_cases hs : s.isEmpty = true
  · rw [if_pos hs, if_pos hs]
    rfl
  · rw [if_neg hs, if_neg hs]
    rfl

theorem cleanLine_eq_ok {tag line : String} {r : Option String}
    (h : cleanLine read tag line = .ok r) :
    ∃ s, sanitize read line = .ok s ∧ r = if s.isEmpty then none else some (finishLine tag s) := by
  obtain ⟨s, hs, -⟩ := bind_eq_ok.mp h
  rw [cleanLine_of_sanitize hs] at h
  exact ⟨s, hs, (Except.ok.inj h).symm⟩

theorem mem_filterMapM_cleanLine {tag : String} {pieces lines : List String}
    (h : pieces.filterMapM (cleanLine read tag) = .ok lines) :
    ∀ l ∈ lines, ∃ piece ∈ pieces, ∃ s, sanitize read piece = .ok s ∧ s ≠ "" ∧
      l = finishLine tag s := by
  induction pieces generalizing lines with
  | nil =>
    simp only [List.filterMapM_nil, pure, Except.pure, Except.ok.injEq] at h
    simp [← h]
  | cons piece pieces ih =>
    rw [List.filterMapM_cons] at h
    obtain ⟨r, hr, h⟩ := bind_eq_ok.mp h
    obtain ⟨s, hs, rfl⟩ := cleanLine_eq_ok hr
    by_cases hempty : s.isEmpty = true
    · rw [if_pos hempty] at h
      intro l hl
      obtain ⟨p, hp, hrest⟩ := ih h l hl
      exact ⟨p, List.mem_cons_of_mem piece hp, hrest⟩
    · rw [if_neg hempty] at h
      obtain ⟨more, hmore, h⟩ := bind_eq_ok.mp h
      simp only [pure, Except.pure, Except.ok.injEq] at h
      subst h
      rintro l (_ | ⟨_, hl⟩)
      · exact ⟨piece, List.mem_cons_self, s, hs, by simpa using hempty, rfl⟩
      · obtain ⟨p, hp, hrest⟩ := ih hmore l hl
        exact ⟨p, List.mem_cons_of_mem piece hp, hrest⟩

/-! ## What every kept line is -/

theorem finishLine_eq (tag line : String) :
    finishLine tag line =
      let marked := if noAsteriskTags.contains tag then replace "*" "#" line else line
      if truncatedTags.contains tag then takeChars marked maxValueLength else marked := rfl

theorem takeChars_ne_empty {s : String} {n : Nat} (hs : s ≠ "") (hn : 0 < n) :
    takeChars s n ≠ "" := by
  rw [takeChars, ne_eq, ← String.toList_inj, String.toList_ofList]
  simp only [String.toList_empty, List.take_eq_nil_iff, not_or]
  exact ⟨by omega, by simpa using hs⟩

theorem finishLine_ne_empty (tag : String) {s : String} (hs : s ≠ "") : finishLine tag s ≠ "" := by
  have hstar : "*".toList = ['*'] := rfl
  have hmarked : (if noAsteriskTags.contains tag then replace "*" "#" s else s) ≠ "" := by
    split
    · exact replace_single_ne_empty hstar (by decide) hs
    · exact hs
  rw [finishLine_eq]
  dsimp only
  split
  · exact takeChars_ne_empty hmarked (by decide : 0 < maxValueLength)
  · exact hmarked

theorem asterisk_not_mem_finishLine {tag : String} (htag : noAsteriskTags.contains tag = true)
    (s : String) : '*' ∉ (finishLine tag s).toList := by
  have hstar : "*".toList = ['*'] := rfl
  have hmarked : '*' ∉ (replace "*" "#" s).toList := not_mem_replace_single hstar (by decide)
  rw [finishLine_eq]
  dsimp only
  rw [if_pos htag]
  split
  · intro h
    simp only [takeChars, String.toList_ofList] at h
    exact hmarked (List.mem_of_mem_take h)
  · exact hmarked

theorem length_finishLine_le {tag : String} (htag : truncatedTags.contains tag = true)
    (s : String) : (finishLine tag s).length ≤ maxValueLength := by
  rw [finishLine_eq]
  dsimp only
  rw [if_pos htag, takeChars, String.length_ofList, List.length_take]
  exact Nat.min_le_left _ _

theorem mem_finishLine {tag s : String} {d : Char} (h : d ∈ (finishLine tag s).toList) :
    d ∈ s.toList ∨ d = '#' := by
  have hmarked : d ∈ (if noAsteriskTags.contains tag then replace "*" "#" s else s).toList →
      d ∈ s.toList ∨ d = '#' := by
    split
    · intro hd
      exact (mem_replace hd).imp_right fun hd => by simpa using hd
    · exact .inl
  rw [finishLine_eq] at h
  dsimp only at h
  split at h
  · simp only [takeChars, String.toList_ofList] at h
    exact hmarked (List.mem_of_mem_take h)
  · exact hmarked h

/-- **Every line a value keeps** is nonempty, has no `*` in titles and similar fields, and is no
longer than the longest name or keyword in those fields. -/
theorem cleanValue_lines_shape {tag value text : String}
    (h : cleanValue read tag value = .ok text) :
    ∃ lines : List String, text = lineEnding.intercalate lines ∧
      ∀ l ∈ lines, l ≠ "" ∧ (noAsteriskTags.contains tag = true → '*' ∉ l.toList) ∧
        (truncatedTags.contains tag = true → l.length ≤ maxValueLength) := by
  rw [cleanValue_eq] at h
  obtain ⟨lines, hlines, h⟩ := bind_eq_ok.mp h
  simp only [pure, Except.pure, Except.ok.injEq] at h
  refine ⟨lines, h.symm, fun l hl => ?_⟩
  obtain ⟨-, -, s, -, hs, rfl⟩ := mem_filterMapM_cleanLine hlines l hl
  exact ⟨finishLine_ne_empty tag hs, fun htag => asterisk_not_mem_finishLine htag s,
    fun htag => length_finishLine_le htag s⟩

/-! ## Clean lines -/

/-- A clean line of a RIS value: nonempty, with no line break and none of the typographic
characters of the character map, with no `*` in titles and similar fields, and no longer than
the longest value in names and keywords. -/
structure CleanLine (tag line : String) : Prop where
  nonempty : line ≠ ""
  noBreak : NoLineBreak line
  noTypographic : ∀ e ∈ plainCharacters, ∀ c ∈ e.1.toList, c ∉ line.toList
  noAsterisk : noAsteriskTags.contains tag = true → '*' ∉ line.toList
  short : truncatedTags.contains tag = true → line.length ≤ maxValueLength

theorem filterMapM_eq_ok_filterMap {α β ε : Type} {f : α → Except ε (Option β)}
    {g : α → Option β} : ∀ {xs : List α}, (∀ x ∈ xs, f x = .ok (g x)) →
      xs.filterMapM f = .ok (xs.filterMap g)
  | [], _ => rfl
  | x :: xs, h => by
    rw [List.filterMapM_cons, h x List.mem_cons_self,
      filterMapM_eq_ok_filterMap fun y hy => h y (List.mem_cons_of_mem x hy), List.filterMap_cons]
    cases g x <;> rfl

theorem mem_valuePieces {value piece : String} {d : Char} (hp : piece ∈ valuePieces value)
    (hd : d ∈ piece.toList) : d ∈ value.toList ∧ d ≠ '\n' := by
  have hsep : "\n".toList = ['\n'] := rfl
  rw [valuePieces, splitOn, hsep, splitList_single, List.mem_map] at hp
  obtain ⟨cs, hcs, rfl⟩ := hp
  rw [String.toList_ofList] at hd
  obtain ⟨hmem, hne⟩ := mem_splitOn_iff.mp ⟨cs, hcs, hd⟩
  refine ⟨?_, hne⟩
  rcases mem_replace hmem with h | h
  · exact h
  · exact absurd (by simpa using h) hne

theorem hash_not_typographic : ∀ e ∈ plainCharacters, '#' ∉ e.1.toList := by
  have h : plainCharacters.all (fun e => !e.1.toList.contains '#') = true := by decide
  simp only [List.all_eq_true, Bool.not_eq_eq_eq_not, Bool.not_true, List.contains_eq_mem,
    decide_eq_false_iff_not] at h
  exact h

/-- A piece that opens no markup and holds no carriage return gives a clean line, if any. -/
theorem cleanLine_of_plain (tag : String) {piece : String} (hcr : '\r' ∉ piece.toList)
    (hlf : '\n' ∉ piece.toList) {s : String} (hs : s = trim (typographicPlain piece))
    (hne : s ≠ "") : CleanLine tag (finishLine tag s) := by
  -- a character of the line is `#`, or one of the piece's, or one of a replacement's
  have hchar : ∀ d ∈ (finishLine tag s).toList, (∀ e ∈ plainCharacters, d ∉ e.1.toList) ∧
      d ≠ '\r' ∧ d ≠ '\n' := by
    intro d hd
    rcases mem_finishLine hd with hd | rfl
    · rw [hs, toList_trim] at hd
      obtain ⟨hnot, hfrom⟩ := mem_typographicPlain ((trimChars_isInfix _).subset hd)
      refine ⟨hnot, ?_⟩
      rcases hfrom with hd | ⟨e, he, -, hd⟩
      · exact ⟨fun h => hcr (h ▸ hd), fun h => hlf (h ▸ hd)⟩
      · exact ⟨(plainCharacters_plain e he d hd).1, (plainCharacters_plain e he d hd).2.1⟩
    · exact ⟨hash_not_typographic, by decide, by decide⟩
  refine ⟨finishLine_ne_empty tag hne, ⟨fun h => (hchar _ h).2.1 rfl,
    fun h => (hchar _ h).2.2 rfl⟩, fun e he c hc h => (hchar c h).1 e he hc,
    fun htag => asterisk_not_mem_finishLine htag s, fun htag => length_finishLine_le htag s⟩

/-- **A value that opens no markup and holds no carriage return is cut into clean lines.** -/
theorem cleanValue_clean_of_plain {tag value : String} (hcr : '\r' ∉ value.toList)
    (hopen : ∀ c ∈ value.toList, c ∉ markupOpeners) :
    ∃ lines : List String, cleanValue read tag value = .ok (lineEnding.intercalate lines) ∧
      ∀ l ∈ lines, CleanLine tag l := by
  let keep : String → Option String := fun piece =>
    if (trim (typographicPlain piece)).isEmpty then none
    else some (finishLine tag (trim (typographicPlain piece)))
  have hpieces : ∀ piece ∈ valuePieces value, cleanLine read tag piece = .ok (keep piece) := by
    intro piece hp
    exact cleanLine_of_sanitize
      (sanitize_of_no_opener fun c hc => hopen c (mem_valuePieces hp hc).1)
  refine ⟨(valuePieces value).filterMap keep, ?_, ?_⟩
  · rw [cleanValue_eq, filterMapM_eq_ok_filterMap hpieces]
    rfl
  · intro l hl
    obtain ⟨piece, hp, hkeep⟩ := List.mem_filterMap.mp hl
    simp only [keep] at hkeep
    split at hkeep
    · cases hkeep
    · rename_i hne
      cases hkeep
      exact cleanLine_of_plain tag (fun h => hcr (mem_valuePieces hp h).1)
        (fun h => (mem_valuePieces hp h).2 rfl) rfl (by simpa using hne)

/-- **The lines of a cleaned value.** Whatever the markup reader, every line kept is nonempty,
has no `*` in titles and similar fields and fits in a name or keyword; and when no line of the
value is read as markup and the value holds no carriage return, the value is cut into clean
lines. -/
theorem cleanValue_lines (read : MarkupReader) (tag value : String) :
    (∀ text, cleanValue read tag value = .ok text → ∃ lines : List String,
      text = lineEnding.intercalate lines ∧ ∀ l ∈ lines, l ≠ "" ∧
        (noAsteriskTags.contains tag = true → '*' ∉ l.toList) ∧
        (truncatedTags.contains tag = true → l.length ≤ maxValueLength)) ∧
    ('\r' ∉ value.toList → (∀ c ∈ value.toList, c ∉ markupOpeners) →
      ∃ lines : List String, cleanValue read tag value = .ok (lineEnding.intercalate lines) ∧
        ∀ l ∈ lines, CleanLine tag l) :=
  ⟨fun _ h => cleanValue_lines_shape h, fun hcr hopen => cleanValue_clean_of_plain hcr hopen⟩

theorem cleanValue_lines_title :
    ('\r' ∉ "x* \\n y".toList ∧ ∀ c ∈ "x* \\n y".toList, c ∉ markupOpeners) ∧
      ∃ lines : List String,
        cleanValue Markup.plainText "TI" "x* \\n y" = .ok (lineEnding.intercalate lines) ∧
        ∀ l ∈ lines, CleanLine "TI" l := by
  have hcr : '\r' ∉ "x* \\n y".toList := by simp
  have hopen : ∀ c ∈ "x* \\n y".toList, c ∉ markupOpeners := by simp [markupOpeners]
  exact ⟨⟨hcr, hopen⟩, (cleanValue_lines Markup.plainText "TI" "x* \\n y").2 hcr hopen⟩

/-- A reader that decodes the reference to the bullet hands the bullet back after the character
map has run, so the bullet is the value's one line. -/
theorem cleanValue_of_reads_bullet (hread : read "&#8226;" = .ok "•") :
    cleanValue read "KW" "&#8226;" = .ok "•" := by
  have hpieces : valuePieces "&#8226;" = ["&#8226;"] := by decide +kernel
  have hplain : typographicPlain "&#8226;" = "&#8226;" := by decide +kernel
  -- the reference opens markup, so the reader reads it
  have hsanitize : sanitize read "&#8226;" = .ok "•" := by
    rw [sanitize_eq, hplain, if_pos (by decide), hread]
    exact congrArg Except.ok (by decide +kernel)
  have hline : cleanLine read "KW" "&#8226;" = .ok (some "•") := by
    rw [cleanLine_of_sanitize hsanitize]
    exact congrArg Except.ok (by decide +kernel)
  rw [cleanValue_eq, hpieces, List.filterMapM_cons, hline]
  rfl

/-- The character map runs before the markup reader: the reader the executable runs with decodes
a reference to the bullet, a character the map replaces, so the one line of the value is not
clean. -/
theorem cleanValue_decoded_bullet :
    cleanValue Markup.plainText "KW" "&#8226;" = .ok "•" ∧
      ¬ ∃ lines : List String, "•" = lineEnding.intercalate lines ∧
        ∀ l ∈ lines, CleanLine "KW" l := by
  obtain ⟨text, hread, rfl⟩ := exists_ok_of_toOption (f := id)
    (by decide +kernel : (Markup.plainText "&#8226;").toOption.map id = some "•")
  refine ⟨cleanValue_of_reads_bullet hread, ?_⟩
  rintro ⟨lines, heq, hclean⟩
  match lines, heq, hclean with
  | [], heq, _ => simp at heq
  | [l], heq, hclean =>
    simp only [String.intercalate_singleton] at heq
    subst heq
    exact (hclean _ List.mem_cons_self).noTypographic ("•", "*") (by simp [plainCharacters]) '•'
      (by simp) (by simp)
  | l :: l' :: rest, heq, _ =>
    have hcr : '\r' ∈ (lineEnding.intercalate (l :: l' :: rest)).toList := by
      simp [String.intercalate_cons_cons, lineEnding]
    rw [← heq] at hcr
    simp at hcr

end Citations.Style.Ris
