import Citations.Proofs.Cleaning

/-!
# Enclosing brackets

`stripBrackets` takes one pair of brackets off a trimmed field when the bracket that opens it
is closed at the end. Counting only that pair, the running depth of a text is the number of
opening brackets less the number of closing ones read so far (`bracketDepth`). A field is
`Wrapped` when it starts with an opening bracket, ends with its partner, and the depth stays at
one or more before the last character.

* `closesEarly_iff`: the scan of `closesEarly` finds the depth falling to zero before the last
  character, by induction on the text with the depth so far carried along.
* `stripBrackets_unwraps`: a wrapped field loses its first and last characters and is trimmed
  again; any other field is only trimmed.

The depth need not come back to zero at the end: `((a)` is wrapped, and loses its outer pair
though its opening bracket is never closed (`stripBrackets_unclosed`).
-/

namespace Citations.Text

/-! ## Depth -/

/-- The opening brackets less the closing ones of a text, counting only one pair. -/
def bracketDepth (o cl : Char) (cs : List Char) : Int := (cs.count o : Int) - (cs.count cl : Int)

@[simp] theorem bracketDepth_nil (o cl : Char) : bracketDepth o cl [] = 0 := by
  simp [bracketDepth]

theorem bracketDepth_cons {o cl : Char} (h : o ≠ cl) (c : Char) (cs : List Char) :
    bracketDepth o cl (c :: cs) =
      (if c = o then 1 else if c = cl then -1 else 0) + bracketDepth o cl cs := by
  unfold bracketDepth
  by_cases ho : c = o
  · subst ho
    simp [h]
    omega
  · by_cases hc : c = cl
    · subst hc
      simp [Ne.symm h]
      omega
    · simp [ho, hc]

/-- A text enclosed in one pair of brackets: it starts with an opening bracket and ends with its
partner, and, counting only that pair, the opening bracket is still open before the last
character. -/
def Wrapped (t : List Char) : Prop :=
  ∃ o cl, closingBracket? o = some cl ∧ t.head? = some o ∧ t.getLast? = some cl ∧
    2 ≤ t.length ∧ ∀ i, i + 1 < t.length → 1 ≤ bracketDepth o cl (t.take (i + 1))

theorem ne_of_closingBracket? {o cl : Char} (h : closingBracket? o = some cl) : o ≠ cl := by
  unfold closingBracket? at h
  split at h <;> cases h <;> decide

/-! ## The scan -/

theorem exists_close_cons {o cl : Char} (hne : o ≠ cl) (d : Int) (c : Char) (rest : List Char) :
    (∃ i, i + 1 < (c :: rest).length ∧ d + bracketDepth o cl ((c :: rest).take (i + 1)) ≤ 0) ↔
      (d + bracketDepth o cl [c] ≤ 0 ∧ rest ≠ []) ∨
        ∃ i, i + 1 < rest.length ∧
          d + bracketDepth o cl [c] + bracketDepth o cl (rest.take (i + 1)) ≤ 0 := by
  constructor
  · rintro ⟨i, hi, hle⟩
    cases i with
    | zero =>
      refine .inl ⟨by simpa using hle, ?_⟩
      rintro rfl
      simp at hi
    | succ j =>
      refine .inr ⟨j, by simpa using hi, ?_⟩
      rw [List.take_succ_cons, bracketDepth_cons hne] at hle
      rw [bracketDepth_cons hne c []]
      simp only [bracketDepth_nil] at hle ⊢
      omega
  · rintro (⟨hle, hrest⟩ | ⟨j, hj, hle⟩)
    · refine ⟨0, ?_, by simpa using hle⟩
      cases rest with
      | nil => exact absurd rfl hrest
      | cons _ _ => simp
    · refine ⟨j + 1, by simpa using hj, ?_⟩
      rw [List.take_succ_cons, bracketDepth_cons hne]
      rw [bracketDepth_cons hne c []] at hle
      simp only [bracketDepth_nil] at hle ⊢
      omega

theorem exists_close_of_open {o cl : Char} {rest : List Char} {d e : Int} (he : 1 ≤ e)
    (hde : d = e) :
    (∃ i, i + 1 < rest.length ∧ d + bracketDepth o cl (rest.take (i + 1)) ≤ 0) ↔
      (e ≤ 0 ∧ rest ≠ []) ∨
        ∃ i, i + 1 < rest.length ∧ e + bracketDepth o cl (rest.take (i + 1)) ≤ 0 := by
  subst hde
  exact (or_iff_right fun h => absurd h.1 (by omega)).symm

/-- With `d ≥ 1` brackets open, the scan finds the bracket closed before the last character
exactly when, at some character other than the last, the depth so far reaches zero. -/
theorem closesEarly_iff {o cl : Char} (hne : o ≠ cl) :
    ∀ (rest : List Char) (d : Nat), 1 ≤ d →
      (closesEarly o cl d rest = true ↔
        ∃ i, i + 1 < rest.length ∧ (d : Int) + bracketDepth o cl (rest.take (i + 1)) ≤ 0)
  | [], d, _ => by simp [closesEarly]
  | c :: rest, d, hd => by
    rw [exists_close_cons hne, closesEarly]
    by_cases ho : c = o
    · -- an opening bracket: one more is open
      have h1 : bracketDepth o cl [c] = 1 := by simp [bracketDepth, ho, hne]
      rw [if_pos ho, closesEarly_iff hne rest (d + 1) (by omega), h1]
      exact exists_close_of_open (by omega) (by omega)
    by_cases hc : c = cl
    · -- a closing bracket: the scan stops where it closes the first one
      have h1 : bracketDepth o cl [c] = -1 := by simp [bracketDepth, hc, Ne.symm hne]
      rw [if_neg ho, if_pos hc, h1]
      by_cases hd1 : d = 1
      · rw [if_pos hd1, Bool.not_eq_true', List.isEmpty_eq_false_iff]
        constructor
        · intro h
          exact .inl ⟨by omega, h⟩
        · rintro (⟨-, h⟩ | ⟨i, hi, -⟩)
          · exact h
          · exact List.ne_nil_of_length_pos (by omega)
      · rw [if_neg hd1, closesEarly_iff hne rest (d - 1) (by omega)]
        exact exists_close_of_open (by omega) (by omega)
    · -- any other character leaves the depth as it is
      have h1 : bracketDepth o cl [c] = 0 := by simp [bracketDepth, ho, hc]
      rw [if_neg ho, if_neg hc, closesEarly_iff hne rest d hd, h1]
      exact exists_close_of_open (by omega) (by omega)

/-! ## Taking the pair off -/

/-- After the opening bracket, the scan finds no early close exactly when the depth of every
prefix of the whole text but itself is at least one. -/
theorem closesEarly_eq_false_iff {o cl : Char} (hne : o ≠ cl) (rest : List Char) :
    closesEarly o cl 1 rest = false ↔
      ∀ i, i + 1 < (o :: rest).length → 1 ≤ bracketDepth o cl ((o :: rest).take (i + 1)) := by
  rw [← Bool.not_eq_true, closesEarly_iff hne rest 1 le_rfl]
  constructor
  · intro h i hi
    cases i with
    | zero => simp [bracketDepth_cons hne]
    | succ j =>
      rw [List.take_succ_cons, bracketDepth_cons hne, if_pos rfl]
      by_contra hlt
      exact h ⟨j, by simpa using hi, by omega⟩
  · rintro h ⟨j, hj, hle⟩
    have := h (j + 1) (by simpa using hj)
    rw [List.take_succ_cons, bracketDepth_cons hne, if_pos rfl] at this
    omega

theorem stripBracketsChars_spec (cs : List Char) :
    Wrapped (trimChars cs) ∧ stripBracketsChars cs = trimChars ((trimChars cs).drop 1).dropLast ∨
      ¬ Wrapped (trimChars cs) ∧ stripBracketsChars cs = trimChars cs := by
  unfold stripBracketsChars
  generalize trimChars cs = t
  -- only a text of two characters or more that opens with a bracket can be wrapped
  match t with
  | [] => exact .inr ⟨fun ⟨_, _, _, _, _, h, _⟩ => by simp at h, rfl⟩
  | [c] => exact .inr ⟨fun ⟨_, _, _, _, _, h, _⟩ => by simp at h, rfl⟩
  | o :: x :: more =>
    simp only
    cases hcl : closingBracket? o with
    | none =>
      refine .inr ⟨fun ⟨o', cl', hcl', ho', _⟩ => ?_, rfl⟩
      obtain rfl : o' = o := by simpa using ho'.symm
      simp [hcl] at hcl'
    | some cl =>
      have hne := ne_of_closingBracket? hcl
      have hwrapped : Wrapped (o :: x :: more) ↔
          (o :: x :: more).getLast? = some cl ∧ closesEarly o cl 1 (x :: more) = false := by
        rw [closesEarly_eq_false_iff hne]
        constructor
        · rintro ⟨o', cl', hcl', ho', hlast, -, hdepth⟩
          obtain rfl : o' = o := by simpa using ho'.symm
          obtain rfl : cl' = cl := by simpa [hcl] using hcl'.symm
          exact ⟨hlast, hdepth⟩
        · rintro ⟨hlast, hdepth⟩
          exact ⟨o, cl, hcl, rfl, hlast, by simp, hdepth⟩
      simp only [Bool.and_eq_true, beq_iff_eq, Bool.not_eq_true', List.drop_succ_cons,
        List.drop_zero]
      split
      · exact .inl ⟨hwrapped.mpr ‹_›, rfl⟩
      · exact .inr ⟨mt hwrapped.mp ‹_›, rfl⟩

/-- Bracket stripping takes the first and last characters off a wrapped field and trims what is
left; any other field is only trimmed. -/
theorem stripBrackets_unwraps (v : String) :
    (Wrapped (trim v).toList →
      stripBrackets v = trim (String.ofList (((trim v).toList.drop 1).dropLast))) ∧
    (¬ Wrapped (trim v).toList → stripBrackets v = trim v) := by
  simp only [toList_trim]
  rcases stripBracketsChars_spec v.toList with ⟨hw, h⟩ | ⟨hw, h⟩
  · exact ⟨fun _ => by simp [stripBrackets, h, trim], fun hn => absurd hw hn⟩
  · exact ⟨fun hw' => absurd hw' hw, fun _ => by simp [stripBrackets, h, trim]⟩

example : stripBrackets " [[nested]] " = "[nested]" := by decide

/-- `((a)` is wrapped though its opening bracket is never closed: the depth ends at one, and the
outer pair is taken off all the same. -/
theorem stripBrackets_unclosed :
    bracketDepth '(' ')' "((a)".toList = 1 ∧ stripBrackets "((a)" = "(a" := by
  constructor <;> decide

end Citations.Text
