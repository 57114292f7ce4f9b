import Citations.Proofs.ReadingOrder
import Citations.Proofs.ValueLines
import Citations.Legal.Abbreviation
import Citations.Data.Literal
import Citations.Style.Bluebook

/-!
# Dangling separators

A separator is left dangling when what should follow it is missing: a comma and a space before a
period or an opening parenthesis, or an opening parenthesis closed at once. Text is `Undangled`
when none of these marks occurs in it.

Whether two undangled texts stay undangled when joined depends only on their two edges: a mark
then lies across the junction, cut into a nonempty head at the end of the left text and a
nonempty tail at the start of the right one (`Crosses`, `undangled_append`). Crossing splits
along further joins (`Crosses.of_append_left`, `Crosses.of_append_right`), so whole texts are
checked junction by junction.

* A text `Leads` when it can follow a comma and a space or an opening parenthesis, and `Trails`
  when it can precede a space and an opening parenthesis or a closing one.
* A `Sealed` piece is undangled, leads and trails; joins by a comma, by a space, or by a
  separator that no mark reaches across keep pieces sealed (`Sealed.comma`, `Sealed.space`,
  `Sealed.clearJoin`).
* Table abbreviation keeps pieces sealed (`Table.sealed_apply`), since every abbreviation starts
  and ends with a character that no mark can continue.
* A name in reading order is pieces of its comma parts joined by commas (`readingOrder_pieces`),
  so a name whose parts start with no period reads sealed (`PlainName.sealed_readingOrder`).
-/

namespace Citations.Text

open Citations.Unicode

/-! ## Marks and their cuts -/

/-- The marks of a dangling separator: a comma and a space before a period or an opening
parenthesis (also after two spaces), and an empty pair of parentheses. -/
def danglingMarks : List (List Char) :=
  [[',', ' ', '.'], [',', ' ', '('], [',', ' ', ' ', '('], ['(', ')']]

/-- Text in which no dangling mark occurs. -/
def Undangled (cs : List Char) : Prop := ∀ m ∈ danglingMarks, ¬ m <:+: cs

instance (cs : List Char) : Decidable (Undangled cs) :=
  inferInstanceAs (Decidable (∀ m ∈ danglingMarks, ¬ m <:+: cs))

/-- The ways to cut a mark into a nonempty head and a nonempty tail. -/
def markCuts : List (List Char × List Char) :=
  [([','], [' ', '.']), ([',', ' '], ['.']),
    ([','], [' ', '(']), ([',', ' '], ['(']),
    ([','], [' ', ' ', '(']), ([',', ' '], [' ', '(']), ([',', ' ', ' '], ['(']),
    (['('], [')'])]

/-- A mark lies across the junction of `a` and `b`: `a` ends with its head and `b` starts with
its tail. -/
def Crosses (a b : List Char) : Prop := ∃ cut ∈ markCuts, cut.1 <:+ a ∧ cut.2 <+: b

instance (a b : List Char) : Decidable (Crosses a b) :=
  inferInstanceAs (Decidable (∃ cut ∈ markCuts, cut.1 <:+ a ∧ cut.2 <+: b))

theorem mem_markCuts {m p q : List Char} (hm : m ∈ danglingMarks) (h : p ++ q = m)
    (hp : p ≠ []) (hq : q ≠ []) : (p, q) ∈ markCuts := by
  have hpk : p = m.take p.length := by rw [← h]; simp
  have hqk : q = m.drop p.length := by rw [← h]; simp
  have hpos : 0 < p.length := List.length_pos_iff.mpr hp
  have hlt : p.length < m.length := by
    have := List.length_pos_iff.mpr hq
    rw [← h, List.length_append]
    omega
  rw [hpk, hqk]
  generalize p.length = k at hpos hlt
  simp only [danglingMarks, List.mem_cons, List.not_mem_nil, or_false] at hm
  rcases hm with rfl | rfl | rfl | rfl <;> simp only [List.length_cons, List.length_nil] at hlt <;>
    interval_cases k <;> decide

theorem markCuts_spec : ∀ cut ∈ markCuts, cut.1 ++ cut.2 ∈ danglingMarks ∧ cut.1 ≠ [] ∧
    cut.2 ≠ [] := by
  decide

/-! ## Joining texts -/

/-- Two undangled texts joined stay undangled unless a mark lies across the junction. -/
theorem undangled_append {a b : List Char} (ha : Undangled a) (hb : Undangled b)
    (hab : ¬ Crosses a b) : Undangled (a ++ b) := by
  rintro m hm ⟨s, t, hst⟩
  rcases List.append_eq_append_iff.mp hst with ⟨as, rfl, -⟩ | ⟨bs, hsm, rfl⟩
  · -- the mark lies in `a`
    exact ha m hm ⟨s, as, rfl⟩
  rcases List.append_eq_append_iff.mp hsm with ⟨as, rfl, rfl⟩ | ⟨bs', rfl, rfl⟩
  · -- the mark starts in `a`: unless one piece is empty, it crosses
    by_cases hhead : as = []
    · subst hhead
      exact hb _ hm ⟨[], t, by simp⟩
    by_cases htail : bs = []
    · subst htail
      exact ha _ hm ⟨s, [], by simp⟩
    exact hab ⟨(as, bs), mem_markCuts hm rfl hhead htail, ⟨s, rfl⟩, ⟨t, rfl⟩⟩
  · -- the mark lies in `b`
    exact hb m hm ⟨bs', t, by simp⟩

theorem undangled_of_isInfix {a b : List Char} (hb : Undangled b) (h : a <:+: b) : Undangled a :=
  fun m hm hma => hb m hm (hma.trans h)

theorem undangled_nil : Undangled [] := by decide

/-- A cut moved along a join: what crosses into `b ++ c` crosses into `b` or, with `b`, into
`c`. -/
theorem Crosses.of_append_right {a b c : List Char} (h : Crosses a (b ++ c)) :
    Crosses a b ∨ Crosses (a ++ b) c := by
  obtain ⟨⟨p, q⟩, hcut, hp, hq⟩ := h
  rcases List.prefix_or_prefix_of_prefix hq (List.prefix_append b c) with hqb | hbq
  · exact .inl ⟨(p, q), hcut, hp, hqb⟩
  obtain ⟨q', rfl⟩ := hbq
  by_cases hq' : q' = []
  · subst hq'
    exact .inl ⟨(p, b ++ []), hcut, hp, by simp⟩
  obtain ⟨hmark, hpne, -⟩ := markCuts_spec _ hcut
  refine .inr ⟨(p ++ b, q'), mem_markCuts hmark (by simp) (by simp [hpne]) hq', ?_, ?_⟩
  · exact List.suffix_append_self_iff.mpr hp
  · exact (List.prefix_append_right_inj b).mp hq

/-- A cut moved along a join: what crosses out of `a ++ b` crosses out of `b` or, with `b`, out
of `a`. -/
theorem Crosses.of_append_left {a b c : List Char} (h : Crosses (a ++ b) c) :
    Crosses b c ∨ Crosses a (b ++ c) := by
  obtain ⟨⟨p, q⟩, hcut, hp, hq⟩ := h
  rcases List.suffix_or_suffix_of_suffix hp (List.suffix_append a b) with hpb | hbp
  · exact .inl ⟨(p, q), hcut, hpb, hq⟩
  obtain ⟨p', rfl⟩ := hbp
  by_cases hp' : p' = []
  · subst hp'
    exact .inl ⟨([] ++ b, q), hcut, by simp, hq⟩
  obtain ⟨hmark, -, hqne⟩ := markCuts_spec _ hcut
  refine .inr ⟨(p', b ++ q), mem_markCuts hmark (by simp) hp' (by simp [hqne]), ?_, ?_⟩
  · exact List.suffix_append_self_iff.mp hp
  · exact (List.prefix_append_right_inj b).mpr hq

theorem not_crosses_nil_left {b : List Char} : ¬ Crosses [] b := by
  rintro ⟨cut, hcut, hp, -⟩
  exact (markCuts_spec cut hcut).2.1 (List.eq_nil_of_suffix_nil hp)

theorem not_crosses_nil_right {a : List Char} : ¬ Crosses a [] := by
  rintro ⟨cut, hcut, -, hq⟩
  exact (markCuts_spec cut hcut).2.2 (List.eq_nil_of_prefix_nil hq)

theorem Crosses.mono_left {a a' b : List Char} (h : Crosses a b) (ha : a <:+ a') :
    Crosses a' b := by
  obtain ⟨cut, hcut, hp, hq⟩ := h
  exact ⟨cut, hcut, hp.trans ha, hq⟩

theorem Crosses.mono_right {a b b' : List Char} (h : Crosses a b) (hb : b <+: b') :
    Crosses a b' := by
  obtain ⟨cut, hcut, hp, hq⟩ := h
  exact ⟨cut, hcut, hp, hq.trans hb⟩

theorem not_crosses_of_undangled {a b : List Char} (h : Undangled (a ++ b)) : ¬ Crosses a b := by
  rintro ⟨⟨p, q⟩, hcut, ⟨s, rfl⟩, ⟨t, rfl⟩⟩
  refine h _ (markCuts_spec _ hcut).1 ⟨s, t, ?_⟩
  simp

theorem undangled_singleton (c : Char) : Undangled [c] := by
  intro m hm h
  have hlen := h.length_le
  simp only [danglingMarks, List.mem_cons, List.not_mem_nil, or_false] at hm
  rcases hm with rfl | rfl | rfl | rfl <;> simp at hlen

theorem undangled_of_no_comma {cs : List Char} (h : ',' ∉ cs) (h' : ¬ ['(', ')'] <:+: cs) :
    Undangled cs := by
  intro m hm hinf
  simp only [danglingMarks, List.mem_cons, List.not_mem_nil, or_false] at hm
  rcases hm with rfl | rfl | rfl | rfl
  all_goals first
    | exact h' hinf
    | exact h (hinf.subset (by simp))

/-! ## Edges that no mark continues -/

/-- The characters a tail of a mark can start with. -/
def startsMark (c : Char) : Bool := c == ' ' || c == '.' || c == '(' || c == ')'

/-- The characters a head of a mark can end with. -/
def endsMark (c : Char) : Bool := c == ',' || c == ' ' || c == '('

/-- Text whose end no mark can start from, whatever follows: no head of a mark ends it, and it
ends no head. -/
def EndsClear (s : List Char) : Prop := ∀ cut ∈ markCuts, ¬ cut.1 <:+ s ∧ ¬ s <:+ cut.1

/-- Text whose start no mark can end in, whatever comes before. -/
def StartsClear (s : List Char) : Prop := ∀ cut ∈ markCuts, ¬ cut.2 <+: s ∧ ¬ s <+: cut.2

instance (s : List Char) : Decidable (EndsClear s) :=
  inferInstanceAs (Decidable (∀ cut ∈ markCuts, ¬ cut.1 <:+ s ∧ ¬ s <:+ cut.1))

instance (s : List Char) : Decidable (StartsClear s) :=
  inferInstanceAs (Decidable (∀ cut ∈ markCuts, ¬ cut.2 <+: s ∧ ¬ s <+: cut.2))

/-- A separator or a tag that no mark reaches into or out of, on either side. -/
structure Clear (s : List Char) : Prop where
  undangled : Undangled s
  starts : StartsClear s
  ends : EndsClear s

instance (s : List Char) : Decidable (Clear s) :=
  decidable_of_iff (Undangled s ∧ StartsClear s ∧ EndsClear s)
    ⟨fun ⟨h₁, h₂, h₃⟩ => ⟨h₁, h₂, h₃⟩, fun ⟨h₁, h₂, h₃⟩ => ⟨h₁, h₂, h₃⟩⟩

theorem EndsClear.not_crosses {s : List Char} (hs : EndsClear s) (a b : List Char) :
    ¬ Crosses (a ++ s) b := by
  rintro ⟨cut, hcut, hp, -⟩
  rcases List.suffix_or_suffix_of_suffix hp (List.suffix_append a s) with h | h
  · exact (hs cut hcut).1 h
  · exact (hs cut hcut).2 h

theorem StartsClear.not_crosses {s : List Char} (hs : StartsClear s) (a b : List Char) :
    ¬ Crosses a (s ++ b) := by
  rintro ⟨cut, hcut, -, hq⟩
  rcases List.prefix_or_prefix_of_prefix hq (List.prefix_append s b) with h | h
  · exact (hs cut hcut).1 h
  · exact (hs cut hcut).2 h

theorem endsClear_singleton {c : Char} (hc : endsMark c = false) : EndsClear [c] := by
  have hheads : ∀ cut ∈ markCuts, cut.1.getLast?.all endsMark = true := by decide
  rintro ⟨p, q⟩ hcut
  obtain ⟨p', d, rfl⟩ := (List.eq_nil_or_concat p).resolve_left (markCuts_spec _ hcut).2.1
  have hd : endsMark d = true := by simpa using hheads _ hcut
  have hdc : d ≠ c := fun h => by rw [h, hc] at hd; cases hd
  constructor
  · intro h
    have := List.reverse_prefix.mpr h
    simp at this
    exact hdc this.1
  · intro h
    have := List.reverse_prefix.mpr h
    simp at this
    exact hdc this.symm

theorem startsClear_singleton {c : Char} (hc : startsMark c = false) : StartsClear [c] := by
  have htails : ∀ cut ∈ markCuts, cut.2.head?.all startsMark = true := by decide
  rintro ⟨p, q⟩ hcut
  obtain ⟨d, q', rfl⟩ := List.exists_cons_of_ne_nil (markCuts_spec _ hcut).2.2
  have hd : startsMark d = true := by simpa using htails _ hcut
  have hdc : d ≠ c := fun h => by rw [h, hc] at hd; cases hd
  constructor
  · intro h
    simp at h
    exact hdc h.1
  · intro h
    simp at h
    exact hdc h.symm

theorem not_crosses_of_getLast {a b : List Char} {c : Char} (ha : a.getLast? = some c)
    (hc : endsMark c = false) : ¬ Crosses a b := by
  obtain ⟨a', rfl⟩ : ∃ a', a = a' ++ [c] := by
    obtain ⟨a', d, rfl⟩ := (List.eq_nil_or_concat a).resolve_left (by rintro rfl; cases ha)
    exact ⟨a', by simp_all⟩
  exact (endsClear_singleton hc).not_crosses a' b

/-! ## What may stand next to a separator -/

/-- Text that can follow a comma and a space, or an opening parenthesis, without completing a
mark there. -/
def Leads (b : List Char) : Prop := ¬ Crosses [',', ' '] b ∧ ¬ Crosses ['('] b

/-- Text that can precede a space and an opening parenthesis, or a closing parenthesis, without
starting a mark there. -/
def Trails (a : List Char) : Prop := ¬ Crosses a [' ', '('] ∧ ¬ Crosses a [')']

theorem leads_iff {b : List Char} :
    Leads b ↔ ¬ ['.'] <+: b ∧ ¬ ['('] <+: b ∧ ¬ [' ', '('] <+: b ∧ ¬ [')'] <+: b := by
  simp [Leads, Crosses, markCuts, List.suffix_cons_iff, and_assoc]

theorem trails_iff {a : List Char} :
    Trails a ↔ ¬ [','] <:+ a ∧ ¬ [',', ' '] <:+ a ∧ ¬ ['('] <:+ a := by
  simp [Trails, Crosses, markCuts, and_assoc]

theorem Leads.nil : Leads [] := ⟨not_crosses_nil_right, not_crosses_nil_right⟩

theorem Trails.nil : Trails [] := ⟨not_crosses_nil_left, not_crosses_nil_left⟩

theorem trails_of_getLast {a : List Char} (h : ∀ c ∈ a.getLast?, endsMark c = false) :
    Trails a := by
  rcases List.eq_nil_or_concat a with rfl | ⟨a', c, rfl⟩
  · exact Trails.nil
  · have hc := h c (by simp)
    exact ⟨not_crosses_of_getLast (by simp) hc, not_crosses_of_getLast (by simp) hc⟩

/-! ## Solid text

A head of a mark ends with spaces only after its comma or parenthesis. So text with a character
other than a space cannot lie inside a head without holding the whole head. -/

theorem markCuts_heads_solid : ∀ cut ∈ markCuts, ∀ s ∈ cut.1.tails, s.any (· != ' ') = true →
    s = cut.1 := by
  decide

theorem Crosses.of_append_left_solid {a b c : List Char} (h : Crosses (a ++ b) c)
    (hb : ∃ x ∈ b, x ≠ ' ') : Crosses b c := by
  obtain ⟨⟨p, q⟩, hcut, hp, hq⟩ := h
  rcases List.suffix_or_suffix_of_suffix hp (List.suffix_append a b) with hpb | hbp
  · exact ⟨(p, q), hcut, hpb, hq⟩
  · have hsolid : b.any (· != ' ') = true := by simpa using hb
    have hbp : b = p := markCuts_heads_solid _ hcut b ((List.mem_tails b p).mpr hbp) hsolid
    exact ⟨(p, q), hcut, hbp ▸ List.suffix_refl b, hq⟩

/-! ## Junctions at separators -/

theorem Leads.not_crosses_comma {b : List Char} (h : Leads b) (a : List Char) :
    ¬ Crosses (a ++ [',', ' ']) b := fun hc =>
  h.1 (hc.of_append_left_solid ⟨',', by simp, by decide⟩)

theorem Leads.not_crosses_open {b : List Char} (h : Leads b) (a : List Char) :
    ¬ Crosses (a ++ ['(']) b := fun hc =>
  h.2 (hc.of_append_left_solid ⟨'(', by simp, by decide⟩)

theorem Trails.not_crosses {a b : List Char} (h : Trails a) (hb : ¬ ['('] <+: b) :
    ¬ Crosses a b := by
  have hcuts : ∀ cut ∈ markCuts, cut.2 = ['('] ∨ (cut.1, [' ', '(']) ∈ markCuts ∨
      (cut.1, [')']) ∈ markCuts := by
    decide
  rintro ⟨⟨p, q⟩, hcut, hp, hq⟩
  rcases hcuts _ hcut with hq' | hsp | hcl
  · exact hb (hq' ▸ hq)
  · exact h.1 ⟨_, hsp, hp, List.prefix_refl _⟩
  · exact h.2 ⟨_, hcl, hp, List.prefix_refl _⟩

theorem Trails.not_crosses_space {a : List Char} (h : Trails a) (b : List Char) :
    ¬ Crosses (a ++ [' ']) b := by
  have hcuts : ∀ cut ∈ markCuts, cut.1.getLast? = some ' ' →
      (cut.1.dropLast, [' ', '(']) ∈ markCuts := by
    decide
  rintro ⟨⟨p, q⟩, hcut, hp, -⟩
  obtain ⟨p', x, rfl⟩ := (List.eq_nil_or_concat p).resolve_left (markCuts_spec _ hcut).2.1
  -- the head ends with the space, and the rest of it ends `a`
  have hrev := List.reverse_prefix.mpr hp
  simp only [List.concat_eq_append, List.reverse_append, List.reverse_cons, List.reverse_nil,
    List.nil_append, List.singleton_append, List.cons_prefix_cons] at hrev
  obtain ⟨rfl, hp'⟩ := hrev
  have hsp := hcuts _ hcut (by simp)
  simp only [List.concat_eq_append, List.dropLast_concat] at hsp
  exact h.1 ⟨_, hsp, List.reverse_prefix.mp hp', List.prefix_refl _⟩

theorem not_crosses_space_right {a : List Char} : ¬ Crosses a [' '] := by
  have htails : ∀ cut ∈ markCuts, ¬ cut.2 <+: [' '] := by decide
  rintro ⟨cut, hcut, -, hq⟩
  exact htails cut hcut hq

theorem leads_append_of_startsClear {a s : List Char} (ha : Leads a) (hs : StartsClear s)
    (b : List Char) : Leads (a ++ (s ++ b)) := by
  constructor <;> intro hc <;> rcases hc.of_append_right with hc | hc
  · exact ha.1 hc
  · exact hs.not_crosses _ b hc
  · exact ha.2 hc
  · exact hs.not_crosses _ b hc

theorem Leads.append {a b : List Char} (ha : Leads a) (hne : a ≠ []) (hb : ¬ ['('] <+: b) :
    Leads (a ++ b) := by
  obtain ⟨c, a, rfl⟩ := List.exists_cons_of_ne_nil hne
  rw [leads_iff] at ha ⊢
  obtain ⟨hdot, hopen, hspace, hclose⟩ := ha
  refine ⟨by simpa using hdot, by simpa using hopen, ?_, by simpa using hclose⟩
  -- a space and a parenthesis at the start lie in `c :: a`, or `c :: a` is the space
  intro h
  rcases a with _ | ⟨d, a⟩
  · simp only [List.cons_append, List.nil_append, List.cons_prefix_cons] at h hspace
    exact hb h.2
  · simp only [List.cons_append, List.cons_prefix_cons, List.nil_prefix, and_true] at h hspace
    exact hspace h

theorem Trails.append {a b : List Char} (hb : Trails b) (hne : b ≠ []) (ha : ¬ [','] <:+ a) :
    Trails (a ++ b) := by
  rw [trails_iff] at hb ⊢
  obtain ⟨hcomma, hsep, hopen⟩ := hb
  -- an end of one or two characters lies in `b`, or `b` is a single space after the comma
  have hin : ∀ s, s <:+ a ++ b → s <:+ b ∨ s.tails.contains b := fun s h =>
    (List.suffix_or_suffix_of_suffix h (List.suffix_append a b)).imp_right fun h' => by
      simpa using (List.mem_tails b s).mpr h'
  refine ⟨fun h => ?_, fun h => ?_, fun h => ?_⟩
  · rcases hin _ h with h | h
    · exact hcomma h
    · simp only [List.tails, List.contains_cons, List.contains_nil, beq_iff_eq, Bool.or_false,
        Bool.or_eq_true] at h
      rcases h with rfl | rfl
      · exact hcomma (List.suffix_refl _)
      · exact hne rfl
  · rcases hin _ h with h | h
    · exact hsep h
    · simp only [List.tails, List.contains_cons, List.contains_nil, beq_iff_eq, Bool.or_false,
        Bool.or_eq_true] at h
      rcases h with rfl | rfl | rfl
      · exact hsep (List.suffix_refl _)
      · change [','] ++ [' '] <:+ a ++ [' '] at h
        exact ha (List.suffix_append_self_iff.mp h)
      · exact hne rfl
  · rcases hin _ h with h | h
    · exact hopen h
    · simp only [List.tails, List.contains_cons, List.contains_nil, beq_iff_eq, Bool.or_false,
        Bool.or_eq_true] at h
      rcases h with rfl | rfl
      · exact hopen (List.suffix_refl _)
      · exact hne rfl

/-! ## Sealed pieces -/

/-- A piece with no dangling mark that can stand after a comma and a space or an opening
parenthesis, and before a space and an opening parenthesis or a closing one. -/
structure Sealed (cs : List Char) : Prop where
  undangled : Undangled cs
  leads : Leads cs
  trails : Trails cs

theorem Sealed.nil : Sealed [] := ⟨undangled_nil, Leads.nil, Trails.nil⟩

theorem not_comma_suffix_of_getLast {a : List Char} {c : Char} (h : a.getLast? = some c)
    (hc : c ≠ ',') : ¬ [','] <:+ a := by
  rw [List.singleton_suffix_iff_getLast?_eq_some, h]
  simpa using hc

theorem intercalate_cons_ne_nil (sep : List Char) {q : List Char} (hq : q ≠ [])
    (ps : List (List Char)) : sep.intercalate (q :: ps) ≠ [] := by
  cases ps with
  | nil => simpa using hq
  | cons p ps => simp [List.intercalate_cons_cons, hq]

/-- Two pieces joined by a comma and a space. -/
theorem Sealed.comma {a b : List Char} (ha : Sealed a) (hb : Sealed b) (hne : b ≠ []) :
    Sealed (a ++ [',', ' '] ++ b) := by
  have hsep : Undangled (a ++ [',', ' ']) :=
    undangled_append ha.undangled (by decide) ((startsClear_singleton (by decide)).not_crosses a
      [' '])
  refine ⟨undangled_append hsep hb.undangled (hb.leads.not_crosses_comma a), ?_, ?_⟩
  · rw [List.append_assoc]
    exact leads_append_of_startsClear ha.leads (startsClear_singleton (c := ',') (by decide))
      (' ' :: b)
  · exact hb.trails.append hne (not_comma_suffix_of_getLast (c := ' ') (by simp) (by decide))

/-- Two nonempty pieces joined by a space; the second need not lead, as nothing but a space
comes before it. -/
theorem Sealed.space {a b : List Char} (ha : Sealed a) (hb : Undangled b) (htb : Trails b)
    (ha' : a ≠ []) (hb' : b ≠ []) : Sealed (a ++ [' '] ++ b) := by
  have hsep : Undangled (a ++ [' ']) :=
    undangled_append ha.undangled (by decide) not_crosses_space_right
  refine ⟨undangled_append hsep hb (ha.trails.not_crosses_space b), ?_, ?_⟩
  · rw [List.append_assoc]
    exact ha.leads.append ha' (by simp)
  · exact htb.append hb' (not_comma_suffix_of_getLast (c := ' ') (by simp) (by decide))

theorem Sealed.commaJoin : ∀ (ps : List (List Char)), (∀ p ∈ ps, Sealed p ∧ p ≠ []) →
    Sealed ([',', ' '].intercalate ps)
  | [], _ => Sealed.nil
  | [p], h => by simpa using (h p (by simp)).1
  | p :: q :: ps, h => by
    have hq := h q (by simp)
    rw [List.intercalate_cons_cons]
    exact (h p (by simp)).1.comma (Sealed.commaJoin (q :: ps) fun x hx => h x (by simp_all))
      (intercalate_cons_ne_nil _ hq.2 ps)

theorem Sealed.spaceJoin_cons : ∀ {p : List Char} (ps : List (List Char)), Sealed p → p ≠ [] →
    (∀ q ∈ ps, Undangled q ∧ Trails q ∧ q ≠ []) → Sealed ([' '].intercalate (p :: ps))
  | _, [], hp, _, _ => by simpa using hp
  | p, q :: ps, hp, hne, h => by
    have hq := h q List.mem_cons_self
    -- the first two pieces make one sealed piece, which leads the rest
    have hjoin : [' '].intercalate (p :: q :: ps) =
        [' '].intercalate ((p ++ [' '] ++ q) :: ps) := by
      cases ps <;> simp [List.intercalate_cons_cons]
    rw [hjoin]
    exact Sealed.spaceJoin_cons ps (hp.space hq.1 hq.2.1 hne hq.2.2) (by simp)
      fun r hr => h r (List.mem_cons_of_mem q hr)

theorem Sealed.spaceJoin : ∀ (ps : List (List Char)), (∀ p ∈ ps, Sealed p ∧ p ≠ []) →
    Sealed ([' '].intercalate ps)
  | [], _ => Sealed.nil
  | p :: ps, h =>
    Sealed.spaceJoin_cons ps (h p List.mem_cons_self).1 (h p List.mem_cons_self).2 fun q hq =>
      have hq' := h q (List.mem_cons_of_mem p hq)
      ⟨hq'.1.undangled, hq'.1.trails, hq'.2⟩

theorem undangled_paren {a x : List Char} (ha : Undangled a) (hta : Trails a) (hx : Sealed x)
    (hne : x ≠ []) : Undangled (a ++ [' ', '('] ++ x ++ [')']) := by
  have hopen : Undangled (a ++ [' ', '(']) := undangled_append ha (by decide) hta.1
  have hinner : Undangled (a ++ [' ', '('] ++ x) := by
    refine undangled_append hopen hx.undangled ?_
    simpa using hx.leads.not_crosses_open (a ++ [' '])
  refine undangled_append hinner (by decide) ((hx.trails.append hne ?_).not_crosses (by simp))
  exact not_comma_suffix_of_getLast (c := '(') (by simp) (by decide)

theorem trails_paren (a x : List Char) : Trails (a ++ [' ', '('] ++ x ++ [')']) := by
  apply trails_of_getLast
  rw [List.getLast?_append_of_ne_nil _ (List.cons_ne_nil _ _), List.getLast?_singleton]
  intro c hc
  cases Option.some.inj hc
  rfl

theorem undangled_period {a : List Char} (ha : Undangled a) (hta : Trails a) :
    Undangled (a ++ ['.']) :=
  undangled_append ha (by decide) (hta.not_crosses (by simp))

end Citations.Text

namespace Citations.Legal

open Citations.Text

/-! ## Abbreviation -/

theorem fitSpelling_suffix : ∀ {gs : List Glyph} {cs rest : List Char} {l l' : Option Char},
    fitSpelling gs cs l = some (rest, l') → rest <:+ cs
  | [], cs, rest, l, l', h => by
    simp only [fitSpelling, Option.some.injEq, Prod.mk.injEq] at h
    rw [h.1]
  | _ :: _, [], _, _, _, h => by simp [fitSpelling] at h
  | g :: gs, c :: cs, rest, _, _, h => by
    simp only [fitSpelling] at h
    split at h
    · exact (fitSpelling_suffix h).trans (List.suffix_cons c cs)
    · cases h

theorem matchWord_suffix {spells : List (List Glyph)} {prev : Option Char} {cs rest : List Char}
    {last : Char} (h : matchWord spells prev cs = some (rest, last)) : rest <:+ cs := by
  unfold matchWord at h
  split at h
  · obtain ⟨g, _, hg⟩ := List.exists_of_findSome?_eq_some h
    split at hg
    · rename_i rest' last' hfit
      split at hg
      · simp only [Option.some.injEq, Prod.mk.injEq] at hg
        obtain ⟨rfl, rfl⟩ := hg
        exact fitSpelling_suffix hfit
      · cases hg
    · cases hg
  · cases h

section Replace

variable {spells : List (List Glyph)} {rep : List Char}

theorem replaceWords_of_match {prev : Option Char} {c : Char} {rest more : List Char}
    {last : Char} (h : matchWord spells prev (c :: rest) = some (more, last)) :
    replaceWords spells rep prev (c :: rest) = rep ++ replaceWords spells rep (some last) more := by
  rw [replaceWords]
  split <;> simp_all

theorem replaceWords_of_no_match {prev : Option Char} {c : Char} {rest : List Char}
    (h : matchWord spells prev (c :: rest) = none) :
    replaceWords spells rep prev (c :: rest) = c :: replaceWords spells rep (some c) rest := by
  rw [replaceWords]
  split <;> simp_all

@[simp] theorem replaceWords_nil (prev : Option Char) : replaceWords spells rep prev [] = [] := by
  rw [replaceWords]

theorem replaceWords_eq_or_isInfix (prev : Option Char) (cs : List Char) :
    replaceWords spells rep prev cs = cs ∨ rep <:+: replaceWords spells rep prev cs := by
  induction prev, cs using replaceWords.induct spells with
  | case1 prev => exact .inl (replaceWords_nil prev)
  | case2 prev c rest more last hmatch _ =>
    rw [replaceWords_of_match hmatch]
    exact .inr (List.prefix_append rep _).isInfix
  | case3 prev c rest hmatch ih =>
    rw [replaceWords_of_no_match hmatch]
    rcases ih with h | h
    · exact .inl (by rw [h])
    · exact .inr (h.trans (List.suffix_cons c _).isInfix)

/-- An abbreviation that no mark reaches into: undangled, starting with a character no tail of a
mark starts with, and ending with one no head of a mark ends with. -/
structure CleanRep (rep : List Char) : Prop where
  undangled : Undangled rep
  head : ∃ c, rep.head? = some c ∧ startsMark c = false
  last : ∃ c, rep.getLast? = some c ∧ endsMark c = false

theorem CleanRep.not_crosses_into (h : CleanRep rep) (a b : List Char) :
    ¬ Crosses a (rep ++ b) := by
  obtain ⟨c, hc, hs⟩ := h.head
  obtain ⟨r, rfl⟩ := List.head?_eq_some_iff.mp hc
  exact (startsClear_singleton hs).not_crosses a (r ++ b)

theorem CleanRep.not_crosses_out (h : CleanRep rep) (a b : List Char) :
    ¬ Crosses (a ++ rep) b := by
  obtain ⟨c, hc, hs⟩ := h.last
  obtain ⟨r, rfl⟩ := List.getLast?_eq_some_iff.mp hc
  rw [← List.append_assoc]
  exact (endsClear_singleton hs).not_crosses (a ++ r) b

theorem CleanRep.solid (h : CleanRep rep) : ∃ x ∈ rep, x ≠ ' ' := by
  obtain ⟨c, hc, hs⟩ := h.head
  refine ⟨c, List.mem_of_head? hc, fun hsp => ?_⟩
  rw [hsp] at hs
  cases hs

variable (hrep : CleanRep rep)
include hrep

theorem crosses_replaceWords_left (prev : Option Char) (cs : List Char) {L : List Char}
    (hcs : Undangled cs) (h : Crosses L (replaceWords spells rep prev cs)) : Crosses L cs := by
  induction prev, cs using replaceWords.induct spells generalizing L with
  | case1 prev => exact absurd h (by simpa using not_crosses_nil_right)
  | case2 prev c rest more last hmatch _ =>
    rw [replaceWords_of_match hmatch] at h
    rcases h.of_append_right with h | h
    · exact absurd h (by simpa using hrep.not_crosses_into L [])
    · exact absurd h (hrep.not_crosses_out L _)
  | case3 prev c rest hmatch ih =>
    rw [replaceWords_of_no_match hmatch] at h
    rcases (show Crosses L ([c] ++ _) from h).of_append_right with h | h
    · exact h.mono_right (by simp)
    -- the character kept joins `L`: the mark crossed into the rest, and did not start at `c`
    · have hrest := ih (undangled_of_isInfix hcs (List.suffix_cons c rest).isInfix) h
      rcases hrest.of_append_left with h | h
      · exact absurd h (not_crosses_of_undangled hcs)
      · exact h

theorem crosses_replaceWords_right (prev : Option Char) (cs : List Char) {R : List Char}
    (h : Crosses (replaceWords spells rep prev cs) R) : Crosses cs R := by
  induction prev, cs using replaceWords.induct spells with
  | case1 prev => exact absurd h (by simpa using not_crosses_nil_left)
  | case2 prev c rest more last hmatch ih =>
    rw [replaceWords_of_match hmatch] at h
    rcases h.of_append_left with h | h
    · exact (ih h).mono_left (matchWord_suffix hmatch)
    · exact absurd h (by simpa using hrep.not_crosses_out [] _)
  | case3 prev c rest hmatch ih =>
    rw [replaceWords_of_no_match hmatch] at h
    -- either nothing was replaced, or the rest holds the abbreviation and is no run of spaces
    rcases @replaceWords_eq_or_isInfix spells rep (some c) rest with heq | hinf
    · rwa [heq] at h
    · obtain ⟨x, hx, hsp⟩ := hrep.solid
      have h := (show Crosses ([c] ++ _) R from h).of_append_left_solid ⟨x, hinf.subset hx, hsp⟩
      exact (ih h).mono_left (List.suffix_cons c rest)

theorem undangled_replaceWords (prev : Option Char) (cs : List Char) (hcs : Undangled cs) :
    Undangled (replaceWords spells rep prev cs) := by
  induction prev, cs using replaceWords.induct spells with
  | case1 prev => simpa using undangled_nil
  | case2 prev c rest more last hmatch ih =>
    rw [replaceWords_of_match hmatch]
    refine undangled_append hrep.undangled
      (ih (undangled_of_isInfix hcs (matchWord_suffix hmatch).isInfix)) ?_
    simpa using hrep.not_crosses_out [] _
  | case3 prev c rest hmatch ih =>
    rw [replaceWords_of_no_match hmatch]
    have hrest := undangled_of_isInfix hcs (List.suffix_cons c rest).isInfix
    refine undangled_append (undangled_singleton c) (ih hrest) fun h => ?_
    exact not_crosses_of_undangled hcs (crosses_replaceWords_left hrep (some c) rest hrest h)

theorem sealed_replaceWords (prev : Option Char) {cs : List Char} (hcs : Sealed cs) :
    Sealed (replaceWords spells rep prev cs) :=
  ⟨undangled_replaceWords hrep prev cs hcs.undangled,
    ⟨fun h => hcs.leads.1 (crosses_replaceWords_left hrep prev cs hcs.undangled h),
      fun h => hcs.leads.2 (crosses_replaceWords_left hrep prev cs hcs.undangled h)⟩,
    ⟨fun h => hcs.trails.1 (crosses_replaceWords_right hrep prev cs h),
      fun h => hcs.trails.2 (crosses_replaceWords_right hrep prev cs h)⟩⟩

theorem replaceWords_ne_nil (prev : Option Char) {cs : List Char} (hcs : cs ≠ []) :
    replaceWords spells rep prev cs ≠ [] := by
  rcases @replaceWords_eq_or_isInfix spells rep prev cs with h | h
  · rwa [h]
  · obtain ⟨x, hx, -⟩ := hrep.solid
    exact List.ne_nil_of_mem (h.subset hx)

end Replace

/-- A table whose abbreviations are all clean. -/
def Table.Clean (t : Table) : Prop := ∀ e ∈ t.entries, CleanRep e.2

/-- The check of a clean abbreviation, run over the tables. -/
def cleanRep (rep : List Char) : Bool :=
  !rep.contains ',' && !decide (['(', ')'] <:+: rep) && rep.head?.any (!startsMark ·) &&
    rep.getLast?.any (!endsMark ·)

theorem CleanRep.of_check {rep : List Char} (h : cleanRep rep = true) : CleanRep rep := by
  simp only [cleanRep, Bool.and_eq_true, Bool.not_eq_eq_eq_not, Bool.not_true,
    List.contains_eq_mem, decide_eq_false_iff_not, Option.any_eq_true] at h
  obtain ⟨⟨⟨hcomma, hempty⟩, hhead⟩, hlast⟩ := h
  exact ⟨undangled_of_no_comma hcomma hempty, hhead, hlast⟩

theorem Table.clean_ofPatterns {entries : List (String × String)}
    (h : entries.all (fun e => cleanRep e.2.toList) = true) : (Table.ofPatterns entries).Clean := by
  intro e he
  simp only [Table.ofPatterns, List.mem_map] at he
  obtain ⟨⟨p, a⟩, hmem, rfl⟩ := he
  exact CleanRep.of_check (List.all_eq_true.mp h _ hmem)

/-- Applying a clean table keeps a sealed text sealed. -/
theorem Table.sealed_apply {t : Table} (ht : t.Clean) {text : String} (h : Sealed text.toList) :
    Sealed (t.apply text).toList := by
  rw [Table.apply, String.toList_ofList]
  obtain ⟨es⟩ := t
  -- entry after entry, on whatever the entries before left
  generalize text.toList = cs at h
  induction es generalizing cs with
  | nil => exact h
  | cons e es ih =>
    exact ih (fun x hx => ht x (List.mem_cons_of_mem e hx)) _
      (sealed_replaceWords (ht e List.mem_cons_self) none h)

theorem Table.apply_ne_empty {t : Table} (ht : t.Clean) {text : String} (h : text ≠ "") :
    t.apply text ≠ "" := by
  rw [Ne, Table.apply, ← String.toList_inj, String.toList_ofList, String.toList_empty]
  have hne : text.toList ≠ [] := by simpa using h
  obtain ⟨es⟩ := t
  generalize text.toList = cs at hne
  induction es generalizing cs with
  | nil => exact hne
  | cons e es ih =>
    exact ih (fun x hx => ht x (List.mem_cons_of_mem e hx)) _
      (replaceWords_ne_nil (ht e List.mem_cons_self) none hne)

theorem caseNameTable_clean : caseNameTable.Clean := Table.clean_ofPatterns (by decide +kernel)

theorem geographicalTable_clean : geographicalTable.Clean :=
  Table.clean_ofPatterns (by decide +kernel)

theorem periodicalTable_clean : periodicalTable.Clean := Table.clean_ofPatterns (by decide +kernel)

theorem monthTable_clean : monthTable.Clean := Table.clean_ofPatterns (by decide +kernel)

theorem sealed_abbreviateName {text : String} (h : Sealed text.toList) :
    Sealed (abbreviateName text).toList :=
  Table.sealed_apply geographicalTable_clean (Table.sealed_apply caseNameTable_clean h)

theorem sealed_abbreviatePeriodicalTitle {text : String} (h : Sealed text.toList) :
    Sealed (abbreviatePeriodicalTitle text).toList :=
  Table.sealed_apply geographicalTable_clean
    (Table.sealed_apply caseNameTable_clean (Table.sealed_apply periodicalTable_clean h))

theorem abbreviatePeriodicalTitle_ne_empty {text : String} (h : text ≠ "") :
    abbreviatePeriodicalTitle text ≠ "" :=
  Table.apply_ne_empty geographicalTable_clean
    (Table.apply_ne_empty caseNameTable_clean (Table.apply_ne_empty periodicalTable_clean h))

end Citations.Legal

namespace Citations.Text

open Citations.Unicode Citations.Legal

/-! ## Names in reading order -/

theorem mem_of_mem_words {s w : String} (hw : w ∈ words s) {c : Char} (hc : c ∈ w.toList) :
    c ∈ s.toList := by
  rw [words_eq_runsOf, List.mem_map] at hw
  obtain ⟨r, hr, rfl⟩ := hw
  rw [String.toList_ofList] at hc
  rw [runsOf, List.mem_filter] at hr
  exact (mem_of_mem_splitOnP hr.1 c hc).1

theorem mem_intercalate_words {s : String} {c : Char}
    (h : c ∈ (" ".intercalate (words s)).toList) : c ∈ s.toList ∨ c = ' ' := by
  rw [String.toList_intercalate] at h
  rcases Style.Ris.mem_intercalate h with h | ⟨w, hw, hc⟩
  · exact .inr (by simpa using h)
  · obtain ⟨w, hw', rfl⟩ := List.mem_map.mp hw
    exact .inl (mem_of_mem_words hw' hc)

theorem runsOf_cons_of_not_break {p : Char → Bool} {c : Char} (hc : p c = false)
    (rest : List Char) : ∃ w ws, runsOf p (c :: rest) = (c :: w) :: ws := by
  cases rest with
  | nil => exact ⟨[], [], runsOf_of_no_break (List.cons_ne_nil c []) (by simpa using hc)⟩
  | cons d rest =>
    cases hd : p d with
    | true =>
      exact ⟨[], _, runsOf_cons_of_head_break hc (by simp [hd])⟩
    | false =>
      obtain ⟨w, ws, -, h⟩ := runsOf_cons_cons hc hd rest
      exact ⟨d :: w, ws, h⟩

theorem head?_intercalate_words {s : String} {c : Char} (hs : s.toList.head? = some c)
    (hc : isBlank c = false) : (" ".intercalate (words s)).toList.head? = some c := by
  obtain ⟨rest, hrest⟩ := List.head?_eq_some_iff.mp hs
  obtain ⟨w, ws, hruns⟩ := runsOf_cons_of_not_break hc rest
  rw [String.toList_intercalate, words_eq_runsOf, hrest, hruns]
  cases ws <;> simp [List.intercalate_cons_cons]

theorem trimChars_ends (cs : List Char) :
    (∀ c ∈ (trimChars cs).head?, isBlank c = false) ∧
      ∀ c ∈ (trimChars cs).getLast?, isBlank c = false := by
  rw [trimChars, trimRightChars_eq_rdropWhile]
  constructor
  · intro c hc
    obtain ⟨t, ht⟩ := List.rdropWhile_prefix isBlank (cs.dropWhile isBlank)
    have hne : cs.dropWhile isBlank ≠ [] := by
      intro h
      rw [h] at ht
      simp_all
    have hhead : (cs.dropWhile isBlank).head? = some c := by
      rw [← ht, List.head?_append, hc]
      rfl
    rw [List.head?_eq_some_head hne, Option.some.injEq] at hhead
    rw [← hhead]
    exact List.head_dropWhile_not isBlank hne
  · intro c hc
    have hne : (cs.dropWhile isBlank).rdropWhile isBlank ≠ [] := by
      rintro h
      rw [h] at hc
      cases hc
    rw [List.getLast?_eq_some_getLast hne, Option.mem_some_iff] at hc
    rw [← hc]
    simpa using List.rdropWhile_last_not isBlank _ hne

theorem nameParts_spec {name part : String} (h : part ∈ nameParts name) :
    part.toList ≠ [] ∧ (∀ c ∈ part.toList, c ∈ name.toList ∧ c ≠ ',') ∧
      (∀ c ∈ part.toList.head?, isBlank c = false) ∧
        ∀ c ∈ part.toList.getLast?, isBlank c = false := by
  rw [nameParts_eq, List.mem_filter, List.mem_map] at h
  obtain ⟨⟨piece, hpiece, rfl⟩, hne⟩ := h
  simp only [Function.comp_apply, toList_trim, String.toList_ofList]
  refine ⟨by simpa using hne, fun c hc => ?_, (trimChars_ends piece).1, (trimChars_ends piece).2⟩
  exact mem_splitOn_iff.mp ⟨piece, hpiece, (trimChars_isInfix piece).subset hc⟩

/-- A piece that reading order writes between commas: characters of the name other than commas
and spaces, starting where one of the name's comma parts starts. -/
structure NamePiece (name : String) (p : List Char) : Prop where
  ne_nil : p ≠ []
  chars : ∀ c ∈ p, (c ∈ name.toList ∧ c ≠ ',') ∨ c = ' '
  start : ∃ part ∈ nameParts name, p.head? = part.toList.head?

theorem NamePiece.of_part {name part : String} (h : part ∈ nameParts name) :
    NamePiece name part.toList :=
  ⟨(nameParts_spec h).1, fun c hc => .inl ((nameParts_spec h).2.1 c hc), part, h, rfl⟩

theorem NamePiece.of_parts {name a b : String} (ha : a ∈ nameParts name)
    (hb : b ∈ nameParts name) : NamePiece name (a ++ " " ++ b).toList := by
  refine ⟨by simp [(nameParts_spec ha).1], fun c hc => ?_, a, ha, ?_⟩
  · simp only [String.toList_append, List.mem_append] at hc
    rcases hc with (hc | hc) | hc
    · exact .inl ((nameParts_spec ha).2.1 c hc)
    · exact .inr (by simpa using hc)
    · exact .inl ((nameParts_spec hb).2.1 c hc)
  · simp only [String.toList_append, List.append_assoc]
    exact List.head?_append_of_ne_nil _ (nameParts_spec ha).1

/-- A name's pieces carry no dangling mark when the name has no parenthesis and no part starts
with a period. -/
theorem NamePiece.sealed {name : String} {p : List Char} (hp : NamePiece name p)
    (hopen : '(' ∉ name.toList) (hclose : ')' ∉ name.toList)
    (hdot : ∀ part ∈ nameParts name, part.toList.head? ≠ some '.') : Sealed p := by
  have hcomma : ',' ∉ p := fun h => by
    rcases hp.chars ',' h with ⟨-, h⟩ | h
    · exact h rfl
    · cases h
  have hnot : ∀ x, x ∉ name.toList → x ≠ ' ' → x ∉ p := fun x hx hsp h => by
    rcases hp.chars x h with ⟨h, -⟩ | h
    · exact hx h
    · exact hsp h
  have hopen' := hnot '(' hopen (by decide)
  have hclose' := hnot ')' hclose (by decide)
  have hhead : p.head? ≠ some '.' := by
    obtain ⟨part, hpart, hstart⟩ := hp.start
    rw [hstart]
    exact hdot part hpart
  refine ⟨undangled_of_no_comma hcomma fun h => hopen' (h.subset (by simp)), ?_, ?_⟩
  · rw [leads_iff]
    refine ⟨fun h => hhead ?_, fun h => hopen' (h.subset (by simp)),
      fun h => hopen' (h.subset (by simp)), fun h => hclose' (h.subset (by simp))⟩
    obtain ⟨t, rfl⟩ := h
    rfl
  · rw [trails_iff]
    exact ⟨fun h => hcomma (h.subset (by simp)), fun h => hcomma (h.subset (by simp)),
      fun h => hopen' (h.subset (by simp))⟩

theorem finish_eq (joined : String) (suffixes : List String) :
    readingOrder.finish joined suffixes = ", ".intercalate (trim joined :: suffixes) := by
  unfold readingOrder.finish
  cases suffixes with
  | nil => simp
  | cons s rest => simp [String.intercalate_cons_cons]

theorem head?_intercalate_cons (sep : String) {p : String} (hp : p.toList ≠ [])
    (ps : List String) : (sep.intercalate (p :: ps)).toList.head? = p.toList.head? := by
  cases ps with
  | nil => simp
  | cons q ps =>
    rw [String.intercalate_cons_cons, String.toList_append, String.toList_append, List.append_assoc,
      List.head?_append_of_ne_nil _ hp]

theorem intercalate_intercalate_cons (sep : String) {a : List String} (ha : a ≠ [])
    (b : List String) : sep.intercalate (sep.intercalate a :: b) = sep.intercalate (a ++ b) := by
  cases b with
  | nil => simp
  | cons x b => rw [String.intercalate_cons_cons, String.intercalate_append_of_ne_nil ha (by simp)]

theorem NamePiece.of_words {name part : String} (h : part ∈ nameParts name) :
    NamePiece name (" ".intercalate (words part)).toList := by
  obtain ⟨hne, hchars, hhead, -⟩ := nameParts_spec h
  obtain ⟨c, rest, hcr⟩ := List.exists_cons_of_ne_nil hne
  have hc : part.toList.head? = some c := by simp [hcr]
  have hstart := head?_intercalate_words hc (hhead c hc)
  refine ⟨fun h => by simp [h] at hstart, fun d hd => ?_, part, h, by rw [hstart, hc]⟩
  rcases mem_intercalate_words hd with hd | hd
  · exact .inl (hchars d hd)
  · exact .inr hd

theorem trim_given_surname {name surname : String} {given : List String} (hgiven : given ≠ [])
    (hgiv : ∀ g ∈ given, g ∈ nameParts name) (hsur : surname ∈ nameParts name) :
    trim (", ".intercalate given ++ " " ++ surname) = ", ".intercalate given ++ " " ++ surname := by
  obtain ⟨g, gs, hgs⟩ := List.exists_cons_of_ne_nil hgiven
  have hg := nameParts_spec (hgiv g (by simp [hgs]))
  have hs := nameParts_spec hsur
  have hhead : (", ".intercalate given).toList.head? = g.toList.head? := by
    rw [hgs]
    exact head?_intercalate_cons _ hg.1 gs
  have hjne : (", ".intercalate given).toList ≠ [] := fun h =>
    hg.1 (List.head?_eq_none_iff.mp (by rw [← hhead, h]; rfl))
  rw [trim, trimChars_eq_self_of_ends, String.ofList_toList]
  · rw [String.toList_append, String.toList_append, List.append_assoc,
      List.head?_append_of_ne_nil _ hjne, hhead]
    exact hg.2.2.1
  · rw [String.toList_append, List.getLast?_append_of_ne_nil _ hs.1]
    exact hs.2.2.2

theorem intercalate_concat_space (init : List String) (last surname : String) :
    ", ".intercalate (init ++ [last]) ++ " " ++ surname =
      ", ".intercalate (init ++ [last ++ " " ++ surname]) := by
  cases init with
  | nil => simp
  | cons i is =>
    rw [String.intercalate_append_of_ne_nil (by simp) (by simp),
      String.intercalate_append_of_ne_nil (by simp) (by simp)]
    simp [String.append_assoc]

/-- Reading order writes the comma parts of a name joined by commas; the given names and the
surname become one piece. -/
theorem readingOrder_pieces {name r : String} (hcorp : isCorporate (trim name) = false)
    (h : readingOrder name = some r) :
    ∃ ps : List String, r = ", ".intercalate ps ∧ ∀ p ∈ ps, NamePiece (trim name) p.toList := by
  simp only [readingOrder] at h
  split at h
  · rename_i hcond
    obtain rfl := Option.some.inj h
    have hempty : trim name = "" := by simpa [hcorp] using hcond
    exact ⟨[], by simp [hempty], by simp⟩
  have hsfx : ∀ s ∈ (nameParts (trim name)).drop (coreLength (nameParts (trim name))),
      NamePiece (trim name) s.toList := fun s hs => NamePiece.of_part (List.mem_of_mem_drop hs)
  have hcore : ∀ s ∈ (nameParts (trim name)).take (coreLength (nameParts (trim name))),
      s ∈ nameParts (trim name) := fun s hs => List.mem_of_mem_take hs
  split at h
  · cases h
  · -- one core part: its words, given names first, trim to the part's words
    rename_i only hcoreEq
    have honly : only ∈ nameParts (trim name) := hcore only (by rw [hcoreEq]; simp)
    obtain ⟨k, hk⟩ := splitName_eq only
    rw [hk, finish_eq, trim_join_cut (fun w hw => isWord_of_mem_words hw) k] at h
    obtain rfl := Option.some.inj h
    refine ⟨_, rfl, fun p hp => ?_⟩
    rcases List.mem_cons.mp hp with rfl | hp
    · exact NamePiece.of_words honly
    · exact hsfx p hp
  · -- the surname and given names: the given names keep their commas, the last one takes the
    -- surname after a space
    rename_i surname given hgiven hcoreEq
    have hsur : surname ∈ nameParts (trim name) := hcore surname (by rw [hcoreEq]; simp)
    have hgiv : ∀ g ∈ given, g ∈ nameParts (trim name) := fun g hg =>
      hcore g (by rw [hcoreEq]; simp [hg])
    obtain ⟨init, last, hlast⟩ := (List.eq_nil_or_concat given).resolve_left hgiven
    rw [List.concat_eq_append] at hlast
    rw [finish_eq, trim_given_surname hgiven hgiv hsur, hlast, intercalate_concat_space,
      intercalate_intercalate_cons _ (by simp)] at h
    obtain rfl := Option.some.inj h
    refine ⟨_, rfl, fun p hp => ?_⟩
    simp only [List.mem_append, List.mem_singleton] at hp
    rcases hp with (hp | rfl) | hp
    · exact NamePiece.of_part (hgiv p (by simp [hlast, hp]))
    · exact NamePiece.of_parts (hgiv last (by simp [hlast])) hsur
    · exact hsfx p hp

/-- A name that reads without a dangling mark: it has no parenthesis, and no comma part of the
trimmed name starts with a period. -/
structure PlainName (name : String) : Prop where
  no_open : '(' ∉ name.toList
  no_close : ')' ∉ name.toList
  parts : ∀ part ∈ nameParts (trim name), part.toList.head? ≠ some '.'

instance (name : String) : Decidable (PlainName name) :=
  decidable_of_iff ('(' ∉ name.toList ∧ ')' ∉ name.toList ∧
      ∀ part ∈ nameParts (trim name), part.toList.head? ≠ some '.')
    ⟨fun ⟨h₁, h₂, h₃⟩ => ⟨h₁, h₂, h₃⟩, fun ⟨h₁, h₂, h₃⟩ => ⟨h₁, h₂, h₃⟩⟩

/-- A plain name in reading order is sealed. -/
theorem PlainName.sealed_readingOrder {name r : String} (hn : PlainName name)
    (h : readingOrder name = some r) : Sealed r.toList := by
  have hsub : ∀ c ∈ (trim name).toList, c ∈ name.toList := fun c hc =>
    (trimChars_isInfix _).subset (by simpa using hc)
  have hopen : '(' ∉ (trim name).toList := fun h => hn.no_open (hsub _ h)
  have hclose : ')' ∉ (trim name).toList := fun h => hn.no_close (hsub _ h)
  have hcorp : isCorporate (trim name) = false := by
    simp only [isCorporate, Bool.or_eq_false_iff, List.contains_eq_mem, decide_eq_false_iff_not]
    exact ⟨hopen, hclose⟩
  obtain ⟨ps, rfl, hps⟩ := readingOrder_pieces hcorp h
  have hsep : ", ".toList = [',', ' '] := by simp
  rw [String.toList_intercalate, hsep]
  refine Sealed.commaJoin _ fun p hp => ?_
  obtain ⟨q, hq, rfl⟩ := List.mem_map.mp hp
  exact ⟨(hps q hq).sealed hopen hclose hn.parts, (hps q hq).ne_nil⟩

theorem trails_append_of_endsClear {b s : List Char} (hb : Trails b) (hs : EndsClear s)
    (a : List Char) : Trails (a ++ s ++ b) := by
  constructor <;> intro hc <;> rcases hc.of_append_left with hc | hc
  · exact hb.1 hc
  · exact hs.not_crosses a _ hc
  · exact hb.2 hc
  · exact hs.not_crosses a _ hc

/-- Two pieces joined by a separator that no mark reaches across. -/
theorem Sealed.clearJoin {a s b : List Char} (ha : Sealed a) (hb : Sealed b) (hs : Clear s) :
    Sealed (a ++ s ++ b) := by
  have has : Undangled (a ++ s) :=
    undangled_append ha.undangled hs.undangled (by simpa using hs.starts.not_crosses a [])
  refine ⟨undangled_append has hb.undangled (hs.ends.not_crosses a b), ?_,
    trails_append_of_endsClear hb.trails hs.ends a⟩
  rw [List.append_assoc]
  exact leads_append_of_startsClear ha.leads hs.starts b

end Citations.Text

namespace Citations.Style.Bluebook

open Citations.Text Citations.Legal

variable {names : List String} {r : String}

theorem sealed_buildName {name : String} (hn : PlainName name) (h : buildName name = .ok r) :
    Sealed r.toList := by
  unfold buildName at h
  obtain ⟨r0, hr0, hr⟩ := bind_eq_ok.mp h
  cases hr
  unfold orderName at hr0
  split at hr0
  · rename_i hread
    cases hr0
    exact sealed_abbreviateName (hn.sealed_readingOrder hread)
  · cases hr0

/-- Names joined by an ampersand or cut short by "et al." stay sealed. -/
theorem sealed_buildNames (hn : ∀ n ∈ names, PlainName n) (h : buildNames names = .ok r) :
    Sealed r.toList := by
  unfold buildNames at h
  split at h
  · cases h
    exact Sealed.nil
  · exact sealed_buildName (hn _ (by simp)) h
  · obtain ⟨a, ha, hr⟩ := bind_eq_ok.mp h
    obtain ⟨b, hb, hr⟩ := bind_eq_ok.mp hr
    cases hr
    have hsep : (a ++ " & " ++ b).toList = a.toList ++ [' ', '&', ' '] ++ b.toList := by simp
    rw [hsep]
    exact (sealed_buildName (hn _ (by simp)) ha).clearJoin (sealed_buildName (hn _ (by simp)) hb)
      (by decide)
  · obtain ⟨a, ha, hr⟩ := bind_eq_ok.mp h
    cases hr
    have hsep : (a ++ " et al.").toList = a.toList ++ " et al.".toList ++ [] := by simp
    rw [hsep]
    exact (sealed_buildName (hn _ (by simp)) ha).clearJoin Sealed.nil (by decide)

end Citations.Style.Bluebook
