import Mathlib
import Citations.Proofs.Names
import Citations.Service
import Citations.Markup.Document

/-!
# Where rendering can fail

Every function on the way from a citation to a style's text returns an `Except Fault`, and this
module says which faults each can return. The statements are Hoare triples over `Except`, whose
exception postcondition names the faults allowed; `mvcgen` splits a function's `do` block into
its paths, so the proofs only discharge what is left at each `throw`.

* A prose style fails only because a creator's name is made only of commas (`NameFault`):
  `Apa.format_spec`, `Mla.format_spec`, `Chicago.format_spec`, `Bluebook.format_spec`. A name is
  put in reading order or abbreviated by `orderName` and `initialsOf`, the only functions that
  fail, and the names handed to them are always among the citation's creators
  (`Citation.creatorNames`).
* A RIS record fails only with a fault its markup reader gives back (`ReaderFault`):
  `Ris.record_spec`. The package's own reader fails only on a number too long to read or on
  markup it gives up on (`MarkupFault`, `Markup.plainText_spec`).
* A record's address fails only on a malformed host (`AddressFault`): `Address.parse_spec`.

`fails_of_triple` turns a triple back into a statement about the result.
-/

set_option mvcgen.warning false

namespace Citations

open Std.Do Citations.Text

/-! ## Triples over `Except` -/

@[spec] theorem error_spec {α ε : Type} {e : ε} {Q : PostCond α (.except ε .pure)} :
    ⦃Q.2.1 e⦄ (Except.error e : Except ε α) ⦃Q⦄ := by
  rw [show (Except.error e : Except ε α) = MonadExceptOf.throw e from rfl, Triple,
    WP.throw_Except]

theorem throw_spec {α ε : Type} {e : ε} {Q : PostCond α (.except ε .pure)} :
    ⦃Q.2.1 e⦄ (MonadExceptOf.throw e : Except ε α) ⦃Q⦄ := by
  rw [Triple, WP.throw_Except]

/-- A computation whose failures all satisfy `P` fails, if at all, with such a fault. -/
theorem fails_of_triple {α ε : Type} {x : Except ε α} {P : ε → Prop}
    (h : ⦃⌜True⌝⦄ x ⦃post⟨fun _ => ⌜True⌝, fun e => ⌜P e⌝⟩⦄) {e : ε} (he : x = .error e) :
    P e := by
  rw [he, show (Except.error e : Except ε α) = MonadExceptOf.throw e from rfl] at h
  simpa using h trivial

/-- A computation whose results all satisfy `P` gives one that does. -/
theorem holds_of_triple {α ε : Type} {x : Except ε α} {P : α → Prop}
    (h : ⦃⌜True⌝⦄ x ⦃post⟨fun a => ⌜P a⌝, fun _ => ⌜True⌝⟩⦄) {a : α} (ha : x = .ok a) : P a := by
  rw [ha, show (Except.ok a : Except ε α) = pure a from rfl] at h
  simpa using h trivial

theorem ok_or_fails_of_triple {α ε : Type} {x : Except ε α} {P : ε → Prop}
    (h : ⦃⌜True⌝⦄ x ⦃post⟨fun _ => ⌜True⌝, fun e => ⌜P e⌝⟩⦄) :
    (∃ a, x = .ok a) ∨ ∃ e, x = .error e ∧ P e := by
  cases hx : x with
  | ok a => exact .inl ⟨a, rfl⟩
  | error e => exact .inr ⟨e, rfl, fails_of_triple h hx⟩

/-- A computation followed by another succeeds exactly when both do. -/
theorem bind_eq_ok {α β ε : Type} {x : Except ε α} {f : α → Except ε β} {b : β} :
    x >>= f = .ok b ↔ ∃ a, x = .ok a ∧ f a = .ok b := by
  cases x <;> simp [bind, Except.bind]

/-- A computation whose result, seen through `f`, is `b` succeeds with a result that `f` sends
to `b`. -/
theorem exists_ok_of_toOption {α β ε : Type} {x : Except ε α} {f : α → β} {b : β}
    (h : x.toOption.map f = some b) : ∃ a, x = .ok a ∧ f a = b := by
  cases x with
  | error e => simp [Except.toOption] at h
  | ok a => exact ⟨a, rfl, by simpa [Except.toOption] using h⟩

theorem fault_spec_mono {α : Type} {x : Except Fault α} {P Q : Fault → Prop}
    (hx : ⦃⌜True⌝⦄ x ⦃post⟨fun _ => ⌜True⌝, fun e => ⌜P e⌝⟩⦄) (h : ∀ e, P e → Q e) :
    ⦃⌜True⌝⦄ x ⦃post⟨fun _ => ⌜True⌝, fun e => ⌜Q e⌝⟩⦄ := by
  mvcgen [hx]
  exact h _

section Lists

variable {α β : Type} {E : Fault → Prop} {xs : List α}

theorem mapM_spec {f : α → Except Fault β}
    (hf : ∀ a ∈ xs, ⦃⌜True⌝⦄ f a ⦃post⟨fun _ => ⌜True⌝, fun e => ⌜E e⌝⟩⦄) :
    ⦃⌜True⌝⦄ xs.mapM f ⦃post⟨fun _ => ⌜True⌝, fun e => ⌜E e⌝⟩⦄ := by
  induction xs with
  | nil => mvcgen
  | cons x xs ih =>
    simp only [List.mapM_cons]
    have hx := hf x List.mem_cons_self
    have hxs := ih fun a ha => hf a (List.mem_cons_of_mem x ha)
    mvcgen [hx, hxs]

theorem filterMapM_spec {f : α → Except Fault (Option β)}
    (hf : ∀ a ∈ xs, ⦃⌜True⌝⦄ f a ⦃post⟨fun _ => ⌜True⌝, fun e => ⌜E e⌝⟩⦄) :
    ⦃⌜True⌝⦄ xs.filterMapM f ⦃post⟨fun _ => ⌜True⌝, fun e => ⌜E e⌝⟩⦄ := by
  induction xs with
  | nil => mvcgen
  | cons x xs ih =>
    simp only [List.filterMapM_cons]
    have hx := hf x List.mem_cons_self
    have hxs := ih fun a ha => hf a (List.mem_cons_of_mem x ha)
    mvcgen [hx, hxs]

theorem flatMapM_spec {f : α → Except Fault (List β)}
    (hf : ∀ a ∈ xs, ⦃⌜True⌝⦄ f a ⦃post⟨fun _ => ⌜True⌝, fun e => ⌜E e⌝⟩⦄) :
    ⦃⌜True⌝⦄ xs.flatMapM f ⦃post⟨fun _ => ⌜True⌝, fun e => ⌜E e⌝⟩⦄ := by
  induction xs with
  | nil => mvcgen
  | cons x xs ih =>
    simp only [List.flatMapM_cons]
    have hx := hf x List.mem_cons_self
    have hxs := ih fun a ha => hf a (List.mem_cons_of_mem x ha)
    mvcgen [hx, hxs]

end Lists

/-! ## Names without parts -/

/-- The names that the prose styles put in reading order or cut to initials. -/
def Citation.creatorNames (c : Citation) : List String :=
  c.authors ++ c.editors ++ c.compilers ++ c.translators

/-- A failure because one of `names` is made only of commas. -/
def NameFault (names : List String) (e : Fault) : Prop :=
  e = .nameWithoutParts ∧ ∃ n ∈ names, CommaOnly n

theorem NameFault.mono {names names' : List String} (h : names ⊆ names') {e : Fault} :
    NameFault names e → NameFault names' e :=
  fun ⟨he, n, hn, hc⟩ => ⟨he, n, h hn, hc⟩

namespace Style

-- The specs below cite only the lemmas about reading order and abbreviation. Left open, the two
-- functions are unfolded each time `mvcgen` tries to match a spec's postcondition and fails.
attribute [local irreducible] readingOrder abbreviate

@[spec] theorem orderName_spec (n : String) :
    ⦃⌜True⌝⦄ orderName n ⦃post⟨fun _ => ⌜True⌝, fun e => ⌜NameFault [n] e⌝⟩⦄ := by
  mvcgen [orderName]
  rename_i h
  exact ⟨rfl, n, List.mem_singleton_self n, readingOrder_eq_none_iff.mp h⟩

@[spec] theorem initialsOf_spec (n : String) :
    ⦃⌜True⌝⦄ initialsOf n ⦃post⟨fun _ => ⌜True⌝, fun e => ⌜NameFault [n] e⌝⟩⦄ := by
  mvcgen [initialsOf]
  rename_i h
  exact ⟨rfl, n, List.mem_singleton_self n, abbreviate_eq_none_iff.mp h⟩

@[spec] theorem mapM_orderName_spec (names : List String) :
    ⦃⌜True⌝⦄ names.mapM orderName ⦃post⟨fun _ => ⌜True⌝, fun e => ⌜NameFault names e⌝⟩⦄ :=
  mapM_spec fun _ hn => fault_spec_mono (orderName_spec _) fun _ h => h.mono (by simpa using hn)

@[spec] theorem mapM_initialsOf_spec (names : List String) :
    ⦃⌜True⌝⦄ names.mapM initialsOf ⦃post⟨fun _ => ⌜True⌝, fun e => ⌜NameFault names e⌝⟩⦄ :=
  mapM_spec fun _ hn => fault_spec_mono (initialsOf_spec _) fun _ h => h.mono (by simpa using hn)

@[spec] theorem leadingNameList_spec (names : List String) :
    ⦃⌜True⌝⦄ leadingNameList names ⦃post⟨fun _ => ⌜True⌝, fun e => ⌜NameFault names e⌝⟩⦄ := by
  mvcgen [leadingNameList]
  exact fun h => h.mono (by simp)

theorem leadingCreators_subset (authors editors : List String) (publisher : String) :
    (leadingCreators authors editors publisher).1 ⊆ authors ++ editors := by
  intro n hn
  unfold leadingCreators withoutNames at hn
  dsimp only at hn
  split_ifs at hn
  · exact List.mem_append_right _ hn
  · exact List.mem_append_left _ (List.mem_of_mem_filter hn)
  · exact List.mem_append_left _ (List.mem_of_mem_filter hn)

/-! ## The prose styles -/

theorem Apa.format_spec (c : Citation) :
    ⦃⌜True⌝⦄ Apa.format c ⦃post⟨fun _ => ⌜True⌝, fun e => ⌜NameFault c.creatorNames e⌝⟩⦄ := by
  mvcgen [Apa.format]
  -- the names abbreviated are the leading creators, or an article's editors
  all_goals
    exact fun h => h.mono fun n hn => by
      grind [leadingCreators_subset, Citation.creatorNames]

theorem Mla.format_spec (c : Citation) :
    ⦃⌜True⌝⦄ Mla.format c ⦃post⟨fun _ => ⌜True⌝, fun e => ⌜NameFault c.creatorNames e⌝⟩⦄ := by
  mvcgen [Mla.format]
  -- the names put in reading order are the leading creators after the first, or the editors
  all_goals
    exact fun h => h.mono fun n hn => by
      grind [leadingCreators_subset, Citation.creatorNames]

@[spec] theorem Chicago.joinedNames_spec (names : List String) :
    ⦃⌜True⌝⦄ Chicago.joinedNames names ⦃post⟨fun _ => ⌜True⌝, fun e => ⌜NameFault names e⌝⟩⦄ := by
  mvcgen [Chicago.joinedNames]

theorem Chicago.Role.names_subset (c : Citation) (r : Chicago.Role) :
    r.names c ⊆ c.creatorNames := by
  intro n hn
  cases r <;> simp_all [Chicago.Role.names, Citation.creatorNames]

theorem Chicago.leadingCreators_subset (c : Citation) :
    (Chicago.leadingCreators c).1 ⊆ c.creatorNames := by
  intro n hn
  unfold Chicago.leadingCreators withoutNames at hn
  dsimp only at hn
  split at hn
  · simp only [Citation.creatorNames, List.mem_append]
    exact .inl (.inl (.inl (List.mem_of_mem_filter hn)))
  · split at hn
    · rename_i r _
      exact Chicago.Role.names_subset c r hn
    · simp at hn

theorem Chicago.format_spec (c : Citation) :
    ⦃⌜True⌝⦄ Chicago.format c ⦃post⟨fun _ => ⌜True⌝, fun e => ⌜NameFault c.creatorNames e⌝⟩⦄ := by
  -- the sentence of each role is a loop over the roles, on every path to it
  mvcgen [Chicago.format]
  invariants
  · post⟨fun _ => ⌜True⌝, fun e => ⌜NameFault c.creatorNames e⌝⟩
  · post⟨fun _ => ⌜True⌝, fun e => ⌜NameFault c.creatorNames e⌝⟩
  · post⟨fun _ => ⌜True⌝, fun e => ⌜NameFault c.creatorNames e⌝⟩
  · post⟨fun _ => ⌜True⌝, fun e => ⌜NameFault c.creatorNames e⌝⟩
  · post⟨fun _ => ⌜True⌝, fun e => ⌜NameFault c.creatorNames e⌝⟩
  · post⟨fun _ => ⌜True⌝, fun e => ⌜NameFault c.creatorNames e⌝⟩
  -- the failures come from the leading creators or from a role's names, all of them creators
  all_goals
    exact fun h => h.mono fun n hn => by
      grind [Chicago.Role.names_subset, Chicago.leadingCreators_subset]

@[spec] theorem Bluebook.buildName_spec (n : String) :
    ⦃⌜True⌝⦄ Bluebook.buildName n ⦃post⟨fun _ => ⌜True⌝, fun e => ⌜NameFault [n] e⌝⟩⦄ := by
  mvcgen [Bluebook.buildName]

@[spec] theorem Bluebook.buildNames_spec (names : List String) :
    ⦃⌜True⌝⦄ Bluebook.buildNames names ⦃post⟨fun _ => ⌜True⌝, fun e => ⌜NameFault names e⌝⟩⦄ := by
  mvcgen [Bluebook.buildNames]
  all_goals exact fun h => h.mono (by simp)

@[spec] theorem Bluebook.buildEditors_spec (names : List String) :
    ⦃⌜True⌝⦄ Bluebook.buildEditors names
      ⦃post⟨fun _ => ⌜True⌝, fun e => ⌜NameFault names e⌝⟩⦄ := by
  mvcgen [Bluebook.buildEditors]

@[spec] theorem Bluebook.buildTranslators_spec (names : List String) :
    ⦃⌜True⌝⦄ Bluebook.buildTranslators names
      ⦃post⟨fun _ => ⌜True⌝, fun e => ⌜NameFault names e⌝⟩⦄ := by
  mvcgen [Bluebook.buildTranslators]

theorem Bluebook.format_spec (sources : List String) (c : Citation) :
    ⦃⌜True⌝⦄ Bluebook.format sources c
      ⦃post⟨fun _ => ⌜True⌝, fun e => ⌜NameFault c.creatorNames e⌝⟩⦄ := by
  mvcgen [Bluebook.format, Bluebook.bookCitation, Bluebook.articleCitation,
    Bluebook.mediaCitation, Bluebook.thesisCitation]
  -- every shape names some of the authors, editors and translators
  all_goals
    exact fun h => h.mono fun n hn => by
      grind [Citation.creatorNames, List.mem_of_mem_take]

end Style

/-! ## The RIS record and the record's address -/

/-- A fault that the markup reader gives back for some text. -/
def ReaderFault (read : MarkupReader) (e : Fault) : Prop := ∃ text, read text = .error e

/-- A failure of the package's own markup reader: a number too long to read, or markup it gives
up on. -/
def MarkupFault (e : Fault) : Prop :=
  (∃ digits, e = .digitLimit digits) ∨ ∃ reason, e = .rejectedMarkup reason

/-- A malformed host in an address. -/
def AddressFault (e : Fault) : Prop := ∃ reason, e = .invalidAddress reason

/-- A computation whose failures all satisfy `P` meets the triple that allows them. -/
theorem triple_of_fails {α : Type} {x : Except Fault α} {P : Fault → Prop}
    (h : ∀ e, x = .error e → P e) : ⦃⌜True⌝⦄ x ⦃post⟨fun _ => ⌜True⌝, fun e => ⌜P e⌝⟩⦄ := by
  cases hx : x with
  | error e =>
    mvcgen
    exact h e hx
  | ok a => mvcgen

theorem read_spec (read : MarkupReader) (text : String) :
    ⦃⌜True⌝⦄ read text ⦃post⟨fun _ => ⌜True⌝, fun e => ⌜ReaderFault read e⌝⟩⦄ :=
  triple_of_fails fun _ h => ⟨text, h⟩

namespace Markup

theorem Document.ofTokens_spec (tokens : List Token) (d : Document) :
    ⦃⌜True⌝⦄ Document.ofTokens tokens d ⦃post⟨fun _ => ⌜True⌝, fun e => ⌜MarkupFault e⌝⟩⦄ := by
  induction tokens generalizing d with
  | nil => mvcgen [Document.ofTokens]
  | cons t ts ih =>
    mvcgen [Document.ofTokens, ih]
    exact .inl ⟨_, rfl⟩

@[spec] theorem plainText_spec (s : String) :
    ⦃⌜True⌝⦄ plainText s ⦃post⟨fun _ => ⌜True⌝, fun e => ⌜MarkupFault e⌝⟩⦄ := by
  mvcgen [plainText]
  · exact fails_of_triple (Document.ofTokens_spec _ _) ‹_›
  · exact .inr ⟨_, rfl⟩

theorem markupFault_of_readerFault {e : Fault} (h : ReaderFault plainText e) : MarkupFault e :=
  fails_of_triple (plainText_spec _) h.choose_spec

theorem not_citationError_of_readerFault {e : Fault} (h : ReaderFault plainText e) :
    e.isCitationError = false := by
  rcases markupFault_of_readerFault h with ⟨_, rfl⟩ | ⟨_, rfl⟩ <;> rfl

end Markup

namespace Style.Ris

variable (read : MarkupReader)

@[spec] theorem sanitize_spec (text : String) :
    ⦃⌜True⌝⦄ sanitize read text ⦃post⟨fun _ => ⌜True⌝, fun e => ⌜ReaderFault read e⌝⟩⦄ := by
  -- the reader is a variable, so no spec of it is on file: its triple is given by hand
  mvcgen -trivial [sanitize]
  · exact read_spec read _ trivial
  · trivial

@[spec] theorem cleanValue_spec (tag value : String) :
    ⦃⌜True⌝⦄ cleanValue read tag value ⦃post⟨fun _ => ⌜True⌝, fun e => ⌜ReaderFault read e⌝⟩⦄ := by
  mvcgen [cleanValue, filterMapM_spec]

@[spec] theorem mapM_line_spec (tag : String) (values : List String) :
    ⦃⌜True⌝⦄ values.mapM (fun v => do return line tag (← cleanValue read tag v))
      ⦃post⟨fun _ => ⌜True⌝, fun e => ⌜ReaderFault read e⌝⟩⦄ :=
  mapM_spec fun _ _ => by mvcgen

theorem record_spec (tags : List (String × List String)) :
    ⦃⌜True⌝⦄ record read tags ⦃post⟨fun _ => ⌜True⌝, fun e => ⌜ReaderFault read e⌝⟩⦄ := by
  mvcgen [record, flatMapM_spec]

end Style.Ris

namespace Address

@[spec] theorem checkBracketedHost_spec (host : List Char) :
    ⦃⌜True⌝⦄ checkBracketedHost host ⦃post⟨fun _ => ⌜True⌝, fun e => ⌜AddressFault e⌝⟩⦄ := by
  mvcgen [checkBracketedHost]
  all_goals exact ⟨_, rfl⟩

@[spec] theorem checkBracketedAuthority_spec (authority : List Char) :
    ⦃⌜True⌝⦄ checkBracketedAuthority authority
      ⦃post⟨fun _ => ⌜True⌝, fun e => ⌜AddressFault e⌝⟩⦄ := by
  mvcgen [checkBracketedAuthority]
  exact ⟨_, rfl⟩

@[spec] theorem checkAuthority_spec (authority : List Char) :
    ⦃⌜True⌝⦄ checkAuthority authority ⦃post⟨fun _ => ⌜True⌝, fun e => ⌜AddressFault e⌝⟩⦄ := by
  -- the library's own rule for `throw` leaves the monad open; `throw_spec` fixes it to `Except`
  mvcgen [checkAuthority, throw_spec, -Spec.throw_Except]
  all_goals exact ⟨_, rfl⟩

theorem parse_spec (s : String) :
    ⦃⌜True⌝⦄ parse s ⦃post⟨fun _ => ⌜True⌝, fun e => ⌜AddressFault e⌝⟩⦄ := by
  mvcgen [parse]

end Address

end Citations
