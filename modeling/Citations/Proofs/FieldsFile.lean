import Citations.Proofs.Batch
import Citations.Proofs.TagValues
import Citations.Command
import Citations.Yaml.Document

/-!
# The fields file of the command line

The command reads the record from a YAML document, whatever loader reads it, and
`Command.fieldsOf` makes catalog fields of it. A mapping gives each key, written as text, with
the texts of its value; an empty document gives no fields; a document that is neither is meant
to be refused.

* `fieldsOf_eq`: the fields are the mapping built in order from the entries whose value is not
  null (`fieldEntry`), a key written like an earlier one taking its place with the later value
  (`Value.lookup_entriesOf`); a value that cannot be written as text fails the file.
* `fieldsOf_eq_fieldsNotMapping_iff`: the file is refused exactly when its document counts as
  true and is no mapping.
* `ofValue_toValue`: the library takes such fields as they are.
* `run_answered`: with a markup reader that fails with no citation error, a command never ends
  on a fault of the raw fields, and ends with status 1 only on a fields file that is no mapping
  or a `citeas` item without an explicit citation.
* `fields_file_contract`: all of it together, for documents that are mappings, empty or count as
  true.

The test of the empty document is whether the document counts as false, so a document such as
`[]`, `0` or `''`, neither a mapping nor empty, is read as no fields at all and not refused
(`fieldsOf_empty_list`).
-/

namespace Citations

/-! ## Mappings built from pairs -/

namespace Value

theorem mem_insertEntry {k : String} {v : Value} {kv : String × Value} :
    ∀ {es : List (String × Value)}, kv ∈ insertEntry k v es → kv = (k, v) ∨ kv ∈ es
  | [], h => .inl (List.mem_singleton.mp h)
  | (k', v') :: rest, h => by
    unfold insertEntry at h
    split at h
    · rcases List.mem_cons.mp h with h | h
      · exact .inl h
      · exact .inr (List.mem_cons_of_mem _ h)
    · rcases List.mem_cons.mp h with h | h
      · exact .inr (h ▸ List.mem_cons_self)
      · rcases mem_insertEntry h with h | h
        · exact .inl h
        · exact .inr (List.mem_cons_of_mem _ h)

theorem keys_insertEntry (k : String) (v : Value) :
    ∀ es : List (String × Value), (insertEntry k v es).map (·.1) =
      if k ∈ es.map (·.1) then es.map (·.1) else es.map (·.1) ++ [k]
  | [] => by simp [insertEntry]
  | (k', v') :: rest => by
    unfold insertEntry
    by_cases hk : k' = k
    · subst hk
      simp
    · have hk' : k ≠ k' := Ne.symm hk
      rw [if_neg hk, List.map_cons, List.map_cons, keys_insertEntry k v rest]
      by_cases hmem : k ∈ rest.map (·.1) <;> simp [hmem, hk']

theorem nodup_keys_insertEntry (k : String) (v : Value) {es : List (String × Value)}
    (h : (es.map (·.1)).Nodup) : ((insertEntry k v es).map (·.1)).Nodup := by
  rw [keys_insertEntry]
  split
  · exact h
  · rename_i hnew
    exact h.append (List.nodup_singleton k) (by simpa using hnew)

@[simp] theorem lookup_cons (a : String) (b : Value) (rest : List (String × Value)) (k : String) :
    lookup ((a, b) :: rest) k = if a = k then some b else lookup rest k := by
  by_cases h : a = k <;> simp [lookup, h]

theorem lookup_insertEntry (k k' : String) (v : Value) :
    ∀ es : List (String × Value),
      lookup (insertEntry k v es) k' = if k' = k then some v else lookup es k'
  | [] => by
    by_cases hk : k' = k
    · simp [insertEntry, hk]
    · simp [insertEntry, hk, Ne.symm hk, lookup]
  | (k'', v'') :: rest => by
    unfold insertEntry
    by_cases hk : k'' = k
    · subst hk
      by_cases hk' : k' = k''
      · subst hk'
        simp
      · simp [hk', Ne.symm hk']
    · rw [if_neg hk, lookup_cons, lookup_insertEntry k k' v rest, lookup_cons]
      by_cases hk' : k'' = k'
      · subst hk'
        simp [hk]
      · simp [hk']

/-- Building from pairs in order, the value of a key is that of its last pair. -/
theorem lookup_entriesOf (ps : List (String × Value)) (k : String) :
    lookup (entriesOf ps) k = (ps.reverse.find? (·.1 == k)).map (·.2) := by
  -- over the fold, the pairs still to come are looked at before the mapping built so far
  have hfold : ∀ (ps : List (String × Value)) (acc : List (String × Value)),
      lookup (ps.foldl (fun acc kv => insertEntry kv.1 kv.2 acc) acc) k =
        ((ps.reverse.find? (·.1 == k)).map (·.2)).or (lookup acc k) := by
    intro ps
    induction ps with
    | nil => simp
    | cons p ps ih =>
      intro acc
      rw [List.foldl_cons, ih, lookup_insertEntry, List.reverse_cons, List.find?_append]
      cases hfind : ps.reverse.find? (·.1 == k) with
      | some q => rfl
      | none =>
        by_cases hk : k = p.1
        · subst hk
          simp
        · simp [hk, Ne.symm hk]
  simpa [entriesOf, lookup] using hfold ps []

theorem nodup_keys_entriesOf (ps : List (String × Value)) : ((entriesOf ps).map (·.1)).Nodup := by
  have hfold : ∀ (ps : List (String × Value)) (acc : List (String × Value)),
      (acc.map (·.1)).Nodup →
        ((ps.foldl (fun acc kv => insertEntry kv.1 kv.2 acc) acc).map (·.1)).Nodup := by
    intro ps
    induction ps with
    | nil => exact fun _ h => h
    | cons p ps ih => exact fun acc h => ih _ (nodup_keys_insertEntry p.1 p.2 h)
  exact hfold ps [] List.nodup_nil

theorem mem_entriesOf {ps : List (String × Value)} {kv : String × Value}
    (h : kv ∈ entriesOf ps) : kv ∈ ps := by
  have hfold : ∀ (ps : List (String × Value)) (acc : List (String × Value)),
      kv ∈ ps.foldl (fun acc kv => insertEntry kv.1 kv.2 acc) acc →
        kv ∈ ps ∨ kv ∈ acc := by
    intro ps
    induction ps with
    | nil => exact fun _ h => .inr h
    | cons p ps ih =>
      intro acc h
      rcases ih _ h with h | h
      · exact .inl (List.mem_cons_of_mem p h)
      · rcases mem_insertEntry h with rfl | h
        · exact .inl List.mem_cons_self
        · exact .inr h
  simpa using hfold ps [] h

end Value

/-! ## Fields as raw data -/

namespace Fields

/-- Catalog fields as raw data: each field a list of texts. -/
def toValue (f : Fields) : Value := .dict (f.entries.map fun kv => (kv.1, .list (kv.2.map .str)))

theorem textsOf_map_str (ts : List String) : textsOf (ts.map .str) = .ok ts := by
  induction ts with
  | nil => rfl
  | cons t ts ih => simp [textsOf, ih, Except.map]

theorem filterMapM_map_eq_ok {α β ε : Type} {F : α → Except ε (Option β)} {G : β → α}
    (hF : ∀ b, F (G b) = .ok (some b)) : ∀ l : List β, (l.map G).filterMapM F = .ok l
  | [] => rfl
  | b :: l => by
    rw [List.map_cons, List.filterMapM_cons, hF, filterMapM_map_eq_ok hF l]
    rfl

/-- The library takes catalog fields given as lists of texts as they are. -/
theorem ofValue_toValue (f : Fields) : ofValue f.toValue = .ok f := by
  obtain ⟨entries⟩ := f
  simp only [toValue, ofValue]
  rw [filterMapM_map_eq_ok (fun kv => by simp [fieldOf, textsOf_map_str, bind, Except.bind,
    pure, Except.pure]) entries]
  rfl

theorem exists_toValue {es : List (String × Value)}
    (h : ∀ kv ∈ es, ∃ ts : List String, kv.2 = .list (ts.map .str)) :
    ∃ f : Fields, Value.dict es = f.toValue ∧ f.entries.map (·.1) = es.map (·.1) := by
  induction es with
  | nil => exact ⟨⟨[]⟩, rfl, rfl⟩
  | cons kv es ih =>
    obtain ⟨ts, hts⟩ := h kv List.mem_cons_self
    obtain ⟨⟨entries⟩, hes, hkeys⟩ :=
      ih fun kv' hkv' => h kv' (List.mem_cons_of_mem kv hkv')
    refine ⟨⟨(kv.1, ts) :: entries⟩, ?_, by simp [hkeys]⟩
    simp only [toValue, Value.dict.injEq] at hes ⊢
    rw [List.map_cons, ← hes, ← hts]

end Fields

/-! ## The fields file -/

namespace Command

open Citations.Yaml

/-- Whether an entry of a mapping has a value other than null. -/
def hasValue (entry : Datum × Datum) : Bool := !(entry.2 matches .none)

/-- One entry of a fields file as a field: its key as text, with the texts of the items of a
list, or of the value alone, nulls left out. -/
def fieldEntry (store : Store) (entry : Datum × Datum) : Except Failure (String × Value) := do
  let items := ((store.listItems? entry.2).getD [entry.2]).filter fun d => !(d matches .none)
  let texts ← items.mapM store.text
  let name ← store.text entry.1
  pure (name, .list (texts.map .str))

theorem fieldEntry_value {store : Store} {entry : Datum × Datum} {kv : String × Value}
    (h : fieldEntry store entry = .ok kv) : ∃ ts : List String, kv.2 = .list (ts.map .str) := by
  obtain ⟨texts, -, h⟩ := bind_eq_ok.mp h
  obtain ⟨name, -, h⟩ := bind_eq_ok.mp h
  exact ⟨texts, by cases h; rfl⟩

theorem forall_mem_of_mapM_ok {α β ε : Type} {f : α → Except ε β} {P : β → Prop}
    (hf : ∀ a b, f a = .ok b → P b) : ∀ {l : List α} {bs : List β}, l.mapM f = .ok bs →
      ∀ b ∈ bs, P b
  | [], bs, h => by
    cases h
    simp
  | a :: l, bs, h => by
    rw [List.mapM_cons] at h
    obtain ⟨b, hb, h⟩ := bind_eq_ok.mp h
    obtain ⟨bs', hbs', h⟩ := bind_eq_ok.mp h
    cases h
    intro b' hb'
    rcases List.mem_cons.mp hb' with rfl | hb'
    · exact hf a _ hb
    · exact forall_mem_of_mapM_ok hf hbs' b' hb'

theorem foldlM_eq_of_step {α β γ ε : Type} (p : α → Bool) (g : α → Except ε β)
    (ins : γ → β → γ) {F : γ → α → Except ε γ}
    (hF : ∀ acc a, F acc a = if p a then (ins acc) <$> g a else pure acc) :
    ∀ (l : List α) (init : γ),
      l.foldlM F init = (fun bs => bs.foldl ins init) <$> (l.filter p).mapM g
  | [], init => rfl
  | a :: l, init => by
    rw [List.foldlM_cons, hF]
    by_cases hp : p a = true
    · rw [if_pos hp, List.filter_cons_of_pos hp, List.mapM_cons]
      cases g a with
      | error e => rfl
      | ok b =>
        show l.foldlM F (ins init b) = _
        rw [foldlM_eq_of_step p g ins hF l (ins init b)]
        cases (l.filter p).mapM g <;> rfl
    · rw [if_neg hp, List.filter_cons_of_neg hp]
      exact foldlM_eq_of_step p g ins hF l init

/-- The fields of a document: refused when it counts as true and is no mapping; otherwise the
mapping built from its entries with a value, or the failure to write one as text. -/
theorem fieldsOf_eq (file : String) (doc : Document) :
    fieldsOf file doc =
      match (if doc.store.isTruthy doc.root then doc.store.entries? doc.root else some []) with
      | none => .error (.fieldsNotMapping file)
      | some entries =>
        match (entries.filter hasValue).mapM (fieldEntry doc.store) with
        | .ok pairs => .ok (.dict (Value.entriesOf pairs))
        | .error failure => .error (.yaml file failure) := by
  unfold fieldsOf
  dsimp only
  cases (if doc.store.isTruthy doc.root then doc.store.entries? doc.root else some []) with
  | none => rfl
  | some entries =>
    dsimp only
    rw [foldlM_eq_of_step hasValue (fieldEntry doc.store)
      (fun acc kv => Value.insertEntry kv.1 kv.2 acc) ?step]
    · cases (entries.filter hasValue).mapM (fieldEntry doc.store) <;> rfl
    · -- an entry with a null value is skipped, any other is written as text
      intro acc entry
      obtain ⟨key, value⟩ := entry
      cases value
      case none => rfl
      -- the two filters are the same test, written apart; whether `simp` sees the two sides
      -- as one term depends on the instances in scope, so `rfl` closes what it leaves
      all_goals
        simp only [hasValue, fieldEntry, map_bind, map_pure, Bool.not_false, reduceIte]
        try rfl

theorem entries_eq_nil_of_falsy {store : Store} {root : Datum} {entries : List (Datum × Datum)}
    (h : store.entries? root = some entries) (hfalse : store.isTruthy root = false) :
    entries = [] := by
  cases root
  case ref id =>
    simp only [Store.entries?] at h
    simp only [Store.isTruthy] at hfalse
    cases hid : store[id]? with
    | none => simp [hid] at h
    | some c =>
      cases c
      case dict es =>
        simp only [hid, Option.some.injEq] at h hfalse
        subst h
        simpa using hfalse
      all_goals simp [hid] at h
  all_goals simp [Store.entries?] at h

section Document

variable {file : String} {doc : Document}

theorem fieldsOf_of_falsy (h : doc.store.isTruthy doc.root = false) :
    fieldsOf file doc = .ok (.dict []) := by
  rw [fieldsOf_eq, if_neg (by simp [h])]
  rfl

theorem fieldsOf_of_entries {entries : List (Datum × Datum)} {pairs : List (String × Value)}
    (hentries : doc.store.entries? doc.root = some entries)
    (hpairs : (entries.filter hasValue).mapM (fieldEntry doc.store) = .ok pairs) :
    fieldsOf file doc = .ok (.dict (Value.entriesOf pairs)) := by
  by_cases htrue : doc.store.isTruthy doc.root = true
  · rw [fieldsOf_eq, if_pos htrue, hentries]
    dsimp only
    rw [hpairs]
  · -- a mapping that counts as false is empty, and so are its fields
    obtain rfl := entries_eq_nil_of_falsy hentries (by simpa using htrue)
    obtain rfl : pairs = [] := (Except.ok.inj hpairs).symm
    exact fieldsOf_of_falsy (by simpa using htrue)

theorem fieldsOf_of_failure {entries : List (Datum × Datum)} {failure : Failure}
    (hentries : doc.store.entries? doc.root = some entries)
    (hfail : (entries.filter hasValue).mapM (fieldEntry doc.store) = .error failure) :
    fieldsOf file doc = .error (.yaml file failure) := by
  by_cases htrue : doc.store.isTruthy doc.root = true
  · rw [fieldsOf_eq, if_pos htrue, hentries]
    dsimp only
    rw [hfail]
  · obtain rfl := entries_eq_nil_of_falsy hentries (by simpa using htrue)
    cases hfail

/-- The file is refused exactly when its document counts as true and is no mapping. -/
theorem fieldsOf_eq_fieldsNotMapping_iff :
    fieldsOf file doc = .error (.fieldsNotMapping file) ↔
      doc.store.isTruthy doc.root = true ∧ doc.store.entries? doc.root = none := by
  by_cases htrue : doc.store.isTruthy doc.root = true
  · cases hentries : doc.store.entries? doc.root with
    | none => simp [fieldsOf_eq, htrue, hentries]
    | some entries =>
      simp only [htrue, reduceCtorEq, and_false, iff_false]
      cases hpairs : (entries.filter hasValue).mapM (fieldEntry doc.store) with
      | ok pairs => simp [fieldsOf_of_entries hentries hpairs]
      | error failure => simp [fieldsOf_of_failure hentries hpairs]
  · simp [fieldsOf_of_falsy (by simpa using htrue), htrue]

/-- A document that is a mapping, empty or counts as true is refused exactly when it is neither
a mapping nor empty. -/
theorem fieldsOf_refused_iff
    (hdoc : doc.store.entries? doc.root ≠ none ∨ doc.root = .none ∨
      doc.store.isTruthy doc.root = true) :
    fieldsOf file doc = .error (.fieldsNotMapping file) ↔
      doc.store.entries? doc.root = none ∧ doc.root ≠ .none := by
  rw [fieldsOf_eq_fieldsNotMapping_iff]
  constructor
  · rintro ⟨htrue, hnone⟩
    refine ⟨hnone, fun hnull => ?_⟩
    rw [hnull] at htrue
    cases htrue
  · rintro ⟨hnone, hnull⟩
    -- only a document that counts as true is left by the two others
    rcases hdoc with hmap | hnull' | htrue
    · exact absurd hnone hmap
    · exact absurd hnull' hnull
    · exact ⟨htrue, hnone⟩

/-- The file fails only by being no mapping or by a value that cannot be written. -/
theorem fieldsOf_faults {f : Fault} (h : fieldsOf file doc = .error f) :
    f = .fieldsNotMapping file ∨ ∃ failure, f = .yaml file failure := by
  rw [fieldsOf_eq] at h
  split at h
  · exact .inl (Except.error.inj h).symm
  · split at h
    · cases h
    · exact .inr ⟨_, (Except.error.inj h).symm⟩

/-- What the file gives is catalog fields as raw data, each key once. -/
theorem fieldsOf_fields {v : Value} (h : fieldsOf file doc = .ok v) :
    ∃ fields : Fields, v = fields.toValue ∧ (fields.entries.map (·.1)).Nodup := by
  rw [fieldsOf_eq] at h
  split at h
  · cases h
  · split at h
    · rename_i pairs hpairs
      obtain rfl := Except.ok.inj h
      have hvalues :
          ∀ kv ∈ Value.entriesOf pairs, ∃ ts : List String, kv.2 = .list (ts.map .str) :=
        fun kv hkv => forall_mem_of_mapM_ok (fun _ _ => fieldEntry_value) hpairs kv
          (Value.mem_entriesOf hkv)
      obtain ⟨fields, hv, hkeys⟩ := Fields.exists_toValue hvalues
      exact ⟨fields, hv, hkeys ▸ Value.nodup_keys_entriesOf pairs⟩
    · cases h

end Document

/-! ## The style of a request -/

theorem Request.take_style {r r' : Request} {f : Flag} {v : String}
    (hr : r.style ∈ CitationStyle.keys) (h : r.take f v = some r') :
    r'.style ∈ CitationStyle.keys := by
  cases f
  case style =>
    simp only [Request.take] at h
    split at h
    · cases h
    · rename_i hallowed
      obtain rfl := Option.some.inj h
      have hv : v ∈ CitationStyle.keys ∧ r.all = false := by simpa using hallowed
      exact hv.1
  all_goals
    simp only [Request.take, Option.some.injEq] at h
    first
      | (obtain rfl := h; exact hr)
      | (split at h
         · cases h
         · obtain rfl := Option.some.inj h; exact hr)

theorem foldlM_take_style : ∀ (flags : List Flag) {r r' : Request},
    r.style ∈ CitationStyle.keys → flags.foldlM (fun acc g => acc.take g "") r = some r' →
      r'.style ∈ CitationStyle.keys
  | [], r, r', hr, h => by
    obtain rfl := Option.some.inj h
    exact hr
  | g :: gs, r, r', hr, h => by
    rw [List.foldlM_cons] at h
    cases hg : r.take g "" with
    | none => simp [hg] at h
    | some r'' =>
      rw [hg] at h
      exact foldlM_take_style gs (Request.take_style hr hg) h

theorem readWords_style {r r' : Request} {extra : Bool} {ws : List Word}
    (hr : r.style ∈ CitationStyle.keys) (h : readWords r extra ws = .request r') :
    r'.style ∈ CitationStyle.keys := by
  -- each step takes options through `Request.take`, which keeps the style a key
  fun_induction readWords r extra ws
  all_goals first
    | (simp_all; done)
    | solve_by_elim [Request.take_style, foldlM_take_style]

theorem parseArgs_style {args : List String} {r : Request} (h : parseArgs args = .request r) :
    r.style ∈ CitationStyle.keys := by
  dsimp only [parseArgs] at h
  split at h
  · cases h
  · exact readWords_style (CitationStyle.mem_keys.mpr ⟨.apa, rfl⟩) h

theorem lower_trim_key (s : CitationStyle) : Text.lower (Text.trim s.key) = s.key := by
  cases s <;> decide +kernel

theorem ofText_not_citationError {load : Yaml.Loader} {file text : String} {f : Fault}
    (h : ServiceConfig.ofText load file text = .error f) : f.isCitationError = false := by
  unfold ServiceConfig.ofText at h
  split at h
  · cases h
    rfl
  · split at h
    · cases h
    · cases h
      rfl

/-! ## What a run reports -/

/-- The faults a command ends with status 1 on: a fields file that is no mapping, and a `citeas`
item without an explicit citation. -/
def ExitFault (f : Fault) : Prop := f = .noExplicitCitation ∨ ∃ path, f = .fieldsNotMapping path

/-- The notices a command may give: skipped RIS tags, and the fault it ends with status 1 on. -/
def CommandNotice : Notice → Prop
  | .skippedTag _ => True
  | .commandFailed f => ExitFault f
  | .styleFailed _ _ => False

/-- What a run of the command keeps to: it never ends on a fault of the raw fields, it notices
only skipped tags and the faults of `ExitFault`, and it ends with status 1 only after noticing
one of those. -/
structure Answered (out : Logged Outcome) : Prop where
  not_build : ∀ b, out.result ≠ .error (.build b)
  notices : ∀ n ∈ out.notices, CommandNotice n
  exit_one : ∀ o, out.result = .ok o → o.exit = 1 →
    ∃ f, out.notices.getLast? = some (.commandFailed f) ∧ ExitFault f

theorem Answered.of_ok {o : Outcome} {notices : List Notice}
    (hn : ∀ n ∈ notices, CommandNotice n) (ho : o.exit ≠ 1) : Answered ⟨.ok o, notices⟩ :=
  ⟨(fun _ h => by cases h), hn, fun _ h h1 => by
    cases h
    exact absurd h1 ho⟩

theorem Answered.of_error {f : Fault} {notices : List Notice}
    (hn : ∀ n ∈ notices, CommandNotice n) (hf : f.isCitationError = false) :
    Answered ⟨.error f, notices⟩ :=
  ⟨(fun b h => by
    cases h
    cases hf), hn, fun _ h => by cases h⟩

theorem Answered.of_failed {f : Fault} {notices : List Notice}
    (hn : ∀ n ∈ notices, CommandNotice n) (hf : f.isCitationError = true → ExitFault f) :
    Answered (if f.isCitationError then
      (⟨.ok ⟨1, ""⟩, notices ++ [.commandFailed f]⟩ : Logged Outcome)
      else ⟨.error f, notices⟩) := by
  split
  · rename_i hc
    have hexit := hf hc
    refine ⟨(fun _ h => by cases h), fun n hn' => ?_, fun _ _ _ => ⟨f, by simp, hexit⟩⟩
    rcases List.mem_append.mp hn' with h | h
    · exact hn n h
    · rw [List.mem_singleton.mp h]
      exact hexit
  · rename_i hc
    exact Answered.of_error hn (by simpa using hc)

section RenderWith

variable {read : MarkupReader} {config : ServiceConfig} {s : CitationStyle} {raw : Value}
  {recordUrl : Option String} {fields : Fields}

theorem renderWith_notices (h : Fields.ofValue raw = .ok fields) :
    (renderWith read config s raw recordUrl).notices =
      (s.contents read config fields recordUrl).notices := by
  simp only [renderWith, h]
  split
  · rfl
  · split <;> rfl

theorem renderWith_notices_skipped (h : Fields.ofValue raw = .ok fields) :
    ∀ n ∈ (renderWith read config s raw recordUrl).notices, ∃ tag, n = .skippedTag tag := by
  by_cases hs : s = .ris
  · subst hs
    rw [renderWith_notices h,
      show (CitationStyle.ris.contents read config fields recordUrl).notices =
        (Style.Ris.tagValues config.ris fields recordUrl).notices from rfl,
      Style.Ris.notices_tagValues]
    intro n hn
    obtain ⟨p, -, rfl⟩ := List.mem_map.mp hn
    exact ⟨_, rfl⟩
  · rw [renderWith_notices_of_ne_ris hs]
    simp

/-- On catalog fields, and with a reader that fails with no citation error, the one citation error
a style fails with is a missing explicit citation. -/
theorem renderWith_citationError (hread : ∀ e, ReaderFault read e → e.isCitationError = false)
    (h : Fields.ofValue raw = .ok fields) {e : Fault}
    (he : (renderWith read config s raw recordUrl).result = .error e)
    (hc : e.isCitationError = true) : e = .noExplicitCitation := by
  cases s
  case citeAs =>
    by_cases hx : fields.get "explicit" = []
    · have hnone := CitationStyle.contents_of_no_explicit read recordUrl
        (show CitationStyle.citeAs.formatCitation config = some fun _ => .error .noExplicitCitation
          from rfl) hx
      rw [renderWith_of_contents_error h hnone] at he
      exact (Except.error.inj he).symm
    · rw [renderWith_of_explicit (by decide) h hx] at he
      cases he
  case ris =>
    have hris : (∃ r, (renderWith read config .ris raw recordUrl).result = .ok r) ∨ _ :=
      renderWith_ris h
    rcases hris with ⟨r, hr⟩ | ⟨e', he', hfault⟩
    · rw [hr] at he
      cases he
    · rw [he'] at he
      obtain rfl := Except.error.inj he
      rcases hfault with hreader | ⟨url, -, hparse⟩
      · rw [hread e' hreader] at hc
        cases hc
      · obtain ⟨reason, rfl⟩ := fails_of_triple (Address.parse_spec url) hparse
        cases hc
  all_goals
    rw [not_citationError_of_prose (by decide) h he] at hc
    cases hc

end RenderWith

/-- **A run of the command.** With a markup reader that fails with no citation error, and any
YAML loader, it never ends on a fault of the raw fields, whatever the command line and the files;
it notices only skipped RIS tags and the fault it ends with; and it ends with status 1 only on a
fields file that is no mapping or a `citeas` item without an explicit citation. -/
theorem loadedFields_spec (load : Yaml.Loader) (files : String → Option String) (path : String)
    {res : Except Fault Value}
    (h : (do
      let text ← (match files path with
        | some text => .ok text
        | none => .error (.missingFile path) : Except Fault String)
      match load text with
      | .error failure => .error (.yaml path failure)
      | .ok doc => fieldsOf path doc) = res) :
    (∀ f, res = .error f → f.isCitationError = true → ExitFault f) ∧
      ∀ raw, res = .ok raw → ∃ fields, Fields.ofValue raw = .ok fields := by
  subst h
  cases hfile : files path with
  | none =>
    refine ⟨fun f h hc => ?_, fun raw h => ?_⟩ <;> cases h
    cases hc
  | some text =>
    simp only [bind, Except.bind]
    split
    · refine ⟨fun f h hc => ?_, fun raw h => ?_⟩ <;> cases h
      cases hc
    · -- the document loaded: it fails as no mapping, or gives catalog fields
      refine ⟨fun f h hc => ?_, fun raw h => ?_⟩
      · rcases fieldsOf_faults h with rfl | ⟨failure, rfl⟩
        · exact .inr ⟨_, rfl⟩
        · cases hc
      · obtain ⟨fields, rfl, -⟩ := fieldsOf_fields h
        exact ⟨fields, Fields.ofValue_toValue fields⟩

theorem run_answered (read : MarkupReader) (load : Yaml.Loader)
    (hread : ∀ e, ReaderFault read e → e.isCitationError = false) (prog : String)
    (args : List String) (files : String → Option String) :
    Answered (run read load prog args files) := by
  unfold run
  split
  · exact Answered.of_ok (by simp) (by simp)
  · exact Answered.of_ok (by simp) (by simp)
  · rename_i r hparse
    dsimp only
    split
    · -- the configuration fails on a missing file, its syntax or its contents
      rename_i f hconfig
      refine Answered.of_error (by simp) ?_
      split at hconfig
      · rename_i path _
        cases hpath : files path <;> simp only [hpath, bind, Except.bind] at hconfig
        · cases hconfig
          rfl
        · exact ofText_not_citationError hconfig
      · cases hconfig
    · rename_i config _
      have hfile := loadedFields_spec load files (r.fields.getD "") rfl
      split
      · rename_i f hfields
        exact Answered.of_failed (by simp) (hfile.1 f hfields)
      · rename_i raw hraw
        obtain ⟨fields, hfields⟩ := hfile.2 raw hraw
        split
        · -- every prose style: no notices, and no citation error ends the batch
          have hquiet : (renderAll read config raw).notices = [] := by
            rw [renderAll_of_fields hfields]
          split
          · rename_i f hf
            refine Answered.of_failed (by simp [hquiet]) fun hc => ?_
            rw [(renderAll_error_of_fields hfields hf).1] at hc
            cases hc
          · exact Answered.of_ok (by simp [hquiet]) (by simp)
        · -- the requested style, which the command line keeps to a style's key
          obtain ⟨s, hs⟩ := CitationStyle.mem_keys.mp (parseArgs_style hparse)
          rw [render_eq_renderWith (s := s) (by rw [Option.getD_some, ← hs, lower_trim_key])]
          have hnotices :
              ∀ n ∈ (renderWith read config s raw r.recordUrl).notices, CommandNotice n := by
            intro n hn
            obtain ⟨tag, rfl⟩ := renderWith_notices_skipped hfields n hn
            trivial
          split
          · rename_i f hf
            exact Answered.of_failed hnotices fun hc =>
              .inl (renderWith_citationError hread hfields hf hc)
          · exact Answered.of_ok hnotices (by simp)

/-- **The fields file.** A document that is a mapping, empty or counts as true is refused
exactly when it is neither a mapping nor empty, and an empty document gives no fields; a mapping
gives the mapping built from its entries with a value, or fails on a value that cannot be written
as text. What the file gives is catalog fields as raw data, each key once, and the library takes
them as they are. With a markup reader that fails with no citation error, a run of the command
never ends on a fault of the raw fields, and ends with status 1 only on a fields file that is no
mapping or a `citeas` item without an explicit citation, noticed last. -/
theorem fields_file_contract (file : String) (doc : Document) (read : MarkupReader)
    (load : Yaml.Loader) (hread : ∀ e, ReaderFault read e → e.isCitationError = false)
    (prog : String) (args : List String) (files : String → Option String) :
    (doc.store.entries? doc.root ≠ none ∨ doc.root = .none ∨ doc.store.isTruthy doc.root = true →
      (fieldsOf file doc = .error (.fieldsNotMapping file) ↔
        doc.store.entries? doc.root = none ∧ doc.root ≠ .none)) ∧
    (doc.root = .none → fieldsOf file doc = .ok (.dict [])) ∧
    (∀ entries pairs, doc.store.entries? doc.root = some entries →
      (entries.filter hasValue).mapM (fieldEntry doc.store) = .ok pairs →
        fieldsOf file doc = .ok (.dict (Value.entriesOf pairs)) ∧
          ∀ k, Value.lookup (Value.entriesOf pairs) k =
            (pairs.reverse.find? (·.1 == k)).map (·.2)) ∧
    (∀ f, fieldsOf file doc = .error f →
      f = .fieldsNotMapping file ∨ ∃ failure, f = .yaml file failure) ∧
    (∀ v, fieldsOf file doc = .ok v → ∃ fields : Fields, v = fields.toValue ∧
      Fields.ofValue v = .ok fields ∧ (fields.entries.map (·.1)).Nodup) ∧
    let out := run read load prog args files
    (∀ b, out.result ≠ .error (.build b)) ∧ (∀ n ∈ out.notices, CommandNotice n) ∧
      ∀ o, out.result = .ok o → o.exit = 1 →
        ∃ f, out.notices.getLast? = some (.commandFailed f) ∧ ExitFault f := by
  have hrun := run_answered read load hread prog args files
  refine ⟨fieldsOf_refused_iff, fun hnull => fieldsOf_of_falsy (by rw [hnull]; rfl),
    fun _ pairs hentries hpairs =>
      ⟨fieldsOf_of_entries hentries hpairs, Value.lookup_entriesOf pairs⟩,
    fun _ => fieldsOf_faults, fun v hv => ?_, hrun.not_build, hrun.notices, hrun.exit_one⟩
  obtain ⟨fields, rfl, hkeys⟩ := fieldsOf_fields hv
  exact ⟨fields, rfl, Fields.ofValue_toValue fields, hkeys⟩

/-- A mapping with a text, a number and a null, under the reader and the loader the executable
runs with. -/
theorem fieldsOf_title_year :
    let doc : Document := { store := #[.dict #[(.str "title", .str "T"), (.str "year", .int 2020),
      (.str "note", .none)]], root := .ref 0 }
    fieldsOf "fields.json" doc = .ok (.dict (Value.entriesOf
      [("title", .list [.str "T"]), ("year", .list [.str "2020"])])) :=
  ((fields_file_contract "fields.json" _ Markup.plainText Yaml.Document.ofText
    (fun _ => Markup.not_citationError_of_readerFault)
    "citations" [] fun _ => none).2.2.1 _ _ rfl rfl).1

/-- The document of `[]` is an empty list: neither a mapping nor empty. It counts as false, so it
gives no fields instead of being refused, and the command renders the empty item and ends with
status 0. -/
theorem fieldsOf_empty_list :
    let doc : Document := { store := #[.list #[]], root := .ref 0 }
    (doc.store.entries? doc.root = none ∧ doc.root ≠ .none ∧
      fieldsOf "fields.json" doc = .ok (.dict [])) ∧
    ∃ o, (run Markup.plainText (fun _ => .ok doc) "citations" ["fields.json"]
      (fun p => if p = "fields.json" then some "[]" else none)).result = .ok o ∧ o.exit = 0 := by
  intro doc
  have hrun : (run Markup.plainText (fun _ => .ok doc) "citations" ["fields.json"]
      (fun p => if p = "fields.json" then some "[]" else none)).result.toOption.map (·.exit) =
        some 0 := by
    decide +kernel
  exact ⟨⟨rfl, nofun, fieldsOf_of_falsy rfl⟩, exists_ok_of_toOption hrun⟩

end Command

end Citations
