import Citations.Proofs.Builder
import Citations.Proofs.Tables

/-!
# Which address an item links to

`buildLink` writes an anchor to the address that a rule chooses (`LinkChoice`), stated in the
terms of the catalog: the DOI at the resolver when the item has one; otherwise, for an item born
digital (`BornDigital`), its first address at the resolver (`IsResolverAddress`), or with none
its first address when the catalog flags it as its own. The main result is
`buildLink_follows_rule`.

* The resolver's addresses are four, `http` or `https`, with or without `dx.`, matched in any
  case (`doiResolverRest_isSome_iff`); the two schemes exclude each other, so trying one after
  the other finds the same addresses.
* A serial number shaped like an ISBN or ISSN (`SerialShaped`) ends in a decimal digit or an X
  of either case (`looksLikeSerial_iff`): only X and x lower-case to x (`simpleLower_eq_x_iff`).
* The rule chooses for every item (`exists_linkChoice`), and the item links to the chosen
  address (`linkAddress_of_choice`) unless its DOI value is only a label or a resolver address:
  then it has no link, where the rule falls back to its addresses
  (`buildLink_label_only_doi_and_small_x`).
-/

namespace Citations

open Citations.Unicode Citations.Text

/-! ## Addresses at the DOI resolver -/

theorem caselessPrefix_append : ∀ (p q cs : List Char),
    caselessPrefix (p ++ q) cs = (caselessPrefix p cs).bind (caselessPrefix q)
  | [], _, _ => rfl
  | _ :: _, _, [] => rfl
  | c :: p, q, d :: cs => by
    rw [List.cons_append, caselessPrefix, caselessPrefix]
    split
    · exact caselessPrefix_append p q cs
    · rfl

theorem caselessMatch_colon (c : Char) : caselessMatch ':' c = (c == ':') := by
  rw [caselessMatch, if_neg (by decide +kernel)]

theorem caselessPrefix_colon_of_s {r rest : List Char}
    (h : caselessPrefix "s://".toList r = some rest) : caselessPrefix "://".toList r = none := by
  obtain _ | ⟨c, r⟩ := r
  · cases h
  · have hs : caselessMatch 's' c = true := by
      by_contra hs
      simp [caselessPrefix, hs] at h
    have hc : c ≠ ':' := by
      rintro rfl
      exact absurd hs (by decide +kernel)
    simp [caselessPrefix, caselessMatch_colon, hc]

/-- The addresses of the DOI resolver. -/
def resolverAddresses : List String :=
  ["https://doi.org/", "https://dx.doi.org/", "http://doi.org/", "http://dx.doi.org/"]

/-- An address at the DOI resolver: it starts, in any case, with one of the resolver's
addresses. -/
def IsResolverAddress (u : String) : Prop :=
  ∃ a ∈ resolverAddresses, (caselessPrefix a.toList u.toList).isSome

theorem doiResolverRest_eq (cs : List Char) :
    doiResolverRest cs = (caselessPrefix "http".toList cs).bind fun r =>
      ((caselessPrefix "s://".toList r).orElse fun _ => caselessPrefix "://".toList r).bind
        fun r => (caselessPrefix "dx.doi.org/".toList r).orElse fun _ =>
          caselessPrefix "doi.org/".toList r := rfl

theorem doiResolverRest_isSome_iff (cs : List Char) :
    (doiResolverRest cs).isSome ↔ ∃ a ∈ resolverAddresses, (caselessPrefix a.toList cs).isSome := by
  -- each address is a start of the scheme, its end, and a host
  have h1 : "https://doi.org/".toList = "http".toList ++ "s://".toList ++ "doi.org/".toList := rfl
  have h2 : "https://dx.doi.org/".toList =
      "http".toList ++ "s://".toList ++ "dx.doi.org/".toList := rfl
  have h3 : "http://doi.org/".toList = "http".toList ++ "://".toList ++ "doi.org/".toList := rfl
  have h4 : "http://dx.doi.org/".toList =
      "http".toList ++ "://".toList ++ "dx.doi.org/".toList := rfl
  simp only [resolverAddresses, List.mem_cons, List.not_mem_nil, or_false, exists_eq_or_imp,
    exists_eq_left, h1, h2, h3, h4, caselessPrefix_append, doiResolverRest_eq]
  cases caselessPrefix "http".toList cs with
  | none => simp only [Option.bind_none, Option.isSome_none, Bool.false_eq_true, or_self]
  | some r =>
    -- the two schemes exclude each other, so trying the second after the first loses nothing
    cases hs : caselessPrefix "s://".toList r with
    | some r₂ =>
      simp only [Option.bind_some, hs, caselessPrefix_colon_of_s hs, Option.bind_none,
        Option.orElse_eq_or, Option.some_or, Option.isSome_or, Bool.or_eq_true,
        Option.isSome_none, Bool.false_eq_true, or_false]
      exact or_comm
    | none =>
      simp only [Option.bind_some, hs, Option.bind_none, Option.orElse_none, Option.isSome_none,
        Bool.false_eq_true, false_or]
      cases caselessPrefix "://".toList r with
      | none => simp only [Option.bind_none, Option.isSome_none, Bool.false_eq_true, or_self]
      | some r₂ =>
        simp only [Option.bind_some, Option.orElse_eq_or, Option.isSome_or, Bool.or_eq_true]
        exact or_comm

/-! ## Serial numbers -/

theorem lowerCaseMap_to_x :
    lowerCaseMap.entries.toList.all
      (fun e => e.1 == 0x58 || e.2.head?.all fun v => Char.ofNat v != 'x') = true := by
  decide +kernel

/-- Only the two letters X and x lower-case to x. -/
theorem simpleLower_eq_x_iff (c : Char) : simpleLower c = 'x' ↔ c = 'X' ∨ c = 'x' := by
  constructor
  · intro h
    rcases CodeMap.apply_cases lowerCaseMap lowerCaseMap_find?_zero c with hc | ⟨vs, hvs, hc⟩
    · rw [simpleLower, lowerFull, hc] at h
      exact .inr h
    · rw [simpleLower, lowerFull, hc] at h
      cases vs with
      | nil => exact .inr h
      | cons v vs =>
        have hentry := List.all_eq_true.mp lowerCaseMap_to_x _ hvs
        simp only [List.map_cons, List.headD_cons] at h
        simp only [List.head?_cons, Option.all_some, h, bne_self_eq_false, Bool.or_false,
          beq_iff_eq] at hentry
        left
        rw [← Char.ofNat_toNat c, hentry]
  · rintro (rfl | rfl) <;> decide +kernel

/-- A serial number shaped like an ISBN or ISSN: its first word, without hyphens, is 7, 9 or
12 decimal digits followed by a check character, a decimal digit or an X in either case. -/
def SerialShaped (s : String) : Prop :=
  ∃ first rest, words s = first :: rest ∧ ∃ ds c, first.toList.filter (· != '-') = ds ++ [c] ∧
    (ds.length = 7 ∨ ds.length = 9 ∨ ds.length = 12) ∧ (∀ d ∈ ds, isDecimal d = true) ∧
    (isDecimal c = true ∨ c = 'X' ∨ c = 'x')

theorem looksLikeSerial_iff (s : String) : looksLikeSerial s = true ↔ SerialShaped s := by
  unfold looksLikeSerial SerialShaped
  cases words s with
  | nil => simp
  | cons first rest =>
    simp only [List.cons.injEq, exists_and_right, exists_and_left, exists_eq', and_true,
      exists_eq_left']
    generalize first.toList.filter (· != '-') = cs
    rcases List.eq_nil_or_concat cs with rfl | ⟨ds, c, rfl⟩
    · simp
    · simp [simpleLower_eq_x_iff, or_assoc, and_assoc]

/-! ## The link rule -/

/-- A catalog flag says yes: its first value, in lower case, is one of the yes words. -/
def Flagged (fields : Fields) (name : String) : Prop :=
  lower (firstValue (fields.get name)) ∈ yesWords

theorem flagSet_iff {fields : Fields} {name : String} :
    flagSet fields name = true ↔ Flagged fields name := by
  simp [flagSet, Flagged]

/-- An item born digital: flagged online only, with no serial number shaped like an ISBN or
ISSN. -/
def BornDigital (fields : Fields) : Prop :=
  Flagged fields "is_online_only" ∧ ∀ s ∈ fields.get "serial_number", ¬SerialShaped s

theorem isBornDigital_iff {fields : Fields} : isBornDigital fields = true ↔ BornDigital fields := by
  simp [isBornDigital, BornDigital, flagSet_iff, looksLikeSerial_iff]

/-- The DOI of an item: its first value without a `doi:` label or a resolver address, trimmed. -/
def doiOf (fields : Fields) : String :=
  trim (String.ofList (stripDoiPrefix (firstValue (fields.get "doi")).toList))

/-- The addresses of an item: its address values trimmed, the empty ones left out. -/
def addressesOf (fields : Fields) : List String := ((fields.get "url").map trim).filter (!·.isEmpty)

/-- The address the link rule chooses for an item, if any: the DOI at the resolver when there
is one; otherwise, for an item born digital, its first address at the resolver, or with none
its first address when the catalog flags it as its own. -/
inductive LinkChoice (fields : Fields) : Option String → Prop
  | doi : doiOf fields ≠ "" → LinkChoice fields (some ("https://doi.org/" ++ doiOf fields))
  | resolver {pre post : List String} {u : String} : doiOf fields = "" → BornDigital fields →
      addressesOf fields = pre ++ u :: post → (∀ v ∈ pre, ¬IsResolverAddress v) →
      IsResolverAddress u → LinkChoice fields (some u)
  | catalog {u : String} {rest : List String} : doiOf fields = "" → BornDigital fields →
      addressesOf fields = u :: rest → (∀ v ∈ u :: rest, ¬IsResolverAddress v) →
      Flagged fields "is_virgo_url" → LinkChoice fields (some u)
  | none : doiOf fields = "" →
      (¬BornDigital fields ∨ (∀ v ∈ addressesOf fields, ¬IsResolverAddress v) ∧
        (addressesOf fields = [] ∨ ¬Flagged fields "is_virgo_url")) → LinkChoice fields none

section Rule

variable {fields : Fields}

theorem doiOf_of_firstValue (h : firstValue (fields.get "doi") = "") : doiOf fields = "" := by
  rw [doiOf, h]
  rfl

theorem linkAddress_of_doi (h : doiOf fields ≠ "") :
    linkAddress fields = "https://doi.org/" ++ doiOf fields := by
  have hvalue : firstValue (fields.get "doi") ≠ "" := mt doiOf_of_firstValue h
  unfold linkAddress
  dsimp only
  split
  · split
    · rename_i hempty
      exact absurd (String.isEmpty_iff.mp hempty) h
    · rfl
  · rename_i hblank
    exact absurd (by simpa using hblank) hvalue

theorem linkAddress_of_no_doi (h : firstValue (fields.get "doi") = "") :
    linkAddress fields = if isBornDigital fields then
      match (addressesOf fields).find? (fun u => (doiResolverRest u.toList).isSome) with
      | some u => u
      | none =>
        match addressesOf fields with
        | u :: _ => if flagSet fields "is_virgo_url" then u else ""
        | [] => ""
    else "" := by
  unfold linkAddress
  dsimp only
  rw [h]
  rfl

theorem isResolverAddress_iff {u : String} :
    (doiResolverRest u.toList).isSome = true ↔ IsResolverAddress u :=
  doiResolverRest_isSome_iff u.toList

theorem find?_resolver_eq_some_iff {u : String} :
    (addressesOf fields).find? (fun v => (doiResolverRest v.toList).isSome) = some u ↔
      IsResolverAddress u ∧ ∃ pre post, addressesOf fields = pre ++ u :: post ∧
        ∀ v ∈ pre, ¬IsResolverAddress v := by
  simp [List.find?_eq_some_iff_append, ← isResolverAddress_iff]

theorem find?_resolver_eq_none_iff :
    (addressesOf fields).find? (fun v => (doiResolverRest v.toList).isSome) = none ↔
      ∀ v ∈ addressesOf fields, ¬IsResolverAddress v := by
  simp [← isResolverAddress_iff]

/-- The rule chooses for every item. -/
theorem exists_linkChoice (fields : Fields) : ∃ choice, LinkChoice fields choice := by
  by_cases hd : doiOf fields = ""
  · by_cases hborn : BornDigital fields
    · cases hfind : (addressesOf fields).find? (fun u => (doiResolverRest u.toList).isSome) with
      | some u =>
        obtain ⟨hu, pre, post, hsplit, hpre⟩ := find?_resolver_eq_some_iff.mp hfind
        exact ⟨some u, .resolver hd hborn hsplit hpre hu⟩
      | none =>
        have hnone := find?_resolver_eq_none_iff.mp hfind
        cases hurls : addressesOf fields with
        | nil => exact ⟨none, .none hd (.inr ⟨hnone, .inl hurls⟩)⟩
        | cons u rest =>
          by_cases hcatalog : Flagged fields "is_virgo_url"
          · exact ⟨some u, .catalog hd hborn hurls (hurls ▸ hnone) hcatalog⟩
          · exact ⟨none, .none hd (.inr ⟨hnone, .inr hcatalog⟩)⟩
    · exact ⟨none, .none hd (.inl hborn)⟩
  · exact ⟨_, .doi hd⟩

theorem LinkChoice.ne_empty {u : String} (h : LinkChoice fields (some u)) : u ≠ "" := by
  have hmem : ∀ {v : String}, v ∈ addressesOf fields → v ≠ "" := fun hv => by
    simpa [addressesOf] using (List.mem_filter.mp hv).2
  cases h with
  | doi => exact fun he => by simpa using congrArg String.length he
  | resolver _ _ hsplit => exact hmem (by simp [hsplit])
  | catalog _ _ hurls => exact hmem (by simp [hurls])

/-- Where the DOI value is empty or more than its label, the item links to the address the rule
chooses, or to none. -/
theorem linkAddress_of_choice (hdoi : firstValue (fields.get "doi") = "" ∨ doiOf fields ≠ "")
    {choice : Option String} (h : LinkChoice fields choice) :
    linkAddress fields = choice.getD "" := by
  cases h with
  | doi hd => exact linkAddress_of_doi hd
  | @resolver pre post u hd hborn hsplit hpre hu =>
    rw [linkAddress_of_no_doi (hdoi.resolve_right (not_not.mpr hd)),
      if_pos (isBornDigital_iff.mpr hborn)]
    rw [find?_resolver_eq_some_iff.mpr ⟨hu, pre, post, hsplit, hpre⟩]
    rfl
  | catalog hd hborn hurls hnone hcatalog =>
    rw [linkAddress_of_no_doi (hdoi.resolve_right (not_not.mpr hd)),
      if_pos (isBornDigital_iff.mpr hborn)]
    rw [find?_resolver_eq_none_iff.mpr (hurls ▸ hnone), hurls]
    simp [flagSet_iff.mpr hcatalog]
  | none hd hrest =>
    rw [linkAddress_of_no_doi (hdoi.resolve_right (not_not.mpr hd))]
    rcases hrest with hborn | ⟨hnone, hempty⟩
    · rw [if_neg (mt isBornDigital_iff.mp hborn)]
      rfl
    · rw [find?_resolver_eq_none_iff.mpr hnone]
      rcases hempty with hurls | hcatalog
      · rw [hurls]
        simp
      · cases addressesOf fields <;> simp [mt flagSet_iff.mp hcatalog]

end Rule

/-- The link of an item follows the rule: no link where the rule chooses no address, and
otherwise an anchor to the chosen address, markup escaped, showing the address without its
scheme when asked. This holds wherever the item's DOI value is empty or more than its label or
resolver address: a DOI value that is only a label gives no link at all. -/
theorem buildLink_follows_rule (fields : Fields) (stripProtocol : Bool)
    (hdoi : firstValue (fields.get "doi") = "" ∨ doiOf fields ≠ "") :
    (∃ choice, LinkChoice fields choice) ∧ ∀ choice, LinkChoice fields choice →
      buildLink fields stripProtocol = match choice with
        | none => ""
        | some u => "<a href=\"" ++ escapeMarkup u ++ "\">" ++
            escapeMarkup (if stripProtocol then String.ofList (stripScheme u.toList) else u) ++
            "</a>" := by
  refine ⟨exists_linkChoice fields, fun choice h => ?_⟩
  unfold buildLink
  rw [linkAddress_of_choice hdoi h]
  cases choice with
  | none => rfl
  | some u =>
    have hne : u.isEmpty = false := by simpa using h.ne_empty
    simp only [Option.getD_some, hne, Bool.false_eq_true, if_false]

theorem buildLink_follows_rule_labelled_doi :
    let fields : Fields := ⟨[("doi", ["doi:10.1/x"]), ("url", ["https://example.org/x"])]⟩
    doiOf fields ≠ "" ∧
      buildLink fields true = "<a href=\"https://doi.org/10.1/x\">doi.org/10.1/x</a>" := by
  intro fields
  have hdoi : doiOf fields ≠ "" := by decide +kernel
  refine ⟨hdoi, ?_⟩
  rw [(buildLink_follows_rule fields true (.inr hdoi)).2 _ (.doi hdoi)]
  decide +kernel

/-- Two items on which the rule, read with a DOI that may be only a label and with a capital X
as the only letter of a serial number, goes wrong. A DOI value that is only its label leaves no
DOI, so the rule takes the resolver address of the item born digital, but the item gets no link.
A serial number whose check character is a small x is shaped like an ISBN, so the item is not
born digital and gets no link from the catalog. -/
theorem buildLink_label_only_doi_and_small_x :
    (let fields : Fields := ⟨[("doi", ["doi:"]), ("is_online_only", ["true"]),
        ("url", ["https://doi.org/10.1/x"])]⟩;
      LinkChoice fields (some "https://doi.org/10.1/x") ∧ buildLink fields = "") ∧
    (let fields : Fields := ⟨[("serial_number", ["123456789x"]), ("is_online_only", ["true"]),
        ("url", ["https://example.org/x"]), ("is_virgo_url", ["true"])]⟩;
      looksLikeSerial "123456789x" = true ∧ buildLink fields = "") := by
  refine ⟨?labelOnly, ?smallX⟩
  case labelOnly =>
    intro fields
    refine ⟨@LinkChoice.resolver fields [] [] _ (by decide +kernel)
      (isBornDigital_iff.mp (by decide +kernel)) (by decide +kernel) (by simp)
      (isResolverAddress_iff.mp (by decide +kernel)), by decide +kernel⟩
  case smallX => exact ⟨by decide +kernel, by decide +kernel⟩

end Citations
