import Citations.Proofs.Faults
import Citations.Proofs.Text
import Citations.Service

/-!
# Download names of the RIS export

The RIS export is offered as a file named after the record: the last segment of the record
address's path that names something (neither empty nor `.`), or `citation` when there is none,
then a period and the format's extension, or `ris` when the configuration gives none.

* `lastSegment_spec`: the segment the name is taken from, stated on the segments of the path.
* `slash_not_mem_lastSegment`: a segment holds no slash.
* `ris_filename`: the name for every record address and every configuration. Its stem is never
  empty and holds no slash, so the name holds a slash exactly when the extension does.

The configuration is free to give an extension with a slash in it, and the name then has one
(`ris_filename_slash_extension`).
-/

namespace Citations

open Citations.Text

/-- A segment of a path that names something: neither empty nor `.`. -/
def NamingSegment (seg : String) : Prop := seg ≠ "" ∧ seg ≠ "."

/-- `seg` is the last segment of `path` that names something. -/
def LastNamingSegment (path seg : String) : Prop :=
  ∃ before after, splitOn "/" path = before ++ seg :: after ∧ NamingSegment seg ∧
    ∀ x ∈ after, ¬ NamingSegment x

theorem kept_iff_namingSegment (seg : String) :
    (seg != "" && seg != ".") = true ↔ NamingSegment seg := by
  simp [NamingSegment]

theorem LastNamingSegment.naming {path seg : String} (h : LastNamingSegment path seg) :
    NamingSegment seg := by
  obtain ⟨_, _, _, hseg, _⟩ := h
  exact hseg

namespace Address

theorem lastSegment_eq_find? (a : Address) :
    a.lastSegment =
      ((splitOn "/" a.path).reverse.find? (fun seg => seg != "" && seg != ".")).getD "" := by
  rw [lastSegment, List.getLastD_eq_getLast?, ← List.head?_reverse, ← List.filter_reverse,
    List.head?_filter]

theorem lastSegment_spec (a : Address) :
    LastNamingSegment a.path a.lastSegment ∨
      (a.lastSegment = "" ∧ ∀ x ∈ splitOn "/" a.path, ¬ NamingSegment x) := by
  rw [lastSegment_eq_find?]
  cases hfind : (splitOn "/" a.path).reverse.find? (fun seg => seg != "" && seg != ".") with
  | none =>
    refine .inr ⟨rfl, fun x hx => ?_⟩
    rw [← kept_iff_namingSegment]
    exact List.find?_eq_none.mp hfind x (List.mem_reverse.mpr hx)
  | some seg =>
    -- read back from the end, the segments after `seg` are those before it in the reversal
    obtain ⟨hseg, later, earlier, hsplit, hlater⟩ := List.find?_eq_some_iff_append.mp hfind
    refine .inl ⟨earlier.reverse, later.reverse, ?_, (kept_iff_namingSegment seg).mp hseg,
      fun x hx => ?_⟩
    · rw [← List.reverse_reverse (splitOn "/" a.path), hsplit]
      simp
    · intro hnaming
      have hkept := hlater x (List.mem_reverse.mp hx)
      rw [(kept_iff_namingSegment x).mpr hnaming] at hkept
      exact absurd hkept (by decide)

/-- The path is cut at its slashes, so no segment holds one. -/
theorem slash_not_mem_lastSegment (a : Address) : '/' ∉ a.lastSegment.toList := by
  intro hmem
  rw [lastSegment_eq_find?] at hmem
  cases hfind : (splitOn "/" a.path).reverse.find? (fun seg => seg != "" && seg != ".") with
  | none => simp [hfind] at hmem
  | some seg =>
    rw [hfind] at hmem
    have hseg : seg ∈ splitOn "/" a.path :=
      List.mem_reverse.mp (List.mem_of_find?_eq_some hfind)
    simp only [splitOn, List.mem_map, show "/".toList = ['/'] from rfl, splitList_single] at hseg
    obtain ⟨piece, hpiece, rfl⟩ := hseg
    exact (mem_splitOn_iff.mp ⟨piece, hpiece, by simpa using hmem⟩).2 rfl

end Address

theorem slash_mem_name_iff {stem ext : String} (h : '/' ∉ stem.toList) :
    '/' ∈ (stem ++ "." ++ ext).toList ↔ '/' ∈ ext.toList := by
  simp [h]

namespace CitationStyle

/-- The RIS file is named after the record's last naming segment, or `citation`, with the
configured extension, or `ris`. -/
theorem ris_filename (config : ServiceConfig) (recordUrl : Option String) :
    let ext := if (config.formatFor "ris").extension.isEmpty then "ris"
      else (config.formatFor "ris").extension
    (recordUrl.getD "" = "" →
      filename config .ris recordUrl = .ok (some ("citation" ++ "." ++ ext))) ∧
    ∀ url a, recordUrl = some url → url ≠ "" → Address.parse url = .ok a →
      ∃ stem, filename config .ris recordUrl = .ok (some (stem ++ "." ++ ext)) ∧
        (LastNamingSegment a.path stem ∨
          (∀ x ∈ splitOn "/" a.path, ¬ NamingSegment x) ∧ stem = "citation") ∧
        stem ≠ "" ∧ '/' ∉ stem.toList ∧
        ('/' ∈ (stem ++ "." ++ ext).toList ↔ '/' ∈ ext.toList) := by
  intro ext
  constructor
  · intro hblank
    cases recordUrl with
    | none => rfl
    | some url =>
      obtain rfl : url = "" := hblank
      rfl
  · rintro url a rfl hurl hparse
    have hname : filename config .ris (some url) =
        .ok (some ((if a.lastSegment.isEmpty then "citation" else a.lastSegment) ++ "." ++
          ext)) := by
      simp [filename, hparse, String.isEmpty_iff, hurl, format, key, ext]
    have hslash : '/' ∉ (if a.lastSegment.isEmpty then "citation" else a.lastSegment).toList := by
      split
      · decide
      · exact a.slash_not_mem_lastSegment
    refine ⟨_, hname, ?_, ?_, hslash, slash_mem_name_iff hslash⟩
    · rcases a.lastSegment_spec with hlast | ⟨hempty, hnone⟩
      · rw [if_neg (by simpa [String.isEmpty_iff] using hlast.naming.1)]
        exact .inl hlast
      · rw [if_pos (by simp [hempty])]
        exact .inr ⟨hnone, rfl⟩
    · split
      · decide
      · rename_i hne
        simpa [String.isEmpty_iff] using hne

theorem ris_filename_record :
    let url := "https://lib.example/item/42/"
    url ≠ "" ∧ ∃ a, Address.parse url = .ok a ∧ a.path = "/item/42/" ∧
      ∃ stem, filename { formats := [] } .ris (some url) = .ok (some (stem ++ "." ++ "ris")) ∧
        LastNamingSegment a.path stem := by
  intro url
  have hpath : (Address.parse url).toOption.map Address.path = some "/item/42/" := by
    decide +kernel
  obtain ⟨a, hparse, hpath⟩ := exists_ok_of_toOption hpath
  obtain ⟨stem, hname, hseg | ⟨hnone, -⟩, -⟩ :=
    (ris_filename { formats := [] } (some url)).2 url a rfl (by decide) hparse
  · exact ⟨by decide, a, hparse, hpath, stem, hname, hseg⟩
  · exact absurd ⟨by decide, by decide⟩ (hnone "42" (by rw [hpath]; decide))

/-- The configuration may give the RIS format an extension with a slash, and the name keeps it. -/
theorem ris_filename_slash_extension :
    let config : ServiceConfig := { formats := [("ris", { label := "RIS", extension := "a/b" })] }
    filename config .ris none = .ok (some "citation.a/b") ∧ '/' ∈ "citation.a/b".toList :=
  ⟨rfl, by decide⟩

end CitationStyle

end Citations
