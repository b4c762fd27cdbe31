import Interner.Proofs.ProcessRegistry

namespace Interner

namespace Config

theorem field_nil (layer : Layer) (name : String) (default : UInt64) :
    field [(.environment, layer), (.file, [])] name default =
      field [(.environment, layer)] name default := by
  have hempty : Layer.find? [] name = none := rfl
  simp only [field, said?, List.findSome?_cons, List.findSome?_nil, hempty, Option.map_none]

theorem load_of_document {file : Option String} {entries : Toml.Entries}
    (h : document? file = some entries) (environment : Environment) :
    load file environment =
      ofLayers (sources (variableSettings environment) (entrySettings entries)) := by
  rw [sources, ← ofEnvironment_eq, ← ofEntries_eq]
  cases file with
  | none =>
      cases h
      have hlayer : Layer.ofEntries [] = [] := rfl
      rw [load, ofEnvironment, ofLayers, ofLayers, hlayer, field_nil, field_nil]
  | some text =>
      have hparsed : Toml.parse? (Toml.dropMark text.toList) = some entries := h
      rw [load, hparsed]

theorem load_of_malformed {file : Option String} (h : document? file = none)
    (environment : Environment) : load file environment = .error .malformedFile := by
  cases file with
  | none => cases h
  | some text =>
      have hparsed : Toml.parse? (Toml.dropMark text.toList) = none := h
      rw [load, hparsed]

/-- The block size that the environment and the entries of a file combine to. -/
def BlockSize (environment : Environment) (entries : Toml.Entries) (n : UInt64) : Prop :=
  Combined (variableSettings environment) (entrySettings entries) "block_size"
    ({} : Config).blockSize n

def MaxRecords (environment : Environment) (entries : Toml.Entries) (n : UInt64) : Prop :=
  Combined (variableSettings environment) (entrySettings entries) "max_records"
    ({} : Config).maxRecords n

/-- Loading stops at a field that a key leads inside: it is a list or a map and no counter. -/
def StopsInside (file : Option String) (environment : Environment) (entries : Toml.Entries) :
    Prop :=
  ∃ name ∈ fieldNames, ∃ origin setting,
    (origin.settings (variableSettings environment) (entrySettings entries)).LeadInside name ∧
      setting.counter? = none ∧ load file environment = .error (.unsuitable origin name setting)

theorem load_of_combined {file : Option String} {environment : Environment}
    (hdistinct : (variableSettings environment).Distinct) {entries : Toml.Entries}
    (hfile : document? file = some entries) {c : Config}
    (hblockSize : BlockSize environment entries c.blockSize)
    (hmaxRecords : MaxRecords environment entries c.maxRecords) :
    load file environment = ((c.accept.mapError .rejected).map fun _ => c) ∨
      StopsInside file environment entries := by
  have hentries := distinct_entrySettings hfile
  have hload := load_of_document hfile environment
  rcases field_of_combined (by decide) hdistinct hentries hblockSize with
    hb | ⟨origin, s, hinside, hs, hb⟩
  · rcases field_of_combined (by decide) hdistinct hentries hmaxRecords with
      hm | ⟨origin, s, hinside, hs, hm⟩
    · exact .inl (hload.trans (ofLayers_of_fields hb hm))
    · refine .inr ⟨"max_records", by decide, origin, s, hinside, hs, hload.trans ?_⟩
      rw [ofLayers]
      dsimp only
      rw [hb, hm]
      rfl
  · refine .inr ⟨"block_size", by decide, origin, s, hinside, hs, hload.trans ?_⟩
    rw [ofLayers]
    dsimp only
    rw [hb]
    rfl

structure LoadingLaw (file : Option String) (environment : Environment) : Prop where
  malformed : document? file = none → load file environment = .error .malformedFile
  combined : ∀ entries c, document? file = some entries → load file environment = .ok c →
    BlockSize environment entries c.blockSize ∧ MaxRecords environment entries c.maxRecords
  accepted : ∀ c : Config, load file environment = .ok c → c.accept = .ok ()
  /-- If what the sources combine to is accepted, then it is what is loaded. -/
  loaded : ∀ entries (c : Config), document? file = some entries →
    BlockSize environment entries c.blockSize → MaxRecords environment entries c.maxRecords →
    c.accept = .ok () → load file environment = .ok c ∨ StopsInside file environment entries
  rejected : ∀ entries (c : Config) cause, document? file = some entries →
    BlockSize environment entries c.blockSize → MaxRecords environment entries c.maxRecords →
    c.accept = .error cause →
    load file environment = .error (.rejected cause) ∨ StopsInside file environment entries
  /-- Only variables and entries count whose key starts at a field. -/
  unaffected : ∀ file' environment' entries entries', document? file = some entries →
    document? file' = some entries' →
    (variableSettings environment').aboutFields = (variableSettings environment).aboutFields →
    (entrySettings entries').aboutFields = (entrySettings entries).aboutFields →
    load file' environment' = load file environment
  environment_alone : ofEnvironment environment = load none environment
  process : ∀ steps, Session.ProcessLaw environment steps

end Config

open Config

/-- Loading combines the environment, the file and the defaults field by field, and gives only what
is accepted. -/
theorem loading_combines_sources_by_field (file : Option String) (environment : Environment)
    (hdistinct : (variableSettings environment).Distinct) : LoadingLaw file environment := by
  constructor
  case malformed =>
    intro hfile
    exact load_of_malformed hfile environment
  case combined =>
    intro entries c hfile hload
    rw [load_of_document hfile] at hload
    obtain ⟨hblockSize, hmaxRecords, -⟩ := fields_of_ofLayers hload
    exact ⟨combined_of_field (by decide) hblockSize, combined_of_field (by decide) hmaxRecords⟩
  case accepted =>
    intro c hload
    rcases hfile : document? file with _ | entries
    · rw [load_of_malformed hfile] at hload
      cases hload
    · rw [load_of_document hfile] at hload
      exact (fields_of_ofLayers hload).2.2
  case loaded =>
    intro entries c hfile hblockSize hmaxRecords haccept
    have hload := load_of_combined hdistinct hfile hblockSize hmaxRecords
    rw [haccept] at hload
    exact hload
  case rejected =>
    intro entries c cause hfile hblockSize hmaxRecords haccept
    have hload := load_of_combined hdistinct hfile hblockSize hmaxRecords
    rw [haccept] at hload
    exact hload
  case unaffected =>
    intro file' environment' entries entries' hfile hfile' hvariables hentries
    have hfield : ∀ name ∈ fieldNames, ∀ default,
        field (sources (variableSettings environment') (entrySettings entries')) name default =
          field (sources (variableSettings environment) (entrySettings entries)) name default := by
      intro name hname default
      simp only [field, said?_sources]
      rw [← find?_aboutFields hname (variableSettings environment'), hvariables,
        find?_aboutFields hname, ← find?_aboutFields hname (entrySettings entries'), hentries,
        find?_aboutFields hname]
    rw [load_of_document hfile, load_of_document hfile', ofLayers, ofLayers]
    dsimp only
    rw [hfield "block_size" (by decide), hfield "max_records" (by decide)]
  case environment_alone => rfl
  case process => exact Session.processLaw environment

theorem environment_overrides_file :
    let environment : Environment :=
      [("RECORDS__BLOCK_SIZE", "512"), ("HOME", "/root"), ("records__Nested__Key", "x")]
    let file := "max_records = 2000\nblock_size = 256\n"
    (variableSettings environment).Distinct ∧
      load (some file) environment = .ok { blockSize := 512, maxRecords := 2000 } ∧
      ∃ entries, document? (some file) = some entries ∧ BlockSize environment entries 512 ∧
        MaxRecords environment entries 2000 := by
  intro environment file
  have hkeys : (variableSettings environment).map Prod.fst =
      ["block_size".toList, "nested.key".toList] := rfl
  have hdistinct : (variableSettings environment).Distinct := by
    rw [Settings.Distinct, hkeys]
    decide
  have hload : load (some file) environment = .ok { blockSize := 512, maxRecords := 2000 } := by
    decide +kernel
  have hread : (document? (some file)).isSome := by decide +kernel
  obtain ⟨entries, hfile⟩ := Option.isSome_iff_exists.mp hread
  have hlaw := loading_combines_sources_by_field (some file) environment hdistinct
  exact ⟨hdistinct, hload, entries, hfile, hlaw.combined _ _ hfile hload⟩

end Interner
