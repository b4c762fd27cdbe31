import Interner.Config.Load
import Interner.Proofs.AcceptedConfig
import Interner.Proofs.Runs
import Interner.Proofs.TomlKeys
import Mathlib.Data.List.Nodup
import Mathlib.Data.List.TakeDrop

/-!
Layers of settings. Each source gives settings under keys; a key that is the name of a field gives the
field, and one that leads inside a field makes it a list or a map, which is no counter. Of several
layers the first that speaks about a field decides.
-/

namespace Interner.Config

/-- Keys with the settings that a source gives under them, in order. -/
abbrev Settings := List (List Char × Setting)

def variableSettings (environment : Environment) : Settings :=
  environment.filterMap fun (name, value) =>
    (Layer.variableKey? name).map fun key => (key, Setting.ofVariable value.toList)

def entrySettings (entries : Toml.Entries) : Settings :=
  entries.map fun (key, node) => (key, Setting.ofNode node)

/-- The document in a file; a file that is not there counts as an empty one. -/
def document? : Option String → Option Toml.Entries
  | none => some []
  | some text => Toml.parse? (Toml.dropMark text.toList)

namespace Settings

def Distinct (given : Settings) : Prop := (given.map Prod.fst).Nodup

def layer (given : Settings) : Layer := given.map fun entry => Layer.assignment entry.1 entry.2

/-- A key leads to a place inside a field. -/
def LeadInside (given : Settings) (name : String) : Prop :=
  ∃ key setting, (key, setting) ∈ given ∧ (resolve key).1 = name.toList ∧ (resolve key).2.isSome

/-- The key of a setting starts at a field. -/
def isAboutField (entry : List Char × Setting) : Bool :=
  fieldNames.any fun name => (resolve entry.1).1 = name.toList

def aboutFields (given : Settings) : Settings := given.filter isAboutField

end Settings

open Settings

theorem Settings.Distinct.unique {given : Settings} (h : given.Distinct) {key : List Char}
    {setting setting' : Setting} (hmem : (key, setting) ∈ given) (hmem' : (key, setting') ∈ given) :
    setting = setting' :=
  (Prod.mk.inj (List.inj_on_of_nodup_map h hmem hmem' rfl)).2

theorem ofEnvironment_eq (environment : Environment) :
    Layer.ofEnvironment environment = (variableSettings environment).layer := by
  rw [Layer.ofEnvironment, layer, variableSettings, List.map_filterMap]
  refine congrArg (List.filterMap · environment) (funext fun entry => ?_)
  rw [Option.map_map]
  rfl

theorem ofEntries_eq (entries : Toml.Entries) :
    Layer.ofEntries entries = (entrySettings entries).layer := by
  rw [Layer.ofEntries, layer, entrySettings, List.map_map]
  rfl

theorem distinct_entrySettings {file : Option String} {entries : Toml.Entries}
    (h : document? file = some entries) : (entrySettings entries).Distinct := by
  rw [Settings.Distinct, entrySettings, List.map_map]
  cases file with
  | none =>
      cases h
      exact List.nodup_nil
  | some text => exact Toml.distinct_of_parse? h

theorem eq_of_namedPart? {part name : List Char} (h : namedPart? part = some (name, false)) :
    part = name := by
  rw [namedPart?] at h
  split at h
  · cases h
  · rename_i hspan
    cases h
    rw [List.span_eq_takeWhile_dropWhile] at hspan
    obtain ⟨hname, hrest⟩ := Prod.mk.inj hspan
    calc
      part = part.takeWhile isNameChar ++ part.dropWhile isNameChar :=
        List.takeWhile_append_dropWhile.symm
      _ = name := by rw [hname, hrest, List.append_nil]
  · split at h
    · split at h
      · cases h
      · cases h
    · cases h

theorem fst_resolve_of_none {key : List Char} (h : (resolve key).2 = none) :
    (resolve key).1 = key := by
  have hjoin : ['.'].intercalate (key.splitOnP (· == '.')) = key := List.intercalate_splitOn '.'
  rw [resolve] at h ⊢
  generalize key.splitOnP (· == '.') = parts at h hjoin ⊢
  match parts with
  | [] => rfl
  | [part] =>
    rw [List.intercalate_singleton] at hjoin
    rw [List.mapM_cons, List.mapM_nil] at h ⊢
    rcases hpart : namedPart? part with _ | ⟨name, subscripted⟩
    · rfl
    · rw [hpart] at h
      cases subscripted with
      | true => cases h
      | false => exact (eq_of_namedPart? hpart).symm.trans hjoin
  | part :: next :: rest =>
    rw [List.mapM_cons, List.mapM_cons] at h ⊢
    rcases hpart : namedPart? part with _ | ⟨name, subscripted⟩
    · rfl
    · rcases hnext : namedPart? next with _ | second
      · rfl
      · rcases hrest : rest.mapM namedPart? with _ | others
        · rfl
        · rw [hpart, hnext, hrest] at h
          cases subscripted with
          | true => cases h
          | false => cases h

theorem counter?_of_resolve {key : List Char} {setting : Setting}
    (h : (resolve key).2 = some setting) : setting.counter? = none := by
  rw [resolve] at h
  split at h
  · cases h
  · split at h
    · cases h
      rfl
    · cases h
      rfl
  · cases h

theorem resolve_of_mem_fieldNames :
    ∀ name ∈ fieldNames, resolve name.toList = (name.toList, none) := by
  decide

section Layers

variable {given : Settings} {name : String} {setting : Setting}

theorem mem_of_find? {layer : Layer} (h : layer.find? name = some setting) :
    (name.toList, setting) ∈ layer := by
  obtain ⟨later, earlier, hlayer, -⟩ := List.lookup_eq_some_iff.mp h
  rw [← List.mem_reverse, hlayer]
  exact List.mem_append_right later List.mem_cons_self

theorem mem_or_leadInside_of_find? (h : given.layer.find? name = some setting) :
    (name.toList, setting) ∈ given ∨ given.LeadInside name ∧ setting.counter? = none := by
  obtain ⟨⟨key, own⟩, hmem, hassigned⟩ := List.mem_map.mp (mem_of_find? h)
  have hassignment : ((resolve key).1, (resolve key).2.getD own) = (name.toList, setting) :=
    hassigned
  obtain ⟨hname, hsetting⟩ := Prod.mk.inj hassignment
  rcases hwhole : (resolve key).2 with _ | whole
  · rw [hwhole, Option.getD_none] at hsetting
    rw [fst_resolve_of_none hwhole] at hname
    exact .inl (hname ▸ hsetting ▸ hmem)
  · rw [hwhole, Option.getD_some] at hsetting
    refine .inr ⟨⟨key, own, hmem, hname, Option.isSome_of_mem hwhole⟩, ?_⟩
    exact counter?_of_resolve (hsetting ▸ hwhole)

theorem notMem_of_find?_eq_none (hname : name ∈ fieldNames) (h : given.layer.find? name = none)
    (setting : Setting) : (name.toList, setting) ∉ given := by
  intro hmem
  have hresolve := resolve_of_mem_fieldNames name hname
  have hassigned : (name.toList, setting) ∈ given.layer := by
    refine List.mem_map.mpr ⟨_, hmem, ?_⟩
    simp only [Layer.assignment, hresolve, Option.getD_none]
  have hne := List.lookup_eq_none_iff.mp h _ (List.mem_reverse.mpr hassigned)
  simp at hne

theorem find?_aboutFields (hname : name ∈ fieldNames) (given : Settings) :
    given.aboutFields.layer.find? name = given.layer.find? name := by
  rw [Layer.find?, Layer.find?, layer, layer, ← List.map_reverse, ← List.map_reverse, aboutFields,
    ← List.filter_reverse]
  induction given.reverse with
  | nil => rfl
  | cons entry rest ih =>
      by_cases hfield : isAboutField entry
      · rw [List.filter_cons_of_pos hfield, List.map_cons, List.map_cons, Layer.assignment,
          List.lookup_cons, List.lookup_cons, ih]
      · have hother : (name.toList == (resolve entry.1).1) = false := by
          rw [beq_eq_false_iff_ne]
          intro heq
          exact hfield (List.any_eq_true.mpr ⟨name, hname, decide_eq_true heq.symm⟩)
        rw [List.filter_cons_of_neg hfield, ih, List.map_cons, Layer.assignment, List.lookup_cons,
          hother]

end Layers

/-- The number that a field gets: what the first source says if it gives the field, what the second
says if only that does, and the default otherwise. -/
inductive Combined (first second : Settings) (name : String) (default : UInt64) : UInt64 → Prop
  | first {setting : Setting} {n : UInt64} (h : (name.toList, setting) ∈ first)
      (hn : setting.counter? = some n) : Combined first second name default n
  | second {setting : Setting} {n : UInt64} (hunset : ∀ setting, (name.toList, setting) ∉ first)
      (h : (name.toList, setting) ∈ second) (hn : setting.counter? = some n) :
      Combined first second name default n
  | default (hunset : ∀ setting, (name.toList, setting) ∉ first)
      (hunset' : ∀ setting, (name.toList, setting) ∉ second) :
      Combined first second name default default

/-- Of the settings of the environment and those of the file, the ones with the given origin. -/
def Origin.settings (first second : Settings) : Origin → Settings
  | environment => first
  | file => second

/-- The layers of the environment and of the file. -/
def sources (first second : Settings) : List (Origin × Layer) :=
  [(.environment, first.layer), (.file, second.layer)]

section Fields

variable {first second : Settings} {name : String} {origin : Origin} {setting : Setting}
  {default n : UInt64}

theorem said?_sources (first second : Settings) (name : String) :
    said? (sources first second) name =
      ((first.layer.find? name).map (Origin.environment, ·)).or
        ((second.layer.find? name).map (Origin.file, ·)) := by
  rw [said?, sources, List.findSome?_cons, List.findSome?_singleton]
  dsimp only
  rcases first.layer.find? name with _ | setting
  · rfl
  · rfl

/-- What the first of two layers says that speaks about a field is given by a source under the name of
the field, or a key leads inside. -/
theorem said_cases (hname : name ∈ fieldNames)
    (h : said? (sources first second) name = some (origin, setting)) :
    (name.toList, setting) ∈ first ∨
      (∀ setting, (name.toList, setting) ∉ first) ∧ (name.toList, setting) ∈ second ∨
      (origin.settings first second).LeadInside name ∧ setting.counter? = none := by
  rw [said?_sources] at h
  rcases hfirst : first.layer.find? name with _ | said
  · rw [hfirst, Option.map_none, Option.none_or] at h
    obtain ⟨_, hsecond, heq⟩ := Option.map_eq_some_iff.mp h
    cases heq
    rcases mem_or_leadInside_of_find? hsecond with hmem | hinside
    · exact .inr (.inl ⟨notMem_of_find?_eq_none hname hfirst, hmem⟩)
    · exact .inr (.inr hinside)
  · rw [hfirst] at h
    cases h
    rcases mem_or_leadInside_of_find? hfirst with hmem | hinside
    · exact .inl hmem
    · exact .inr (.inr hinside)

theorem unset_of_unsaid (hname : name ∈ fieldNames)
    (h : said? (sources first second) name = none) (setting : Setting) :
    (name.toList, setting) ∉ first ∧ (name.toList, setting) ∉ second := by
  rw [said?_sources, Option.or_eq_none_iff, Option.map_eq_none_iff, Option.map_eq_none_iff] at h
  exact ⟨notMem_of_find?_eq_none hname h.1 setting, notMem_of_find?_eq_none hname h.2 setting⟩

theorem combined_of_field (hname : name ∈ fieldNames)
    (h : field (sources first second) name default = .ok n) :
    Combined first second name default n := by
  rw [field] at h
  rcases hsaid : said? (sources first second) name with _ | ⟨origin, setting⟩
  · rw [hsaid] at h
    cases h
    have hunset := unset_of_unsaid hname hsaid
    exact .default (fun setting => (hunset setting).1) fun setting => (hunset setting).2
  · rw [hsaid] at h
    rcases hcounter : setting.counter? with _ | k
    · simp only [hcounter] at h
      cases h
    · simp only [hcounter] at h
      cases h
      rcases said_cases hname hsaid with hmem | ⟨hunset, hmem⟩ | ⟨-, hnone⟩
      · exact .first hmem hcounter
      · exact .second hunset hmem hcounter
      · rw [hcounter] at hnone
        cases hnone

/-- A field gets its combined number, unless a key leads inside and so makes it a list or a map. -/
theorem field_of_combined (hname : name ∈ fieldNames) (hfirst : first.Distinct)
    (hsecond : second.Distinct) (h : Combined first second name default n) :
    field (sources first second) name default = .ok n ∨
      ∃ origin setting, (origin.settings first second).LeadInside name ∧
        setting.counter? = none ∧
        field (sources first second) name default = .error (.unsuitable origin name setting) := by
  rcases hsaid : said? (sources first second) name with _ | ⟨origin, said⟩
  · have hunset := unset_of_unsaid hname hsaid
    cases h with
    | first h hn => exact absurd h (hunset _).1
    | second _ h hn => exact absurd h (hunset _).2
    | default _ _ =>
        left
        simp only [field, hsaid]
  · have hok : said.counter? = some n →
        field (sources first second) name default = .ok n := by
      intro hcounter
      simp only [field, hsaid, hcounter]
    rcases said_cases hname hsaid with hmem | ⟨hunset, hmem⟩ | ⟨hinside, hnone⟩
    · cases h with
      | first h hn => exact .inl (hok (hfirst.unique h hmem ▸ hn))
      | second hunset h hn => exact absurd hmem (hunset said)
      | default hunset _ => exact absurd hmem (hunset said)
    · cases h with
      | first h hn => exact absurd h (hunset _)
      | second _ h hn => exact .inl (hok (hsecond.unique h hmem ▸ hn))
      | default _ hunset' => exact absurd hmem (hunset' said)
    · refine .inr ⟨origin, said, hinside, hnone, ?_⟩
      simp only [field, hsaid, hnone]

end Fields

theorem ofLayers_of_fields {layers : List (Origin × Layer)} {c : Config}
    (hblockSize : field layers "block_size" ({} : Config).blockSize = .ok c.blockSize)
    (hmaxRecords : field layers "max_records" ({} : Config).maxRecords = .ok c.maxRecords) :
    ofLayers layers = (c.accept.mapError .rejected).map fun _ => c := by
  rw [ofLayers]
  dsimp only
  rw [hblockSize, hmaxRecords]
  rfl

theorem fields_of_ofLayers {layers : List (Origin × Layer)} {c : Config}
    (h : ofLayers layers = .ok c) :
    field layers "block_size" ({} : Config).blockSize = .ok c.blockSize ∧
      field layers "max_records" ({} : Config).maxRecords = .ok c.maxRecords ∧
      c.accept = .ok () := by
  obtain ⟨blockSize, hblockSize, h⟩ := exists_of_bind h
  obtain ⟨maxRecords, hmaxRecords, h⟩ := exists_of_bind h
  obtain ⟨⟨⟩, haccept, h⟩ := exists_of_bind h
  cases h
  rcases hresult : ({ blockSize, maxRecords } : Config).accept with cause | ⟨⟩
  · rw [hresult] at haccept
    cases haccept
  · exact ⟨hblockSize, hmaxRecords, rfl⟩

theorem exists_said?_of_field {layers : List (Origin × Layer)} {name : String} {default : UInt64}
    {cause : LoadError} (h : field layers name default = .error cause) :
    ∃ origin setting, said? layers name = some (origin, setting) ∧
      cause = .unsuitable origin name setting := by
  rw [field] at h
  split at h
  · cases h
  · rename_i origin setting hsaid
    split at h
    · cases h
    · cases h
      exact ⟨origin, setting, hsaid, rfl⟩

theorem error_cases_of_ofLayers {layers : List (Origin × Layer)} {cause : LoadError}
    (h : ofLayers layers = .error cause) :
    (∃ origin name setting, said? layers name = some (origin, setting) ∧
      cause = .unsuitable origin name setting) ∨ ∃ reason, cause = .rejected reason := by
  rcases hblockSize : field layers "block_size" ({} : Config).blockSize with fault | blockSize
  · rw [ofLayers] at h
    dsimp only at h
    rw [hblockSize] at h
    cases h
    obtain ⟨origin, setting, hsaid, hcause⟩ := exists_said?_of_field hblockSize
    exact .inl ⟨origin, _, setting, hsaid, hcause⟩
  · rcases hmaxRecords : field layers "max_records" ({} : Config).maxRecords with
      fault | maxRecords
    · rw [ofLayers] at h
      dsimp only at h
      rw [hblockSize, hmaxRecords] at h
      cases h
      obtain ⟨origin, setting, hsaid, hcause⟩ := exists_said?_of_field hmaxRecords
      exact .inl ⟨origin, _, setting, hsaid, hcause⟩
    · let c : Config := { blockSize, maxRecords }
      have hresult : ofLayers layers = (c.accept.mapError .rejected).map fun _ => c :=
        ofLayers_of_fields hblockSize hmaxRecords
      rw [hresult] at h
      rcases haccept : c.accept with reason | ⟨⟩
      · rw [haccept] at h
        cases h
        exact .inr ⟨reason, rfl⟩
      · rw [haccept] at h
        cases h

/-- What is wrong with an environment alone is always shown. -/
theorem exists_message?_of_ofEnvironment {environment : Environment} {cause : LoadError}
    (h : ofEnvironment environment = .error cause) : ∃ text, cause.message? = some text := by
  rcases error_cases_of_ofLayers h with ⟨origin, name, setting, hsaid, rfl⟩ | ⟨reason, rfl⟩
  · rw [said?, List.findSome?_singleton] at hsaid
    obtain ⟨_, -, heq⟩ := Option.map_eq_some_iff.mp hsaid
    cases heq
    exact ⟨_, rfl⟩
  · exact ⟨_, rfl⟩

end Interner.Config
