import Interner.Proofs.HandleStability
import Interner.Proofs.NestedRecords

/-!
What handles denote in a registry: nested records, through all their levels. A handle denotes at most
one nested record of its type, a nested record has at most one handle, and to resolve the handle gives
the nested record back.
-/

namespace Interner

open Session

namespace InternTable

theorem ne_null_of_get? {t : InternTable} {h : Handle} {r : Record} (hget : t.get? h = some r) :
    h ≠ Handle.null := by
  rintro rfl
  rw [get?] at hget
  rcases hunit : t.unit with _ | unit
  · rw [hunit, Handle.index?_eq_none_iff.mpr (by decide)] at hget
    cases hget
  · rw [hunit] at hget
    cases hget

end InternTable

namespace Registry

theorem Names.ne_null {g : Registry} {s : Shape} {h : Handle} {r : Record} (hname : g.Names s h r) :
    h ≠ Handle.null := by
  obtain ⟨t, -, -, hget⟩ := hname
  exact InternTable.ne_null_of_get? hget

theorem Names.handle_unique {g : Registry} (hg : g.Sound) {s : Shape} {h h' : Handle} {r : Record}
    (hname : g.Names s h r) (hname' : g.Names s h' r) : h = h' := by
  obtain ⟨t, hfind, -, hget⟩ := hname
  obtain ⟨u, hfind', -, hget'⟩ := hname'
  rw [hfind] at hfind'
  cases hfind'
  obtain ⟨type, rs, hrepresents⟩ := hg.represents s t hfind
  exact hrepresents.handle_unique hget hget'

/-- What a handle stands for in one registry, it stands for in the other. -/
def Extends (g g' : Registry) : Prop :=
  ∀ s h r, g.Names s h r → g'.Names s h r

theorem Extends.refl (g : Registry) : g.Extends g := fun _ _ _ hname => hname

theorem Extends.trans {g g' g'' : Registry} (h : g.Extends g') (h' : g'.Extends g'') :
    g.Extends g'' := fun s handle r hname => h' s handle r (h s handle r hname)

theorem store_of_find? {g : Registry} (hg : g.Sound) {t : InternTable}
    (hfind : g.find? t.shape = some t) : g.store t = g := by
  have hsame : ∀ old ∈ g.tables, (if old.shape.id = t.shape.id then t else old) = old := by
    intro old hold
    split
    · rename_i hid
      have hfound := find?_eq_of_mem hg.distinct hold
      rw [g.find?_congr hid, hfind, Option.some_inj] at hfound
      exact hfound
    · rfl
  rw [store, List.map_congr_left hsame, List.map_id']

/-- A registry that has a handle stays as it is when the handle is resolved. -/
theorem state_resolve_of_names {g : Registry} (hg : g.Sound) {type : RecordType} {h : Handle}
    {r : Record} (hname : g.Names type.shape h r) :
    ((RegistryStep.resolve type h).perform g).state = g := by
  obtain ⟨t, hfind, hshape, -⟩ := hname
  have hdemand : (RegistryStep.resolve type h).demand? = some ⟨type, some (.resolve h)⟩ := rfl
  rw [RegistryStep.state_perform_of_demand hg hdemand, serve,
    request_of_find? hfind hshape]
  exact store_of_find? hg (hshape ▸ hfind)

end Registry

section Denotation

variable {σ : Schema}

mutual

/-- In the registry the handle stands for the nested record, through all its levels. -/
def Term.Denotes (g : Registry) {type : RecordType} : Term σ type → Handle → Prop
  | .node type fields, h => ∃ values, g.Names type.shape h values ∧ fields.Denote g values

def Fields.Denote (g : Registry) {kinds : List FieldKind} : Fields σ kinds → Record → Prop
  | .nil, values => values = []
  | .plain n rest, values => ∃ more, values = n :: more ∧ rest.Denote g more
  | .absent rest, values => ∃ more, values = Handle.null :: more ∧ rest.Denote g more
  | .child t rest, values => ∃ h more, values = h :: more ∧ t.Denotes g h ∧ rest.Denote g more

end

variable {g g' : Registry}

theorem Term.Denotes.ne_null {type : RecordType} {t : Term σ type} {h : Handle}
    (ht : t.Denotes g h) : h ≠ Handle.null := by
  cases t with
  | node type fields =>
      obtain ⟨values, hname, -⟩ := ht
      exact hname.ne_null

mutual

theorem Term.Denotes.mono (hextends : g.Extends g') {type : RecordType} {h : Handle} :
    {t : Term σ type} → t.Denotes g h → t.Denotes g' h
  | .node type fields, ht => by
    obtain ⟨values, hname, hfields⟩ := ht
    exact ⟨values, hextends _ _ _ hname, hfields.mono hextends⟩

theorem Fields.Denote.mono (hextends : g.Extends g') {kinds : List FieldKind} {values : Record} :
    {fields : Fields σ kinds} → fields.Denote g values → fields.Denote g' values
  | .nil, hnil => hnil
  | .plain n rest, hfields => by
    obtain ⟨more, hvalues, hrest⟩ := hfields
    exact ⟨more, hvalues, hrest.mono hextends⟩
  | .absent rest, hfields => by
    obtain ⟨more, hvalues, hrest⟩ := hfields
    exact ⟨more, hvalues, hrest.mono hextends⟩
  | .child t rest, hfields => by
    obtain ⟨h, more, hvalues, ht, hrest⟩ := hfields
    exact ⟨h, more, hvalues, ht.mono hextends, hrest.mono hextends⟩

end

mutual

/-- A nested record has one handle. -/
theorem Term.Denotes.handle_unique (hg : g.Sound) {type : RecordType} {h h' : Handle} :
    {t : Term σ type} → t.Denotes g h → t.Denotes g h' → h = h'
  | .node type fields, ht, ht' => by
    obtain ⟨values, hname, hfields⟩ := ht
    obtain ⟨values', hname', hfields'⟩ := ht'
    obtain rfl := hfields.values_unique hg hfields'
    exact hname.handle_unique hg hname'

theorem Fields.Denote.values_unique (hg : g.Sound) {kinds : List FieldKind}
    {values values' : Record} :
    {fields : Fields σ kinds} → fields.Denote g values → fields.Denote g values' → values = values'
  | .nil, hnil, hnil' => hnil.trans hnil'.symm
  | .plain n rest, hfields, hfields' => by
    obtain ⟨more, rfl, hrest⟩ := hfields
    obtain ⟨more', rfl, hrest'⟩ := hfields'
    rw [hrest.values_unique hg hrest']
  | .absent rest, hfields, hfields' => by
    obtain ⟨more, rfl, hrest⟩ := hfields
    obtain ⟨more', rfl, hrest'⟩ := hfields'
    rw [hrest.values_unique hg hrest']
  | .child t rest, hfields, hfields' => by
    obtain ⟨h, more, rfl, ht, hrest⟩ := hfields
    obtain ⟨h', more', rfl, ht', hrest'⟩ := hfields'
    rw [ht.handle_unique hg ht', hrest.values_unique hg hrest']

end

mutual

/-- To resolve the handle of a nested record gives this record. -/
theorem Term.Denotes.resolves (hg : g.Sound) {type : RecordType} {h : Handle} :
    {t : Term σ type} → t.Denotes g h → Term.Resolves g h t g
  | .node type fields, ht => by
    obtain ⟨values, hname, hfields⟩ := ht
    refine .node (RegistryStep.dereference_of_names hname).1 ?_
    rw [Registry.state_resolve_of_names hg hname]
    exact hfields.resolve hg

theorem Fields.Denote.resolve (hg : g.Sound) {kinds : List FieldKind} {values : Record} :
    {fields : Fields σ kinds} → fields.Denote g values → Fields.Resolve g values fields g
  | .nil, hnil => by
    obtain rfl := hnil
    exact .nil
  | .plain n rest, hfields => by
    obtain ⟨more, rfl, hrest⟩ := hfields
    exact .plain (hrest.resolve hg)
  | .absent rest, hfields => by
    obtain ⟨more, rfl, hrest⟩ := hfields
    exact .absent (by decide) (hrest.resolve hg)
  -- A reference is absent exactly if its handle is null, and no table issues that handle.
  | .child t rest, hfields => by
    obtain ⟨h, more, rfl, ht, hrest⟩ := hfields
    have hnull : ¬ Handle.isNull h := by
      simpa [Handle.isNull] using ht.ne_null
    exact .child hnull (ht.resolves hg) (hrest.resolve hg)

end

theorem Term.Denotes.resolves_iff (hg : g.Sound) {type : RecordType} {t t' : Term σ type}
    {h : Handle} (ht : t.Denotes g h) : Term.Resolves g h t' g' ↔ t' = t ∧ g' = g := by
  constructor
  · intro hresolves
    exact hresolves.deterministic (ht.resolves hg)
  · rintro ⟨rfl, rfl⟩
    exact ht.resolves hg

/-- A handle stands for one nested record of its type. -/
theorem Term.Denotes.unique (hg : g.Sound) {type : RecordType} {h : Handle} {t t' : Term σ type}
    (ht : t.Denotes g h) (ht' : t'.Denotes g h) : t = t' :=
  ((ht'.resolves_iff hg).mp (ht.resolves hg)).1

end Denotation

end Interner
