import Interner.Proofs.InventoryContents

namespace Interner

open Session

namespace InternTable

/-- What the inventory has under the shape of the table came from exports of that table, at
whatever times, while steps were performed on it. Other shapes may have come from anywhere. -/
inductive Feeds : InternTable → Inventory → Prop
  | fresh {type : RecordType} {config : Config} {t : InternTable} {v : Inventory}
      (hcreate : create type config = .ok t) (hnew : v.records? t.shape = none) : Feeds t v
  | step {t : InternTable} {v : Inventory} (h : Feeds t v) (step : TableStep) :
      Feeds (step.perform t).state v
  | exported {t : InternTable} {v after : Inventory} {events : List Event} (h : Feeds t v)
      (hexport : t.exportTo v = .ok (after, events)) : Feeds t after
  | aside {t : InternTable} {v after : Inventory} (h : Feeds t v)
      (hsame : after.records? t.shape = v.records? t.shape) : Feeds t after

/-- Exports a table after each of several pieces of a run on it. -/
def exportAlong (t : InternTable) (v : Inventory) :
    List (List TableStep) → Except Fault (Inventory × List Event)
  | [] => .ok (v, [])
  | steps :: rest => do
    let t := (Run.all TableStep.perform t steps).state
    let (v, events) ← t.exportTo v
    let (v, more) ← t.exportAlong v rest
    return (v, events ++ more)

theorem sound_of_create {type : RecordType} {config : Config} {t : InternTable}
    (h : create type config = .ok t) : t.Sound := by
  have hempty := represents_of_create h
  exact ⟨hempty.regular_of_forall (List.forall_mem_nil _), type, config, [], hempty⟩

theorem Sound.perform {t : InternTable} (h : t.Sound) (step : TableStep) :
    (step.perform t).state.Sound := by
  obtain ⟨hregular, type, config, rs, h⟩ := h
  have hafter := h.insertAll (step.interned t.shape)
  rw [← TableStep.state_perform h] at hafter
  exact ⟨TableStep.regular_perform h hregular step, type, config, _, hafter⟩

theorem Covers.perform {t : InternTable} (ht : t.Sound) {v : Inventory} (h : t.Covers v)
    (step : TableStep) : (step.perform t).state.Covers v := by
  obtain ⟨-, type, config, rs, ht⟩ := ht
  rw [TableStep.state_perform ht]
  have hafter := ht.insertAll (step.interned t.shape)
  have hshape : (t.insertAll (step.interned t.shape)).shape = t.shape := by
    rw [hafter.shape_eq, ht.shape_eq]
  constructor
  case get?_eq =>
    intro handle r hget
    rw [hshape] at hget
    exact ht.get?_insertAll _ (h.get?_eq handle r hget)
  case size_ne_zero =>
    intro hnamed
    rw [hshape] at hnamed
    have hsize := h.size_ne_zero hnamed
    have hle := (prefix_foldl_extend (type.capacity config) rs (step.interned t.shape)).length_le
    rw [ht.size_eq] at hsize
    rw [hafter.size_eq]
    split
    · exact Nat.one_ne_zero
    · rename_i hunit
      rw [if_neg hunit] at hsize
      omega

theorem Feeds.sound {t : InternTable} {v : Inventory} (h : t.Feeds v) : t.Sound := by
  induction h with
  | fresh hcreate => exact sound_of_create hcreate
  | step _ step ih => exact ih.perform step
  | exported _ _ ih => exact ih
  | aside _ _ ih => exact ih

/-- However often a table was exported and whatever was done with it, it covers the inventory. -/
theorem Feeds.covers {t : InternTable} {v : Inventory} (h : t.Feeds v) : t.Covers v := by
  induction h with
  | fresh _ hnew => exact covers_of_new hnew
  | step h step ih => exact ih.perform h.sound step
  | exported h hexport ih =>
      obtain ⟨after, hafter, hlisted, -⟩ := h.sound.exportTo_of_covers ih
      rw [hafter] at hexport
      cases hexport
      exact h.sound.covers_of_listedIn hlisted
  | aside _ hsame ih => exact ih.congr hsame

theorem Feeds.all {t : InternTable} {v : Inventory} (h : t.Feeds v) (steps : List TableStep) :
    (Run.all TableStep.perform t steps).state.Feeds v :=
  Run.all_induction (motive := fun _ (t : InternTable) => t.Feeds v) h
    (fun _ _ step hbefore => hbefore.step step) steps

/-- Inventories that differ in the shape of a table alone are the same after its export. -/
theorem exportTo_congr {t : InternTable} {v w : Inventory} (hv : t.Feeds v) (hw : t.Feeds w)
    (hothers : ∀ s, t.shape ≠ s → v.records? s = w.records? s) : t.exportTo v = t.exportTo w := by
  obtain ⟨after, hexport, hlisted, hsame⟩ := hv.sound.exportTo_of_covers hv.covers
  obtain ⟨after', hexport', hlisted', hsame'⟩ := hw.sound.exportTo_of_covers hw.covers
  have hafter : after = after' := by
    refine Inventory.ext_records? fun s => ?_
    by_cases hs : t.shape = s
    · rw [← hs, hlisted, hlisted']
    · rw [hsame s hs, hsame' s hs, hothers s hs]
  rw [hexport, hexport', hafter]

theorem shape_all {t : InternTable} (h : t.Sound) (steps : List TableStep) :
    (Run.all TableStep.perform t steps).state.shape = t.shape := by
  obtain ⟨-, type, config, rs, h⟩ := h
  rw [TableStep.state_all h, (h.insertAll _).shape_eq, h.shape_eq]

theorem Feeds.exportTo_later {t : InternTable} {v after : Inventory} {events : List Event}
    (h : t.Feeds v) (hexport : t.exportTo v = .ok (after, events)) (steps : List TableStep) :
    (Run.all TableStep.perform t steps).state.exportTo after =
      (Run.all TableStep.perform t steps).state.exportTo v := by
  obtain ⟨after', hafter, -, hothers⟩ := h.sound.exportTo_of_covers h.covers
  rw [hafter] at hexport
  cases hexport
  refine exportTo_congr ((h.exported hafter).all steps) (h.all steps) fun s hs => hothers s ?_
  rwa [shape_all h.sound] at hs

/-- Of several exports along a run, the last one alone leads to the same inventory. -/
theorem Feeds.exportAlong_eq {t : InternTable} {v : Inventory} (h : t.Feeds v)
    {pieces : List (List TableStep)} (hpieces : pieces ≠ []) :
    t.exportAlong v pieces = (Run.all TableStep.perform t pieces.flatten).state.exportTo v := by
  induction pieces generalizing t v with
  | nil => exact absurd rfl hpieces
  | cons steps rest ih =>
      have hnow := h.all steps
      obtain ⟨between, hexport, -⟩ := hnow.sound.exportTo_of_covers hnow.covers
      rw [List.flatten_cons, Run.state_all_append, exportAlong]
      simp only [hexport]
      cases rest with
      | nil => exact hexport.symm
      | cons steps' rest =>
          have hlast := hnow.all (steps' :: rest).flatten
          obtain ⟨after, hafter, -⟩ := hlast.sound.exportTo_of_covers hlast.covers
          change (exportAlong _ between (steps' :: rest) >>= fun p => _) = _
          rw [ih (hnow.exported hexport) (List.cons_ne_nil steps' rest),
            hnow.exportTo_later hexport, hafter]
          rfl

structure ExportLaw (t : InternTable) (v : Inventory) : Prop where
  /-- At any time an export brings the shape of the table up to date, leaves all others as they
  were and reports nothing; one more changes nothing. -/
  exported : ∀ steps : List TableStep,
    let now := (Run.all TableStep.perform t steps).state
    ∃ after, now.exportTo v = .ok (after, []) ∧ now.ListedIn after ∧
      (∀ s, t.shape ≠ s → after.records? s = v.records? s) ∧ now.exportTo after = .ok (after, [])
  along : ∀ pieces : List (List TableStep), pieces ≠ [] →
    t.exportAlong v pieces = (Run.all TableStep.perform t pieces.flatten).state.exportTo v

theorem Feeds.exportLaw {t : InternTable} {v : Inventory} (h : t.Feeds v) : t.ExportLaw v := by
  constructor
  case exported =>
    intro steps now
    have hnow : now.Feeds v := h.all steps
    obtain ⟨after, hexport, hlisted, hothers⟩ := hnow.sound.exportTo_of_covers hnow.covers
    have hshape : now.shape = t.shape := shape_all h.sound steps
    rw [hshape] at hothers
    exact ⟨after, hexport, hlisted, hothers, (hnow.exportTo_later hexport []).trans hexport⟩
  case along => exact fun pieces => h.exportAlong_eq

end InternTable

/-- Tables may be exported into an inventory again and again, each at its own times and in any order:
each export only brings the shape of its table up to date, and nothing is ever reported. -/
theorem repeated_exports_bring_up_to_date (tables : List InternTable) (v : Inventory)
    (hfeeds : ∀ t ∈ tables, t.Feeds v)
    (hshapes : ∀ t ∈ tables, ∀ u ∈ tables, t.shape = u.shape → t = u) :
    (∀ t ∈ tables, t.ExportLaw v) ∧
      ∃ after, (∀ order, order.Perm tables → Registry.exportAll v order = .ok (after, [])) ∧
        (∀ t ∈ tables, t.ListedIn after) ∧
        ∀ s, (∀ t ∈ tables, t.shape ≠ s) → after.records? s = v.records? s := by
  have hsound : ∀ t ∈ tables, t.Sound := fun t ht => (hfeeds t ht).sound
  have hcovers : ∀ t ∈ tables, t.Covers v := fun t ht => (hfeeds t ht).covers
  obtain ⟨after, hexport, hlisted, hothers⟩ :=
    Registry.exportAll_of_covers hsound hcovers hshapes
  refine ⟨fun t ht => (hfeeds t ht).exportLaw, after, ?_, hlisted, hothers⟩
  intro order hperm
  rw [Registry.exportAll_perm hperm hsound hcovers hshapes, hexport]

theorem grown_pair_table_exported_again :
    let pair : RecordType := { shape := { id := 0, name := "pair", arity := 2 } }
    let edge : RecordType := { shape := { id := 1, name := "edge", arity := 2 } }
    let config : Config := { blockSize := 2, maxRecords := 4 }
    ∃ t u : InternTable, InternTable.create pair config = .ok t ∧
      InternTable.create edge config = .ok u ∧
      let first := (Run.all TableStep.perform t [.intern [1, 2]]).state
      let later := (Run.all TableStep.perform first [.intern [3, 4]]).state
      ∃ v, first.exportTo {} = .ok (v, []) ∧ later.Feeds v ∧ u.Feeds v ∧ ∃ after,
        Registry.exportAll v [later, u] = .ok (after, []) ∧
        Registry.exportAll v [u, later] = .ok (after, []) ∧
        after.get? pair.shape 2 = some [3, 4] ∧ after.records? edge.shape = none := by
  intro pair edge config
  have haccept : config.accept = .ok () := Config.accept_eq_ok_iff.mpr (by decide)
  obtain ⟨t, ht, hpair⟩ := InternTable.represents_create pair haccept
  obtain ⟨u, hu, hedge⟩ := InternTable.represents_create edge haccept
  refine ⟨t, u, ht, hu, ?_⟩
  intro first later
  have hfirst : first.Feeds {} := (InternTable.Feeds.fresh ht (Inventory.records?_empty _)).all _
  obtain ⟨v, hv, -, hothers⟩ := hfirst.sound.exportTo_of_covers hfirst.covers
  have hlater : later.Represents pair config [[1, 2], [3, 4]] :=
    TableStep.represents_all hpair [.intern [1, 2], .intern [3, 4]]
  have hne : later.shape ≠ u.shape := by
    rw [hlater.shape_eq, hedge.shape_eq]
    decide
  have hunknown : v.records? u.shape = none := by
    rw [hothers u.shape (InternTable.shape_all hfirst.sound _ ▸ hne), Inventory.records?_empty]
  have hgrown : later.Feeds v := (hfirst.exported hv).all _
  have hempty : u.Feeds v := .fresh hu hunknown
  have hfeeds : ∀ w ∈ [later, u], w.Feeds v := by
    rw [List.forall_mem_cons, List.forall_mem_singleton]
    exact ⟨hgrown, hempty⟩
  have hshapes : ∀ w ∈ [later, u], ∀ w' ∈ [later, u], w.shape = w'.shape → w = w' := by
    simp [hne, hne.symm]
  obtain ⟨-, after, hall, hlisted, -⟩ :=
    repeated_exports_bring_up_to_date [later, u] v hfeeds hshapes
  rw [List.forall_mem_cons, List.forall_mem_singleton] at hlisted
  obtain ⟨hpairs, hedges⟩ := hlisted
  refine ⟨v, hv, hgrown, hempty, after, hall _ (List.Perm.refl _), hall _ (List.Perm.swap _ _ _),
    ?_, ?_⟩
  · rw [InternTable.ListedIn, hlater.size_eq, hlater.shape_eq] at hpairs
    rw [Inventory.get?, hpairs]
    change later.listing[(2 : Handle)]? = _
    rw [hlater.getElem?_listing]
    exact hlater.get?_ofIndex (Nat.lt_succ_self 1)
  · rw [InternTable.ListedIn, hedge.size_eq, hedge.shape_eq] at hedges
    exact hedges

end Interner
