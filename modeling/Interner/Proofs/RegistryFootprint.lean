import Interner.Proofs.RegistryCharges
import Interner.Proofs.TableFootprint

namespace Interner

open Memory Session InternTable

namespace Registry

theorem mem_tables_iff {g : Registry} (hg : (g.tables.map (·.shape.id)).Nodup) {t : InternTable} :
    t ∈ g.tables ↔ g.find? t.shape = some t :=
  ⟨find?_eq_of_mem hg, mem_of_find?⟩

theorem perm_tables {g : Registry} (hg : (g.tables.map (·.shape.id)).Nodup) (s : Shape) :
    g.tables.Perm ((g.find? s).toList ++ g.tables.filter (·.shape.id ≠ s.id)) := by
  have hothers : (g.tables.filter (·.shape.id ≠ s.id)).Nodup := hg.of_map.filter _
  rw [List.perm_ext_iff_of_nodup hg.of_map]
  · intro t
    rw [List.mem_append, Option.mem_toList, List.mem_filter, decide_eq_true_iff]
    constructor
    · intro ht
      by_cases hid : t.shape.id = s.id
      · exact .inl (g.find?_congr hid ▸ find?_eq_of_mem hg ht)
      · exact .inr ⟨ht, hid⟩
    · rintro (hfind | ⟨ht, -⟩)
      · exact mem_of_find? hfind
      · exact ht
  · rcases hfind : g.find? s with _ | t
    · exact hothers
    · refine List.nodup_cons.mpr ⟨?_, hothers⟩
      simp [id_of_find? hfind]

theorem Filed.perm_others {g after : Registry} {t : InternTable} (h : g.Filed t after)
    (hg : (g.tables.map (·.shape.id)).Nodup) :
    (after.tables.filter (·.shape.id ≠ t.shape.id)).Perm
      (g.tables.filter (·.shape.id ≠ t.shape.id)) := by
  rw [List.perm_ext_iff_of_nodup (h.distinct.of_map.filter _) (hg.of_map.filter _)]
  intro u
  rw [List.mem_filter, List.mem_filter, decide_eq_true_iff, mem_tables_iff h.distinct,
    mem_tables_iff hg, h.find?_eq]
  refine and_congr_left fun hid => ?_
  rw [if_neg hid]

variable {g after : Registry} {t : InternTable} (c : Category) (m : Measure)

theorem Filed.footprints_eq (h : g.Filed t after) (hg : g.Sound) :
    footprints after.tables c m + footprints (g.find? t.shape).toList c m =
      footprints g.tables c m + t.footprint c m := by
  have hfind : after.find? t.shape = some t := by rw [h.find?_eq, if_pos rfl]
  rw [footprints_perm c m (perm_tables h.distinct t.shape),
    footprints_perm c m (perm_tables hg.distinct t.shape), footprints_append, footprints_append,
    footprints_perm c m (h.perm_others hg.distinct), hfind, Option.toList_some, footprints_cons,
    footprints_nil]
  omega

theorem Gives.footprints_eq {type : RecordType} (h : g.Gives type t) (hg : g.Sound) :
    footprints (g.find? type.shape).toList c m = t.footprint c m := by
  obtain ⟨-, hfind | ⟨hnone, hbuild⟩⟩ := h
  · rw [hfind, Option.toList_some, footprints_cons, footprints_nil, Nat.add_zero]
  · obtain ⟨u, hu, hrepresents⟩ := InternTable.represents_build type hg.accepted
    rw [hbuild] at hu
    cases hu
    rw [hnone, hrepresents.footprint_of_nil]
    rfl

theorem total_chargesFor {d : Demand} {events : List Event} (hg : g.Sound)
    (hrequest : g.request d.type = .ok (t, after, events)) (hgives : g.Gives d.type t) :
    t.footprint c m + total (g.chargesFor d) c m = (d.applyTo t).footprint c m := by
  obtain ⟨type, rs, ht⟩ := hgives.represents hg
  obtain ⟨_, _ | step⟩ := d
  · simp only [chargesFor, hrequest]
    rfl
  · simp only [chargesFor, hrequest]
    exact ht.total_charges_perform step c m

theorem footprints_serve (hg : g.Sound) (d : Demand) :
    footprints (g.serve d).tables c m =
      footprints g.tables c m + total (g.chargesFor d) c m := by
  rcases serve_cases hg d with ⟨t, after, events, hrequest, hgives, hfiled⟩ |
    ⟨t, -, -, hrequest, hserve⟩
  · have hshape := (Demand.shape_applyTo (hgives.represents hg) d).trans hgives.1
    have hfootprints := hfiled.footprints_eq c m hg
    rw [hshape, hgives.footprints_eq c m hg, ← total_chargesFor c m hg hrequest hgives]
      at hfootprints
    omega
  · rw [hserve, chargesFor, hrequest]
    exact (Nat.add_zero _).symm

theorem footprints_meet (hg : g.Sound) (d? : Option Demand) :
    footprints (g.meet d?).tables c m =
      footprints g.tables c m + total (g.chargesToMeet d?) c m := by
  rcases d? with _ | d
  · exact (Nat.add_zero _).symm
  · exact footprints_serve c m hg d

end Registry

end Interner
