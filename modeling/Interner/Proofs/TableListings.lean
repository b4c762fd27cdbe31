import Interner.Inventory
import Interner.Proofs.TableSteps
import Mathlib.Data.List.Sort

namespace Interner

open Session

namespace InternTable

/-- Every record of the table has as many fields as the shape of the table says. -/
def Regular (t : InternTable) : Prop :=
  ∀ handle r, t.get? handle = some r → r.length = t.shape.arity

namespace Represents

variable {t : InternTable} {type : RecordType} {config : Config} {rs : List Record}

theorem entries_of_unit (h : t.Represents type config rs) {unit : Record}
    (hunit : type.unit? = some unit) : t.entries = [(Handle.unit, unit)] := by
  have hnil := h.eq_nil_of_unit (by rw [hunit, Option.isSome_some])
  rw [entries, h.unit_eq, hunit, h.holds.items_eq, hnil]
  rfl

theorem entries_of_none (h : t.Represents type config rs) (hunit : type.unit? = none) :
    t.entries = rs.zipIdx.map fun (r, i) => (Handle.ofIndex i, r) := by
  rw [entries, h.unit_eq, hunit, h.holds.items_eq]
  rfl

theorem mem_entries_iff (h : t.Represents type config rs) {handle : Handle} {r : Record} :
    (handle, r) ∈ t.entries ↔ t.get? handle = some r := by
  rcases hunit : type.unit? with _ | unit
  · rw [h.entries_of_none hunit]
    constructor
    · intro hmem
      obtain ⟨⟨r', i⟩, hr, heq⟩ := List.mem_map.mp hmem
      have hget := List.mem_zipIdx_iff_getElem?.mp hr
      cases heq
      rw [h.get?_ofIndex (List.getElem?_eq_some_iff.mp hget).1, hget]
    · intro hget
      obtain ⟨hr, rfl⟩ := h.mem_of_get? hunit hget
      exact List.mem_map.mpr ⟨(r, rs.idxOf r),
        List.mem_zipIdx_iff_getElem?.mpr (List.getElem?_idxOf hr), rfl⟩
  · rw [h.entries_of_unit hunit, List.mem_singleton, get?, h.unit_eq, hunit, Prod.mk.injEq]
    simp only [Option.ite_none_right_eq_some, Option.some.injEq]
    exact and_congr_right fun _ => eq_comm

theorem nodup_handles (h : t.Represents type config rs) : (t.entries.map Prod.fst).Nodup := by
  rcases hunit : type.unit? with _ | unit
  · have hfirst : t.entries.map Prod.fst = (List.range' 0 rs.length).map Handle.ofIndex := by
      rw [h.entries_of_none hunit, List.map_map, ← List.zipIdx_map_snd 0 rs, List.map_map]
      rfl
    rw [hfirst]
    refine List.Nodup.map_on ?_ List.nodup_range'
    intro i hi j hj heq
    have hi' : i < rs.length := by simpa using hi
    have hj' : j < rs.length := by simpa using hj
    have hint := congrArg Int32.toInt heq
    rw [Handle.toInt_ofIndex (h.lt_handleRange hi'), Handle.toInt_ofIndex (h.lt_handleRange hj')]
      at hint
    omega
  · rw [h.entries_of_unit hunit]
    exact List.nodup_singleton _

theorem entries_eq_nil_iff (h : t.Represents type config rs) : t.entries = [] ↔ t.size = 0 := by
  rw [h.size_eq]
  rcases hunit : type.unit? with _ | unit
  · simp [h.entries_of_none hunit]
  · simp [h.entries_of_unit hunit]

theorem getElem?_listing (h : t.Represents type config rs) (handle : Handle) :
    t.listing[handle]? = t.get? handle := by
  have hdistinct : t.entries.Pairwise fun a b => ¬ compare a.1 b.1 = .eq := by
    refine (List.pairwise_map.mp h.nodup_handles).imp ?_
    intro a b hne heq
    exact hne (Std.LawfulEqOrd.eq_of_compare heq)
  rcases hget : t.get? handle with _ | r
  · refine Std.ExtTreeMap.getElem?_ofList_of_contains_eq_false ?_
    rw [Bool.eq_false_iff, ne_eq, List.contains_iff_mem]
    intro hmem
    obtain ⟨⟨_, r⟩, hentry, rfl⟩ := List.mem_map.mp hmem
    rw [h.mem_entries_iff.mp hentry] at hget
    cases hget
  · exact Std.ExtTreeMap.getElem?_ofList_of_mem (Std.LawfulEqOrd.compare_eq_iff_eq.mpr rfl)
      hdistinct (h.mem_entries_iff.mpr hget)

theorem pairwise_entries (h : t.Represents type config rs) :
    t.entries.Pairwise fun a b => a.1 < b.1 := by
  rcases hunit : type.unit? with _ | unit
  · rw [h.entries_of_none hunit, List.pairwise_map, List.pairwise_iff_getElem]
    intro i j hi hj hij
    rw [List.length_zipIdx] at hi hj
    rw [List.getElem_zipIdx, List.getElem_zipIdx, Int32.lt_iff_toInt_lt]
    simp only [Nat.zero_add]
    rw [Handle.toInt_ofIndex (h.lt_handleRange hi), Handle.toInt_ofIndex (h.lt_handleRange hj)]
    omega
  · rw [h.entries_of_unit hunit]
    exact List.pairwise_singleton _ _

theorem toList_listing (h : t.Represents type config rs) : t.listing.toList = t.entries := by
  have hirrefl : Std.Irrefl fun a b : Handle × Record => a.1 < b.1 :=
    ⟨fun a => Int32.lt_irrefl⟩
  have hantisymm : Std.Antisymm fun a b : Handle × Record => a.1 < b.1 :=
    ⟨fun a b hab hba => absurd hba (Int32.lt_asymm hab)⟩
  have hordered : t.listing.toList.Pairwise fun a b => a.1 < b.1 :=
    Std.ExtTreeMap.ordered_keys_toList.imp Std.compare_eq_lt.mp
  apply hordered.eq_of_mem_iff h.pairwise_entries
  rintro ⟨handle, r⟩
  rw [Std.ExtTreeMap.mem_toList_iff_getElem?_eq_some, h.getElem?_listing, h.mem_entries_iff]

theorem regular_of_forall (h : t.Represents type config rs)
    (hlength : ∀ r ∈ rs, r.length = type.shape.arity) : t.Regular := by
  intro handle r hget
  rw [h.shape_eq]
  rcases hunit : type.unit? with _ | unit
  · exact hlength r (h.mem_of_get? hunit hget).1
  · obtain ⟨harity, rfl⟩ := RecordType.unit?_eq_some hunit
    simp only [get?, h.unit_eq, hunit, Option.ite_none_right_eq_some, Option.some.injEq] at hget
    rw [← hget.2, harity, List.length_nil]

theorem length_of_regular (h : t.Represents type config rs) (hregular : t.Regular) {r : Record}
    (hr : r ∈ rs) : r.length = type.shape.arity := by
  rw [hregular _ r (h.get?_idxOf hr), h.shape_eq]

theorem regular_insertAll (h : t.Represents type config rs) (hregular : t.Regular)
    {history : List Record} (hlength : ∀ r ∈ history, r.length = type.shape.arity) :
    (t.insertAll history).Regular := by
  refine (h.insertAll history).regular_of_forall ?_
  intro r hr
  rcases mem_or_mem_of_mem_foldl_extend hr with hold | hnew
  · exact h.length_of_regular hregular hold
  · exact hlength r hnew

end Represents

end InternTable

namespace Session.TableStep

theorem regular_perform {t : InternTable} {type : RecordType} {config : Config}
    {rs : List Record} (h : t.Represents type config rs) (hregular : t.Regular)
    (step : TableStep) : (step.perform t).state.Regular := by
  rw [state_perform h step]
  refine h.regular_insertAll hregular ?_
  intro r hr
  rw [length_of_mem_interned hr, h.shape_eq]

end Session.TableStep

end Interner
