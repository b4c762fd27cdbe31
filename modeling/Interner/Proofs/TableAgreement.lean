import Interner.Proofs.TableListings

namespace Interner

open Session

namespace InternTable

/-- The tables have one shape and the same records under the same handles. -/
structure Agree (t u : InternTable) : Prop where
  shape_eq : t.shape = u.shape
  unit_eq : t.unit = u.unit
  slots_eq : t.records.size = u.records.size
  read_eq : t.records.get? = u.records.get?

namespace Agree

variable {t u : InternTable}

theorem size_eq (h : t.Agree u) : t.size = u.size := by
  simp only [size, h.unit_eq, h.slots_eq]

theorem get?_eq (h : t.Agree u) : t.get? = u.get? := by
  funext handle
  simp only [get?, h.unit_eq, h.read_eq]

theorem lookup_eq (h : t.Agree u) : t.lookup = u.lookup := by
  funext handle
  simp only [lookup, h.get?_eq, h.shape_eq, h.size_eq]

theorem resolve_eq (h : t.Agree u) : t.resolve = u.resolve := by
  funext handle
  simp only [resolve, h.unit_eq, h.lookup_eq]

theorem resolveTrusted_eq (h : t.Agree u) : t.resolveTrusted = u.resolveTrusted := by
  funext handle
  simp only [resolveTrusted, h.unit_eq, BlockList.get, h.read_eq]

theorem entries_eq (h : t.Agree u) : t.entries = u.entries := by
  simp only [entries, BlockList.items, h.unit_eq, h.slots_eq, h.read_eq]

theorem listing_eq (h : t.Agree u) : t.listing = u.listing := by
  rw [listing, listing, h.entries_eq]

theorem exportTo_eq (h : t.Agree u) : t.exportTo = u.exportTo := by
  funext v
  rw [exportTo, exportTo, h.shape_eq, h.entries_eq]

theorem digestFrom_eq (h : t.Agree u) (digests : List Int64) (handle : Int) (count : Nat) :
    t.digestFrom digests handle count = u.digestFrom digests handle count := by
  induction count generalizing digests handle with
  | zero => rfl
  | succ count ih => simp only [digestFrom, h.resolve_eq, ih]

end Agree

theorem Represents.agree {t u : InternTable} {type : RecordType} {config config' : Config}
    {rs : List Record} (ht : t.Represents type config rs) (hu : u.Represents type config' rs) :
    t.Agree u := by
  constructor
  case shape_eq => rw [ht.shape_eq, hu.shape_eq]
  case unit_eq => rw [ht.unit_eq, hu.unit_eq]
  case slots_eq => rw [ht.holds.size_eq, hu.holds.size_eq]
  case read_eq =>
    funext index
    rw [ht.holds.get?_eq, hu.holds.get?_eq]

end InternTable

namespace Session.TableStep

/-- Whether a step has records to insert. All others only look. -/
def interns : TableStep → Bool
  | intern _ | internProgression _ | internTogether _ _ | internAllTogether _ _ => true
  | _ => false

theorem state_of_looks {step : TableStep} (hlooks : step.interns = false) (t : InternTable) :
    (step.perform t).state = t := by
  cases step with
  | intern | internProgression | internTogether | internAllTogether => cases hlooks
  | _ => rfl

theorem answer_of_looks {t u : InternTable} (h : t.Agree u) {step : TableStep}
    (hlooks : step.interns = false) (hblock : step ≠ blockSize) :
    (step.perform u).answer = (step.perform t).answer := by
  cases step with
  | intern | internProgression | internTogether | internAllTogether => cases hlooks
  | blockSize => exact absurd rfl hblock
  | digest first limit =>
      simp only [perform, InternTable.digest, h.shape_eq, h.digestFrom_eq]
  | _ =>
      simp only [perform, h.shape_eq, h.size_eq, h.get?_eq, h.lookup_eq, h.resolve_eq,
        h.resolveTrusted_eq, h.entries_eq, h.listing_eq, InternTable.isEmpty]

end Session.TableStep

end Interner
