import Interner.Proofs.TableRoom

namespace Interner

open Session

theorem RecordType.length_of_rebuild {type : RecordType} {fields r : Record}
    (h : type.rebuild fields = .ok r) : fields.length = type.shape.arity := by
  rw [rebuild] at h
  split at h
  · cases h
  · by_contra hlength
    rw [Shape.record, if_neg hlength] at h
    cases h

namespace Session.TableStep

open InternTable

/-- Puts an entry of a listing back: builds the record from its fields and interns it. -/
def restore (type : RecordType) (t : InternTable) (entry : Handle × Record) :
    Run InternTable Reply :=
  match type.rebuild entry.2 with
  | .error cause => { answer := .error (.error cause), state := t }
  | .ok r => (intern r).perform t

section Restore

variable {t u : InternTable} {type : RecordType} {config : Config} {known rest : List Record}

theorem restore_of_insert (h : t.Represents type config known) {r : Record}
    (hrebuild : type.rebuild r = .ok r) {insertion : Insertion} {after : InternTable}
    (hinsert : t.insert r = (.ok insertion, after)) (handle : Handle) :
    (restore type t (handle, r)).answer = .ok (.handle insertion.handle) ∧
      (restore type t (handle, r)).state = after := by
  have hlength := RecordType.length_of_rebuild hrebuild
  rw [← h.shape_eq] at hlength
  have hrestore : restore type t (handle, r) = (intern r).perform t := by rw [restore, hrebuild]
  rw [hrestore]
  constructor
  · rw [answer_intern_of_length hlength, hinsert]
    rfl
  · simp only [perform, withRecord_of_length hlength, Run.map, state_intern, hinsert]

theorem restore_all (h : t.Represents type config known) (hunit : type.unit? = none)
    (hrebuild : ∀ r ∈ rest, type.rebuild r = .ok r) (hnodup : (known ++ rest).Nodup)
    (hroom : (known ++ rest).length ≤ type.capacity config) :
    let entries := (rest.zipIdx known.length).map fun (r, i) => (Handle.ofIndex i, r)
    (Run.all (restore type) t entries).answer = entries.map (fun e => .ok (.handle e.1)) ∧
      (Run.all (restore type) t entries).state.Represents type config (known ++ rest) := by
  induction rest generalizing t known with
  | nil => exact ⟨rfl, by rwa [List.append_nil]⟩
  | cons r rest ih =>
      obtain ⟨hfirst, hlater⟩ := List.forall_mem_cons.mp hrebuild
      have hnew : r ∉ known := fun hr => List.disjoint_of_nodup_append hnodup hr List.mem_cons_self
      rw [List.length_append, List.length_cons] at hroom
      obtain ⟨growth, after, hinsert, hafter⟩ := h.insert_of_room hunit hnew (by omega)
      obtain ⟨hanswer, rfl⟩ := restore_of_insert h hfirst hinsert (Handle.ofIndex known.length)
      rw [← List.singleton_append, ← List.append_assoc] at hnodup ⊢
      obtain ⟨hanswers, hend⟩ := ih hafter hlater hnodup (by
        rw [List.length_append, List.length_append, List.length_singleton]
        omega)
      rw [List.length_append, List.length_singleton] at hanswers hend
      refine ⟨?_, hend⟩
      rw [List.singleton_append, List.zipIdx_cons, List.map_cons, List.map_cons, ← hanswers,
        ← hanswer]
      rfl

end Restore

/-- What a run comes to that puts the entries of `t` back into a new table with `config'`. -/
structure Restored (type : RecordType) (config config' : Config) (t : InternTable)
    (run : Run InternTable (List Reply)) : Prop where
  handles : run.answer = t.listing.toList.map fun entry => .ok (.handle entry.1)
  size_eq : run.state.size = t.size
  entries_eq : run.state.entries = t.entries
  listing_eq : run.state.listing = t.listing
  further : ∀ more : List TableStep,
    .error (.fault (exhaustion type config)) ∉ (Run.all perform t more).answer →
    .error (.fault (exhaustion type config')) ∉ (Run.all perform run.state more).answer →
    ∀ i : Nat, more[i]? ≠ some blockSize →
      (Run.all perform run.state more).answer[i]? = (Run.all perform t more).answer[i]?

theorem further_of_represents {type : RecordType} {config config' : Config} {t u : InternTable}
    {rs : List Record} (ht : t.Represents type config rs) (hu : u.Represents type config' rs)
    {more : List TableStep}
    (hroom : .error (.fault (exhaustion type config)) ∉ (Run.all perform t more).answer)
    (hroom' : .error (.fault (exhaustion type config')) ∉ (Run.all perform u more).answer) {i : Nat}
    (hblock : more[i]? ≠ some blockSize) :
    (Run.all perform u more).answer[i]? = (Run.all perform t more).answer[i]? := by
  rcases Nat.le_total (type.capacity config) (type.capacity config') with hle | hle
  · exact answer_all_of_room (trails_of_represents hle ht hu) hroom hblock
  · exact (answer_all_of_room (trails_of_represents hle hu ht) hroom' hblock).symm

theorem restore_listing {type : RecordType} {config config' : Config} {t fresh : InternTable}
    {rs : List Record} (ht : t.Represents type config rs)
    (hfresh : fresh.Represents type config' [])
    (hlength : ∀ r ∈ rs, r.length = type.shape.arity)
    (hrebuild : ∀ r : Record, r.length = type.shape.arity → type.rebuild r = .ok r)
    (hroom : t.size ≤ config'.maxRecords.toNat) :
    let run := Run.all (restore type) fresh t.listing.toList
    run.answer = t.listing.toList.map (fun entry => .ok (.handle entry.1)) ∧
      run.state.Represents type config' rs := by
  rw [ht.toList_listing]
  rcases hunit : type.unit? with _ | unit
  · rw [ht.size_eq, hunit, ← RecordType.capacity_of_none hunit config'] at hroom
    rw [ht.entries_of_none hunit]
    exact restore_all hfresh hunit (fun r hr => hrebuild r (hlength r hr)) ht.nodup hroom
  · have hsome : type.unit?.isSome := by rw [hunit, Option.isSome_some]
    obtain ⟨harity, rfl⟩ := RecordType.unit?_eq_some hunit
    obtain ⟨hanswer, hstate⟩ := restore_of_insert hfresh (hrebuild [] harity.symm)
      (hfresh.insert_of_unit hsome []) Handle.unit
    rw [ht.entries_of_unit hunit, ht.eq_nil_of_unit hsome]
    refine ⟨congrArg (fun answer => [answer]) hanswer, ?_⟩
    exact hstate.symm ▸ hfresh

/-- A table can be built again from its listing. -/
theorem table_rebuilt_from_listing (type : RecordType) (config config' : Config)
    (haccept : config.accept = .ok ()) (haccept' : config'.accept = .ok ())
    (hrebuild : ∀ r : Record, r.length = type.shape.arity → type.rebuild r = .ok r) :
    ∃ start fresh, InternTable.create type config = .ok start ∧
      InternTable.create type config' = .ok fresh ∧
      ∀ steps,
        let t := (Run.all perform start steps).state
        t.size ≤ config'.maxRecords.toNat →
        Restored type config config' t (Run.all (restore type) fresh t.listing.toList) := by
  obtain ⟨start, hcreate, hstart⟩ := represents_create type haccept
  obtain ⟨fresh, hcreate', hfresh⟩ := represents_create type haccept'
  refine ⟨start, fresh, hcreate, hcreate', ?_⟩
  intro steps t hroom
  have ht : t.Represents type config _ := represents_all hstart steps
  obtain ⟨hhandles, hrestored⟩ := restore_listing ht hfresh
    (fun r hr => length_of_mem_firstOccurrences hr) hrebuild hroom
  have hagree := hrestored.agree ht
  constructor
  case handles => exact hhandles
  case size_eq => exact hagree.size_eq
  case entries_eq => exact hagree.entries_eq
  case listing_eq => exact hagree.listing_eq
  case further =>
    intro more hless hmore i hblock
    exact further_of_represents ht hrestored hless hmore hblock

theorem two_pairs_rebuilt_in_smaller_blocks :
    let type : RecordType := { shape := { id := 0, name := "pair", arity := 2 } }
    let config : Config := { blockSize := 2, maxRecords := 3 }
    let config' : Config := { blockSize := 1, maxRecords := 4 }
    config.accept = .ok () ∧ config'.accept = .ok () ∧
      (∀ r : Record, r.length = type.shape.arity → type.rebuild r = .ok r) ∧
      ∃ start fresh, InternTable.create type config = .ok start ∧
        InternTable.create type config' = .ok fresh ∧
        let t := (Run.all perform start [.intern [1, 2], .intern [3, 4], .intern [1, 2]]).state
        let run := Run.all (restore type) fresh t.listing.toList
        t.listing.toList = [(1, [1, 2]), (2, [3, 4])] ∧ t.size ≤ config'.maxRecords.toNat ∧
          run.answer = [.ok (.handle 1), .ok (.handle 2)] ∧ run.state.size = 2 ∧
          (Run.all perform run.state [.intern [5, 6]]).answer[0]? =
            (Run.all perform t [.intern [5, 6]]).answer[0]? := by
  intro type config config'
  have haccept : config.accept = .ok () := Config.accept_eq_ok_iff.mpr (by decide)
  have haccept' : config'.accept = .ok () := Config.accept_eq_ok_iff.mpr (by decide)
  have hrebuild : ∀ r : Record, r.length = type.shape.arity → type.rebuild r = .ok r :=
    fun r hlength => if_pos hlength
  obtain ⟨start, fresh, hcreate, hcreate', hall⟩ :=
    table_rebuilt_from_listing type config config' haccept haccept' hrebuild
  refine ⟨haccept, haccept', hrebuild, start, fresh, hcreate, hcreate', ?_⟩
  intro t run
  have ht : t.Represents type config [[1, 2], [3, 4]] :=
    represents_all (represents_of_create hcreate) _
  have hlisting : t.listing.toList = [(1, [1, 2]), (2, [3, 4])] := by
    rw [ht.toList_listing, ht.entries_of_none rfl]
    rfl
  have hsize : t.size = 2 := ht.size_eq
  have hroom : t.size ≤ config'.maxRecords.toNat := by
    rw [hsize]
    decide
  have hfinds : ∀ (c : Config) (u : InternTable), u.Represents type c [[1, 2], [3, 4]] →
      ([[1, 2], [3, 4]] : List Record).length < c.maxRecords.toNat →
      .error (.fault (exhaustion type c)) ∉ (Run.all perform u [.intern [5, 6]]).answer := by
    intro c u hu hless hmem
    have hanswer := answer_intern_eq hu rfl (r := [5, 6]) rfl
    rw [if_neg (by decide), if_neg (Nat.not_le.mpr hless)] at hanswer
    have hfull := List.mem_singleton.mp hmem
    rw [hanswer] at hfull
    cases hfull
  have hu : run.state.Represents type config' [[1, 2], [3, 4]] :=
    (restore_listing ht (represents_of_create hcreate') (by decide) hrebuild hroom).2
  have hrestored := hall _ hroom
  have hanswers := hrestored.handles
  have hmore := hrestored.further [.intern [5, 6]] (hfinds config t ht (by decide))
    (hfinds config' run.state hu (by decide)) 0 (by simp)
  refine ⟨hlisting, hroom, ?_, hrestored.size_eq.trans hsize, hmore⟩
  rw [hanswers, hlisting]
  rfl

end Session.TableStep

end Interner
