import Interner.Proofs.TableListings
import Interner.Registry

namespace Interner

namespace Listing

def enterAll (listing : Listing) (entries : List (Handle × Record)) : Listing :=
  entries.foldl (fun listing (h, fields) => listing.insertIfNew h fields) listing

theorem getElem?_insertIfNew (listing : Listing) (h h' : Handle) (fields : Record) :
    (listing.insertIfNew h fields)[h']? =
      listing[h']?.or (if h = h' then some fields else none) := by
  simp only [Std.ExtTreeMap.getElem?_insertIfNew, Std.LawfulEqOrd.compare_eq_iff_eq,
    Std.ExtTreeMap.mem_iff_isSome_getElem?]
  by_cases hh : h = h'
  · subst hh
    cases listing[h]? <;> simp
  · simp [hh]

/-- A handle that has fields already has those of its entry. -/
def Agrees (listing : Listing) (entries : List (Handle × Record)) : Prop :=
  ∀ entry ∈ entries, ∀ present, listing[entry.1]? = some present → present = entry.2

/-- What agrees with entries under different handles agrees with the others after the first. -/
theorem Agrees.insertIfNew {listing : Listing} {entry : Handle × Record}
    {entries : List (Handle × Record)} (h : listing.Agrees (entry :: entries))
    (hfresh : entry.1 ∉ entries.map Prod.fst) :
    Agrees (listing.insertIfNew entry.1 entry.2) entries := by
  intro other hother present hpresent
  have hne : entry.1 ≠ other.1 := by
    intro heq
    exact hfresh (List.mem_map.mpr ⟨other, hother, heq.symm⟩)
  rw [getElem?_insertIfNew, if_neg hne, Option.or_none] at hpresent
  exact h other (List.mem_cons_of_mem _ hother) present hpresent

theorem getElem?_enterAll_eq_some_iff {listing : Listing} {entries : List (Handle × Record)}
    (hdistinct : (entries.map Prod.fst).Nodup) (hagrees : listing.Agrees entries) {h : Handle}
    {fields : Record} : (enterAll listing entries)[h]? = some fields ↔
      listing[h]? = some fields ∨ (h, fields) ∈ entries := by
  induction entries generalizing listing with
  | nil => simp [enterAll]
  | cons entry entries ih =>
      obtain ⟨h', fields'⟩ := entry
      obtain ⟨hfresh, hdistinct⟩ := List.nodup_cons.mp hdistinct
      have hfirst := (List.forall_mem_cons.mp hagrees).1
      rw [enterAll, List.foldl_cons, ← enterAll, ih hdistinct (hagrees.insertIfNew hfresh),
        getElem?_insertIfNew, List.mem_cons, Prod.mk.injEq]
      by_cases hh : h' = h
      · subst hh
        rcases hget : listing[h']? with _ | present
        · simp [eq_comm]
        · have hsame : present = fields' := hfirst present hget
          simp [hsame, eq_comm]
      · simp [hh, Ne.symm hh]

end Listing

namespace Inventory

theorem ext_records? {v w : Inventory} (h : ∀ s, v.records? s = w.records? s) : v = w := by
  obtain ⟨shapes⟩ := v
  obtain ⟨shapes'⟩ := w
  rw [mk.injEq]
  exact Std.ExtTreeMap.ext_getElem? h

theorem records?_empty (s : Shape) : ({} : Inventory).records? s = none := by
  simp [records?]

theorem records?_insert (v : Inventory) (s s' : Shape) (listing : Listing) :
    records? { v with shapes := v.shapes.insert s listing } s' =
      if s = s' then some listing else v.records? s' := by
  rw [records?, Std.ExtTreeMap.getElem?_insert]
  simp only [Std.LawfulEqOrd.compare_eq_iff_eq]
  rfl

theorem getElem?_getD_records? (v : Inventory) (s : Shape) (h : Handle) :
    ((v.records? s).getD ∅)[h]? = v.get? s h := by
  rw [get?]
  cases v.records? s with
  | none => simp
  | some listing => rfl

theorem add_of_agrees {v : Inventory} {s : Shape} {h : Handle} {fields : Record}
    (hlength : fields.length = s.arity)
    (hagrees : ∀ present, ((v.records? s).getD ∅)[h]? = some present → present = fields) :
    v.add s h fields = .ok ({ v with
      shapes := v.shapes.insert s (((v.records? s).getD ∅).insertIfNew h fields) }, []) := by
  rcases hget : ((v.records? s).getD ∅)[h]? with _ | present
  · simp only [add, if_pos hlength.symm, hget]
  · simp only [add, if_pos hlength.symm, hget, hagrees present hget, if_true]

/-- Entries that the inventory agrees with are all there afterwards, and nothing is reported. -/
theorem addAll_of_agrees {v : Inventory} {s : Shape} {entries : List (Handle × Record)}
    (hlength : ∀ entry ∈ entries, entry.2.length = s.arity)
    (hdistinct : (entries.map Prod.fst).Nodup) (hagrees : ((v.records? s).getD ∅).Agrees entries) :
    ∃ after, v.addAll s entries = .ok (after, []) ∧ ∀ s', after.records? s' =
      if s = s' ∧ entries ≠ [] then some (((v.records? s).getD ∅).enterAll entries)
      else v.records? s' := by
  induction entries generalizing v with
  | nil => exact ⟨v, rfl, fun s' => by simp⟩
  | cons entry entries ih =>
      obtain ⟨h, fields⟩ := entry
      obtain ⟨hfields, hlength⟩ := List.forall_mem_cons.mp hlength
      obtain ⟨hfresh, hdistinct⟩ := List.nodup_cons.mp hdistinct
      have hadd := add_of_agrees hfields (List.forall_mem_cons.mp hagrees).1
      have hrest := hagrees.insertIfNew hfresh
      generalize hinserted : ((v.records? s).getD ∅).insertIfNew h fields = inserted at hadd hrest
      generalize hentered : ({ v with shapes := v.shapes.insert s inserted } : Inventory) = w at hadd
      have hw : ∀ s', w.records? s' = if s = s' then some inserted else v.records? s' := by
        intro s'
        rw [← hentered, records?_insert]
      have hget : (w.records? s).getD ∅ = inserted := by
        rw [hw, if_pos rfl, Option.getD_some]
      rw [← hget] at hrest
      obtain ⟨after, hafter, hrecords⟩ := ih hlength hdistinct hrest
      refine ⟨after, ?_, ?_⟩
      · rw [addAll, List.foldlM_cons]
        simp only [hadd]
        exact hafter
      · intro s'
        rw [hrecords, hget, hw, ← hinserted]
        by_cases hs : s = s'
        · rcases entries with _ | ⟨_, _⟩
          · simp [hs, Listing.enterAll]
          · simp [hs, Listing.enterAll]
        · simp [hs]

/-- The inventory lists these tables: every table that has records, and nothing else. -/
def Lists (v : Inventory) (tables : List InternTable) : Prop :=
  ∀ s listing, v.records? s = some listing ↔
    ∃ t ∈ tables, t.shape = s ∧ t.size ≠ 0 ∧ t.listing = listing

theorem Lists.records?_eq_none_iff {v : Inventory} {tables : List InternTable}
    (h : v.Lists tables) {s : Shape} :
    v.records? s = none ↔ ∀ t ∈ tables, t.shape = s → t.size = 0 := by
  constructor
  · intro hnone t ht hshape
    by_contra hsize
    rw [(h s t.listing).mpr ⟨t, ht, hshape, hsize, rfl⟩] at hnone
    cases hnone
  · intro hall
    rw [Option.eq_none_iff_forall_ne_some]
    intro listing hlisting
    obtain ⟨t, ht, hshape, hsize, -⟩ := (h s listing).mp hlisting
    exact hsize (hall t ht hshape)

end Inventory

namespace InternTable

/-- The table holds records of its shape, under handles that were issued for them. -/
def Sound (t : InternTable) : Prop :=
  t.Regular ∧ ∃ type config rs, t.Represents type config rs

/-- What the inventory has under the shape of the table is true of the table. -/
structure Covers (t : InternTable) (v : Inventory) : Prop where
  get?_eq : ∀ handle r, v.get? t.shape handle = some r → t.get? handle = some r
  size_ne_zero : v.records? t.shape ≠ none → t.size ≠ 0

theorem covers_of_new {t : InternTable} {v : Inventory} (h : v.records? t.shape = none) :
    t.Covers v := by
  constructor
  case get?_eq =>
    intro handle r hget
    rw [Inventory.get?, h] at hget
    cases hget
  case size_ne_zero => exact fun hnamed => absurd h hnamed

theorem Covers.congr {t : InternTable} {v w : Inventory} (h : t.Covers v)
    (hsame : w.records? t.shape = v.records? t.shape) : t.Covers w := by
  constructor
  case get?_eq =>
    intro handle r hget
    rw [Inventory.get?, hsame] at hget
    exact h.get?_eq handle r hget
  case size_ne_zero =>
    rw [hsame]
    exact h.size_ne_zero

/-- The inventory has under the shape of the table what the table holds: its listing, and nothing if
it has no records. -/
def ListedIn (t : InternTable) (v : Inventory) : Prop :=
  v.records? t.shape = if t.size = 0 then none else some t.listing

theorem Sound.covers_of_listedIn {t : InternTable} (h : t.Sound) {v : Inventory}
    (hlisted : t.ListedIn v) : t.Covers v := by
  obtain ⟨-, type, config, rs, h⟩ := h
  by_cases hsize : t.size = 0
  · rw [ListedIn, if_pos hsize] at hlisted
    exact covers_of_new hlisted
  · rw [ListedIn, if_neg hsize] at hlisted
    constructor
    case get?_eq =>
      intro handle r hget
      rw [Inventory.get?, hlisted, Option.bind_some, h.getElem?_listing] at hget
      exact hget
    case size_ne_zero => exact fun _ => hsize

/-- A table that covers an inventory is listed there afterwards as it is now. Nothing else changes,
and nothing is reported. -/
theorem Sound.exportTo_of_covers {t : InternTable} (h : t.Sound) {v : Inventory}
    (hcovers : t.Covers v) :
    ∃ after, t.exportTo v = .ok (after, []) ∧ t.ListedIn after ∧
      ∀ s, t.shape ≠ s → after.records? s = v.records? s := by
  obtain ⟨hregular, type, config, rs, h⟩ := h
  have hget : ∀ handle r, ((v.records? t.shape).getD ∅)[handle]? = some r →
      t.get? handle = some r := by
    intro handle r hlisted
    rw [Inventory.getElem?_getD_records?] at hlisted
    exact hcovers.get?_eq handle r hlisted
  have hagrees : ((v.records? t.shape).getD ∅).Agrees t.entries := by
    intro entry hentry present hpresent
    have hentry : t.get? entry.1 = some entry.2 := h.mem_entries_iff.mp hentry
    rw [hget _ _ hpresent, Option.some.injEq] at hentry
    exact hentry
  have hlisting : ((v.records? t.shape).getD ∅).enterAll t.entries = t.listing := by
    refine Std.ExtTreeMap.ext_getElem? fun handle => Option.ext fun r => ?_
    rw [h.getElem?_listing, Listing.getElem?_enterAll_eq_some_iff h.nodup_handles hagrees,
      h.mem_entries_iff, or_iff_right_of_imp (hget handle r)]
  obtain ⟨after, hafter, hrecords⟩ := Inventory.addAll_of_agrees
    (fun entry hentry => hregular _ _ (h.mem_entries_iff.mp hentry)) h.nodup_handles hagrees
  simp only [hlisting, ne_eq, h.entries_eq_nil_iff] at hrecords
  refine ⟨after, hafter, ?_, ?_⟩
  · rw [ListedIn, hrecords]
    by_cases hsize : t.size = 0
    · have hnew : v.records? t.shape = none :=
        by_contra fun hnamed => hcovers.size_ne_zero hnamed hsize
      simp [hsize, hnew]
    · simp [hsize]
  · intro s hs
    rw [hrecords, if_neg fun heq => hs heq.1]

theorem Sound.exportTo {t : InternTable} (h : t.Sound) {v : Inventory}
    (hnew : v.records? t.shape = none) :
    ∃ after, t.exportTo v = .ok (after, []) ∧ ∀ s, after.records? s =
      if t.shape = s ∧ t.size ≠ 0 then some t.listing else v.records? s := by
  obtain ⟨after, hexport, hlisted, hothers⟩ := h.exportTo_of_covers (covers_of_new hnew)
  refine ⟨after, hexport, ?_⟩
  intro s
  by_cases hs : t.shape = s
  · subst hs
    rw [hlisted, hnew]
    simp
  · rw [if_neg fun heq => hs heq.1, hothers s hs]

end InternTable

namespace Registry

open InternTable

/-- Tables of different shapes that cover an inventory are all listed there afterwards, in whatever
order they come. A table may come more than once. -/
theorem exportAll_of_covers {v : Inventory} {tables : List InternTable}
    (hsound : ∀ t ∈ tables, t.Sound) (hcovers : ∀ t ∈ tables, t.Covers v)
    (hshapes : ∀ t ∈ tables, ∀ u ∈ tables, t.shape = u.shape → t = u) :
    ∃ after, exportAll v tables = .ok (after, []) ∧ (∀ t ∈ tables, t.ListedIn after) ∧
      ∀ s, (∀ t ∈ tables, t.shape ≠ s) → after.records? s = v.records? s := by
  induction tables generalizing v with
  | nil => exact ⟨v, rfl, List.forall_mem_nil _, fun _ _ => rfl⟩
  | cons t tables ih =>
      obtain ⟨ht, hsound⟩ := List.forall_mem_cons.mp hsound
      obtain ⟨between, hexport, hlisted, hothers⟩ :=
        ht.exportTo_of_covers (hcovers t List.mem_cons_self)
      have hbetween : ∀ u ∈ tables, u.Covers between := by
        intro u hu
        by_cases hshape : t.shape = u.shape
        · rw [← hshapes t List.mem_cons_self u (List.mem_cons_of_mem _ hu) hshape]
          exact ht.covers_of_listedIn hlisted
        · exact (hcovers u (List.mem_cons_of_mem _ hu)).congr (hothers _ hshape)
      obtain ⟨after, hafter, hall, hrest⟩ := ih hsound hbetween fun u hu u' hu' =>
        hshapes u (List.mem_cons_of_mem _ hu) u' (List.mem_cons_of_mem _ hu')
      refine ⟨after, ?_, List.forall_mem_cons.mpr ⟨?_, hall⟩, ?_⟩
      · rw [exportAll, hexport]
        change (exportAll between tables >>= fun p => _) = _
        rw [hafter]
        rfl
      · by_cases hlater : ∃ u ∈ tables, t.shape = u.shape
        · obtain ⟨u, hu, hshape⟩ := hlater
          rw [hshapes t List.mem_cons_self u (List.mem_cons_of_mem _ hu) hshape]
          exact hall u hu
        · rw [ListedIn, hrest t.shape fun u hu heq => hlater ⟨u, hu, heq.symm⟩]
          exact hlisted
      · intro s hs
        obtain ⟨hfirst, hs⟩ := List.forall_mem_cons.mp hs
        rw [hrest s hs, hothers s hfirst]

theorem exportAll_perm {v : Inventory} {order tables : List InternTable}
    (hperm : order.Perm tables) (hsound : ∀ t ∈ tables, t.Sound)
    (hcovers : ∀ t ∈ tables, t.Covers v)
    (hshapes : ∀ t ∈ tables, ∀ u ∈ tables, t.shape = u.shape → t = u) :
    exportAll v order = exportAll v tables := by
  have hmem : ∀ t, t ∈ order ↔ t ∈ tables := fun t => hperm.mem_iff
  obtain ⟨after, hexport, hlisted, hothers⟩ := exportAll_of_covers hsound hcovers hshapes
  obtain ⟨after', hexport', hlisted', hothers'⟩ := exportAll_of_covers (v := v)
    (fun t ht => hsound t ((hmem t).mp ht)) (fun t ht => hcovers t ((hmem t).mp ht))
    (fun t ht u hu => hshapes t ((hmem t).mp ht) u ((hmem u).mp hu))
  have hsame : after' = after := by
    refine Inventory.ext_records? fun s => ?_
    by_cases hs : ∃ t ∈ tables, t.shape = s
    · obtain ⟨t, ht, rfl⟩ := hs
      rw [hlisted t ht, hlisted' t ((hmem t).mpr ht)]
    · rw [hothers s fun t ht heq => hs ⟨t, ht, heq⟩,
        hothers' s fun t ht heq => hs ⟨t, (hmem t).mp ht, heq⟩]
  rw [hexport', hexport, hsame]

/-- An inventory that knew nothing before lists the tables. -/
theorem exportAll_lists {tables : List InternTable} (hsound : ∀ t ∈ tables, t.Sound)
    (hdistinct : (tables.map (·.shape)).Nodup) :
    ∃ after, exportAll {} tables = .ok (after, []) ∧ after.Lists tables := by
  obtain ⟨after, hexport, hlisted, hothers⟩ := exportAll_of_covers hsound
    (fun t _ => covers_of_new (Inventory.records?_empty t.shape))
    (List.inj_on_of_nodup_map hdistinct)
  refine ⟨after, hexport, ?_⟩
  intro s listing
  constructor
  · intro hlisting
    by_cases hs : ∃ t ∈ tables, t.shape = s
    · obtain ⟨t, ht, rfl⟩ := hs
      rw [hlisted t ht] at hlisting
      split at hlisting
      · cases hlisting
      · rename_i hsize
        exact ⟨t, ht, rfl, hsize, Option.some.inj hlisting⟩
    · rw [hothers s fun t ht heq => hs ⟨t, ht, heq⟩,
        Inventory.records?_empty] at hlisting
      cases hlisting
  · rintro ⟨t, ht, rfl, hsize, rfl⟩
    rw [hlisted t ht, if_neg hsize]

end Registry

end Interner
