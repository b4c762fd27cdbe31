import Interner.Toml.Document

namespace Interner.Toml

namespace Entries

def Distinct (entries : Entries) : Prop := (entries.map Prod.fst).Nodup

theorem isSome_find?_iff {entries : Entries} {key : Key} :
    (entries.find? key).isSome ↔ key ∈ entries.map Prod.fst := by
  rw [find?, List.lookup_isSome_iff, List.mem_map]
  constructor
  · rintro ⟨entry, hentry, hkey⟩
    exact ⟨entry, hentry, (beq_iff_eq.mp hkey).symm⟩
  · rintro ⟨entry, hentry, rfl⟩
    exact ⟨entry, hentry, beq_self_eq_true _⟩

theorem distinct_put {entries : Entries} (h : entries.Distinct) (key : Key) (node : Node) :
    (entries.put key node).Distinct := by
  rw [put]
  by_cases hkey : (entries.find? key).isSome
  · rw [if_pos hkey, Distinct, List.map_map, List.map_congr_left (g := Prod.fst)]
    · exact h
    · rintro ⟨k, old⟩ -
      simp only [Function.comp_apply]
      split
      · rfl
      · rfl
  · rw [if_neg hkey, Distinct, List.map_append]
    refine List.nodup_append.mpr ⟨h, List.pairwise_singleton _ _, ?_⟩
    rintro k hk _ hmem rfl
    rw [List.map_singleton, List.mem_singleton] at hmem
    rw [hmem] at hk
    exact hkey (isSome_find?_iff.mpr hk)

/-- A change of a table somewhere below only puts tables in the place of tables. -/
theorem distinct_of_alter? {dots : Bool} {change : Origin → Entries → Option (Origin × Entries)}
    (hchange : ∀ origin entries result, change origin entries = some result →
      entries.Distinct → result.2.Distinct)
    {origin : Origin} {entries : Entries} {path : List Key} {result : Origin × Entries}
    (h : entries.alter? dots change origin path = some result) (hentries : entries.Distinct) :
    result.2.Distinct := by
  cases path with
  | nil => exact hchange origin entries result h hentries
  | cons key path =>
      rw [alter?] at h
      split at h
      · obtain ⟨_, -, h⟩ := Option.bind_eq_some_iff.mp h
        cases h
        exact distinct_put hentries key _
      · split at h
        · cases h
        · obtain ⟨_, -, h⟩ := Option.bind_eq_some_iff.mp h
          cases h
          exact distinct_put hentries key _
      · split at h
        · cases h
        · obtain ⟨_, -, h⟩ := Option.bind_eq_some_iff.mp h
          cases h
          exact distinct_put hentries key _
      · cases h

theorem distinct_of_add? {entries : Entries} {origin : Origin} {key : List Key} {node : Node}
    {result : Origin × Entries} (h : entries.add? origin key node = some result)
    (hentries : entries.Distinct) : result.2.Distinct := by
  rw [add?] at h
  split at h
  · cases h
  · refine distinct_of_alter? ?_ h hentries
    intro origin entries result hresult hentries
    split at hresult
    · cases hresult
    · cases hresult
      exact distinct_put hentries _ node

theorem distinct_of_openTable? {entries found : Entries} {key : List Key}
    (h : entries.openTable? key = some found) (hentries : entries.Distinct) : found.Distinct := by
  rw [openTable?] at h
  split at h
  · cases h
  · obtain ⟨result, haltered, rfl⟩ := Option.map_eq_some_iff.mp h
    refine distinct_of_alter? ?_ haltered hentries
    intro origin entries result hresult hentries
    split at hresult
    · cases hresult
      exact distinct_put hentries _ _
    · cases hresult
      exact distinct_put hentries _ _
    · cases hresult

theorem distinct_of_openElement? {entries found : Entries} {key : List Key}
    (h : entries.openElement? key = some found) (hentries : entries.Distinct) :
    found.Distinct := by
  rw [openElement?] at h
  split at h
  · cases h
  · obtain ⟨result, haltered, rfl⟩ := Option.map_eq_some_iff.mp h
    refine distinct_of_alter? ?_ haltered hentries
    intro origin entries result hresult hentries
    split at hresult
    · cases hresult
      exact distinct_put hentries _ _
    · cases hresult
      exact distinct_put hentries _ _
    · cases hresult

theorem distinct_of_addUnder? {entries found : Entries} {header key : List Key} {node : Node}
    (h : entries.addUnder? header key node = some found) (hentries : entries.Distinct) :
    found.Distinct := by
  obtain ⟨result, haltered, rfl⟩ := Option.map_eq_some_iff.mp h
  exact distinct_of_alter? (fun _ _ _ h => distinct_of_add? h) haltered hentries

end Entries

open Entries

theorem distinct_of_takeLines? {fuel : Nat} {found entries : Entries} {header : List Key}
    {text : List Char} (h : takeLines? fuel found header text = some entries)
    (hfound : found.Distinct) : entries.Distinct := by
  fun_induction takeLines? fuel found header text with
  | case1 => cases h
  | case2 =>
      cases h
      exact hfound
  | case3 fuel found header text double text' heq ih =>
      obtain ⟨⟨key, _⟩, -, h⟩ := Option.bind_eq_some_iff.mp h
      obtain ⟨_, -, h⟩ := Option.bind_eq_some_iff.mp h
      obtain ⟨rest, -, h⟩ := Option.bind_eq_some_iff.mp h
      split at h
      · obtain ⟨opened, hopened, h⟩ := Option.bind_eq_some_iff.mp h
        exact ih key rest opened h (distinct_of_openElement? hopened hfound)
      · obtain ⟨opened, hopened, h⟩ := Option.bind_eq_some_iff.mp h
        exact ih key rest opened h (distinct_of_openTable? hopened hfound)
  | case4 fuel found header text hnil hheader ih =>
      obtain ⟨⟨key, rest⟩, -, h⟩ := Option.bind_eq_some_iff.mp h
      dsimp only at h
      split at h
      · obtain ⟨⟨value, _⟩, -, h⟩ := Option.bind_eq_some_iff.mp h
        obtain ⟨rest, -, h⟩ := Option.bind_eq_some_iff.mp h
        obtain ⟨added, hadded, h⟩ := Option.bind_eq_some_iff.mp h
        exact ih rest added h (distinct_of_addUnder? hadded hfound)
      · cases h

theorem distinct_of_parse? {text : List Char} {entries : Entries}
    (h : parse? text = some entries) : entries.Distinct := by
  obtain ⟨trimmed, -, h⟩ := Option.bind_eq_some_iff.mp h
  exact distinct_of_takeLines? h List.nodup_nil

end Interner.Toml
