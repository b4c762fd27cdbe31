import Interner.Inventory.Dump
import Interner.Proofs.InventoryHistory
import Interner.Proofs.JsonPrinting

namespace Interner

section Lists

variable {α β : Type}

theorem eq_and_eq_of_append_cons_eq {x : α} {as bs cs ds : List α} (hbs : x ∉ bs)
    (hds : x ∉ ds) (h : as ++ x :: bs = cs ++ x :: ds) : as = cs ∧ bs = ds := by
  induction as generalizing cs with
  | nil =>
      rcases cs with _ | ⟨c, cs⟩
      · exact ⟨rfl, (List.cons.inj h).2⟩
      · obtain ⟨rfl, rfl⟩ := List.cons.inj h
        simp at hbs
  | cons a as ih =>
      rcases cs with _ | ⟨c, cs⟩
      · obtain ⟨rfl, rfl⟩ := List.cons.inj h
        simp at hds
      · obtain ⟨rfl, hrest⟩ := List.cons.inj h
        obtain ⟨rfl, rfl⟩ := ih hrest
        exact ⟨rfl, rfl⟩

theorem mapM_map_of_forall {f : α → β} {read : β → Option α} {as : List α}
    (h : ∀ a ∈ as, read (f a) = some a) : (as.map f).mapM read = some as := by
  induction as with
  | nil => rfl
  | cons a as ih =>
      obtain ⟨ha, has⟩ := List.forall_mem_cons.mp h
      rw [List.map_cons, List.mapM_cons, ha, ih has]
      rfl

theorem forall₂_map_right {R : α → β → Prop} {f : α → β} {as : List α}
    (h : ∀ a ∈ as, R a (f a)) : List.Forall₂ R as (as.map f) := by
  rw [List.forall₂_map_right_iff, List.forall₂_same]
  exact h

theorem ofList_toList [DecidableEq α] [Ord α] [Std.TransOrd α] [Std.LawfulEqOrd α]
    (m : Std.ExtTreeMap α β) : Std.ExtTreeMap.ofList m.toList = m := by
  have hdistinct := m.distinct_keys_toList
  refine Std.ExtTreeMap.ext_getElem? fun a => ?_
  rcases hget : m[a]? with _ | b
  · refine Std.ExtTreeMap.getElem?_ofList_of_contains_eq_false ?_
    rw [Bool.eq_false_iff, ne_eq, List.contains_iff_mem]
    intro hmem
    obtain ⟨⟨_, b⟩, hentry, rfl⟩ := List.mem_map.mp hmem
    rw [Std.ExtTreeMap.mem_toList_iff_getElem?_eq_some.mp hentry] at hget
    cases hget
  · exact Std.ExtTreeMap.getElem?_ofList_of_mem (Std.LawfulEqOrd.compare_eq_iff_eq.mpr rfl)
      hdistinct (Std.ExtTreeMap.mem_toList_iff_getElem?_eq_some.mpr hget)

end Lists

namespace Shape

theorem toList_display (s : Shape) :
    s.display.toList = s.name.toList ++ '/' :: Number.digits s.arity := by
  rw [display, Nat.repr, String.toList_append, String.toList_append, String.toList_ofList]
  simp [Number.digits]

/-- The text by which a shape is shown tells name and arity, whatever characters the name has: no
slash comes after the one before the arity. -/
theorem eq_of_display_eq {s s' : Shape} (h : s.display = s'.display) :
    s.name = s'.name ∧ s.arity = s'.arity := by
  have hslash : ∀ n, '/' ∉ Number.digits n := by
    intro n hn
    have hdigit := (Number.isDigits_digits n).isDigit _ hn
    cases hdigit
  have hlists := congrArg String.toList h
  rw [toList_display, toList_display] at hlists
  obtain ⟨hname, harity⟩ := eq_and_eq_of_append_cons_eq (hslash _) (hslash _) hlists
  refine ⟨String.toList_injective hname, ?_⟩
  have hnatural := Number.natural?_digits s.arity
  rw [harity, Number.natural?_digits] at hnatural
  exact (Option.some_inj.mp hnatural).symm

end Shape

open Json

def Json.Value.int? : Value → Option Int
  | .number literal => Number.integer? literal
  | _ => none

namespace Inventory

def fieldsShown? : Value → Option Record
  | .array items => items.mapM fun item => item.int?.map Int32.ofInt
  | _ => none

/-- The handle and the fields that a member of a shape shows. -/
def recordShown? (member : List Char × Value) : Option (Handle × Record) := do
  let h ← Number.integer? (← unescape? member.1)
  return (Int32.ofInt h, ← fieldsShown? member.2)

/-- The shape, one of those given, that a member of a dump shows, with its records. -/
def listingShown? (shapes : List Shape) (member : List Char × Value) :
    Option (Shape × Listing) := do
  let name ← unescape? member.1
  let s ← shapes.find? (·.display.toList = name)
  match member.2 with
  | .object members => return (s, .ofList (← members.mapM recordShown?))
  | _ => none

/-- The inventory of which a text is the dump, if all its shapes are among those given. -/
def ofDump? (shapes : List Shape) (text : String) : Option Inventory := do
  match ← parse? text.toList with
  | .object members => return { shapes := .ofList (← members.mapM (listingShown? shapes)) }
  | _ => none

def ShowsFields (fields : Record) (value : Value) : Prop :=
  ∃ items, value = .array items ∧
    List.Forall₂ (fun field item => item.int? = some field.toInt) fields items

/-- A member shows a record: under the decimal text of its handle, with its fields. -/
def ShowsRecord (entry : Handle × Record) (member : List Char × Value) : Prop :=
  unescape? member.1 = some (Number.signedDigits entry.1.toInt) ∧ ShowsFields entry.2 member.2

/-- A member shows a shape: under its name and arity, with its records in order. -/
def ShowsListing (entry : Shape × Listing) (member : List Char × Value) : Prop :=
  unescape? member.1 = some (entry.1.name ++ "/" ++ Nat.repr entry.1.arity).toList ∧
    ∃ members, member.2 = .object members ∧ List.Forall₂ ShowsRecord entry.2.toList members

theorem int?_ofInt (n : Int) : (Value.ofInt n).int? = some n := Number.integer?_signedDigits n

theorem escape_signedDigits (n : Int) :
    escape (Number.signedDigits n) = Number.signedDigits n := by
  have hplain : ∀ c ∈ Number.signedDigits n, escapeChar c = [c] := by
    intro c hc
    have hdigit := Number.isDigit_or_minus_of_mem_signedDigits hc
    fun_cases escapeChar c with
    | case8 _ hcontrol =>
        rcases hdigit with hdigit | rfl
        · have hle : 48 ≤ c.toNat := (Char.isDigit_iff_toNat.mp hdigit).1
          omega
        · exact absurd hcontrol (by decide)
    | case9 _ hcontrol => exact if_neg hcontrol
    | _ => simp at hdigit
  rw [escape, List.flatMap_congr hplain, List.flatMap_singleton']

theorem unescape?_signedDigits (n : Int) :
    unescape? (Number.signedDigits n) = some (Number.signedDigits n) := by
  conv_lhs => rw [← escape_signedDigits, unescape?_escape]

theorem showsFields_fieldsValue (fields : Record) : ShowsFields fields (fieldsValue fields) :=
  ⟨_, rfl, forall₂_map_right fun field _ => int?_ofInt field.toInt⟩

theorem showsListing_toValue (v : Inventory) : ∃ members, v.toValue = .object members ∧
    List.Forall₂ ShowsListing v.shapes.toList members := by
  refine ⟨_, rfl, forall₂_map_right ?_⟩
  rintro ⟨s, listing⟩ -
  refine ⟨unescape?_escape _, _, rfl, forall₂_map_right ?_⟩
  rintro ⟨h, fields⟩ -
  exact ⟨unescape?_signedDigits h.toInt, showsFields_fieldsValue fields⟩

theorem proper_toValue (v : Inventory) : Proper v.toValue := by
  have hfields : ∀ fields : Record, Proper (fieldsValue fields) := fun fields =>
    .array (List.forall_mem_map.mpr fun field _ => proper_ofInt field.toInt)
  have hlisting : ∀ listing : Listing, Proper (listingValue listing) := by
    intro listing
    refine .object (List.forall_mem_map.mpr ?_) (List.forall_mem_map.mpr ?_)
    · rintro ⟨h, fields⟩ -
      have hraw := raw_escape (Number.signedDigits h.toInt)
      rw [escape_signedDigits] at hraw
      exact hraw
    · rintro ⟨h, fields⟩ -
      exact hfields fields
  refine .object (List.forall_mem_map.mpr ?_) (List.forall_mem_map.mpr ?_)
  · rintro ⟨s, listing⟩ -
    exact raw_escape _
  · rintro ⟨s, listing⟩ -
    exact hlisting listing

/-- The dump is a text of the value that it is made from. -/
theorem text_dump (v : Inventory) : Text v.toValue v.dump.toList := by
  rw [dump, String.toList_ofList]
  exact ((proper_toValue v).spells_pretty 0).text

theorem fieldsShown?_fieldsValue (fields : Record) :
    fieldsShown? (fieldsValue fields) = some fields := by
  have hfield : ∀ field : Int32, (Value.ofInt field.toInt).int?.map Int32.ofInt = some field := by
    intro field
    rw [int?_ofInt, Option.map_some, Int32.ofInt_toInt]
  exact mapM_map_of_forall fun field _ => hfield field

theorem listingShown?_listingValue {shapes : List Shape} {s : Shape} (hs : s ∈ shapes)
    (hdistinct : ∀ s' ∈ shapes, s'.arity = s.arity → s'.name = s.name → s' = s)
    (listing : Listing) : listingShown? shapes (escape s.display.toList, listingValue listing) =
      some (s, listing) := by
  have hfind : shapes.find? (·.display.toList = s.display.toList) = some s := by
    rcases hfound : shapes.find? (·.display.toList = s.display.toList) with _ | s'
    · simpa using List.find?_eq_none.mp hfound s hs
    · have hdisplay : s'.display.toList = s.display.toList := by
        simpa using List.find?_some hfound
      obtain ⟨hname, harity⟩ := Shape.eq_of_display_eq (String.toList_injective hdisplay)
      rw [hdistinct s' (List.mem_of_find?_eq_some hfound) harity hname] at hfound
      exact hfound
  have hrecord : ∀ entry ∈ listing.toList, recordShown?
      (Number.signedDigits entry.1.toInt, fieldsValue entry.2) = some entry := by
    rintro ⟨h, fields⟩ -
    simp only [recordShown?, unescape?_signedDigits, Option.bind_eq_bind, Option.bind_some,
      Number.integer?_signedDigits, fieldsShown?_fieldsValue, Int32.ofInt_toInt]
    rfl
  have hrecords : ∀ members, listingValue listing = .object members →
      members.mapM recordShown? = some listing.toList := by
    rintro _ ⟨⟩
    exact mapM_map_of_forall hrecord
  simp only [listingShown?, unescape?_escape, listingValue, Option.bind_eq_bind, Option.bind_some,
    hfind, hrecords _ rfl, ofList_toList]
  rfl

structure DumpLaw (v : Inventory) : Prop where
  /-- It is a JSON text of an object that shows the shapes in order, each with its records in
  order. -/
  reads : ∃ members, Text (.object members) v.dump.toList ∧
    parse? v.dump.toList = some (.object members) ∧
    List.Forall₂ ShowsListing v.shapes.toList members
  shapes_in_order : v.listedShapes.Pairwise Shape.Before
  displays_nodup : (v.listedShapes.map Shape.display).Nodup
  handles_in_order : ∀ s listing, (s, listing) ∈ v.shapes.toList →
    listing.toList.Pairwise fun a b => a.1.toInt < b.1.toInt
  /-- The inventory is recovered from the text, given its shapes, perhaps among others. -/
  recovered : ∀ shapes : List Shape, v.listedShapes ⊆ shapes →
    (∀ s ∈ shapes, ∀ s' ∈ shapes, s.arity = s'.arity → s.name = s'.name → s = s') →
    ofDump? shapes v.dump = some v
  injective : ∀ w : Inventory, w.listedShapes = v.listedShapes → w.dump = v.dump → w = v

theorem ofDump?_dump {v : Inventory} {shapes : List Shape} (hshapes : v.listedShapes ⊆ shapes)
    (hdistinct : ∀ s ∈ shapes, ∀ s' ∈ shapes, s.arity = s'.arity → s.name = s'.name → s = s') :
    ofDump? shapes v.dump = some v := by
  have hlisting : ∀ entry ∈ v.shapes.toList, listingShown? shapes
      (escape entry.1.display.toList, listingValue entry.2) = some entry := by
    rintro ⟨s, listing⟩ hmem
    have hs : s ∈ shapes := by
      refine hshapes ?_
      rw [listedShapes, ← Std.ExtTreeMap.map_fst_toList_eq_keys]
      exact List.mem_map.mpr ⟨_, hmem, rfl⟩
    exact listingShown?_listingValue hs (fun s' hs' => hdistinct s' hs' s hs) listing
  have hlistings : ∀ members, v.toValue = .object members →
      members.mapM (listingShown? shapes) = some v.shapes.toList := by
    rintro _ ⟨⟩
    exact mapM_map_of_forall hlisting
  simp only [ofDump?, parse?_eq_some_iff.mpr v.text_dump, toValue, Option.bind_eq_bind,
    Option.bind_some, hlistings _ rfl, ofList_toList]
  rfl

end Inventory

/-- The dump of an inventory loses nothing, if arity and name tell its shapes apart. -/
theorem dump_shows_whole_inventory (v : Inventory)
    (hdistinct : ∀ s ∈ v.listedShapes, ∀ s' ∈ v.listedShapes,
      s.arity = s'.arity → s.name = s'.name → s = s') : v.DumpLaw := by
  constructor
  case reads =>
    obtain ⟨members, hvalue, hshows⟩ := v.showsListing_toValue
    have htext := hvalue ▸ v.text_dump
    exact ⟨members, htext, parse?_eq_some_iff.mpr htext, hshows⟩
  case shapes_in_order => exact v.pairwise_listedShapes
  case displays_nodup =>
    refine List.pairwise_map.mpr (v.pairwise_listedShapes.imp_of_mem ?_)
    intro s s' hs hs' hbefore hdisplay
    obtain ⟨hname, harity⟩ := Shape.eq_of_display_eq hdisplay
    exact hbefore.ne (hdistinct s hs s' hs' harity hname)
  case handles_in_order =>
    intro s listing _
    exact listing.ordered_keys_toList.imp fun hlt =>
      Int32.lt_iff_toInt_lt.mp (Std.compare_eq_lt.mp hlt)
  case recovered =>
    intro shapes hshapes hdistinct
    exact Inventory.ofDump?_dump hshapes hdistinct
  case injective =>
    intro w hshapes hdump
    have hlisted : w.listedShapes ⊆ v.listedShapes := hshapes ▸ List.Subset.refl _
    have hw := Inventory.ofDump?_dump hlisted hdistinct
    rw [hdump, Inventory.ofDump?_dump (List.Subset.refl _) hdistinct] at hw
    exact (Option.some_inj.mp hw).symm

theorem slashed_names_recovered_from_dump :
    let slashed : Shape := { id := 0, name := "p/1", arity := 1 }
    let plain : Shape := { id := 1, name := "p", arity := 1 }
    let empty : Listing := ∅
    let listings : List (Shape × Listing) :=
      [(slashed, (empty.insert 1 [-1]).insert (-2147483648) [7]), (plain, empty.insert 1 [5])]
    let v : Inventory := { shapes := .ofList listings }
    v.listedShapes = [plain, slashed] ∧ Inventory.ofDump? [slashed, plain] v.dump = some v := by
  intro slashed plain empty listings v
  have hshapes : v.listedShapes = [plain, slashed] := by cbv
  have hdistinct : ∀ s ∈ [slashed, plain], ∀ s' ∈ [slashed, plain],
      s.arity = s'.arity → s.name = s'.name → s = s' := by decide
  have hlisted : v.listedShapes ⊆ [slashed, plain] := by
    rw [hshapes]
    decide
  have hlaw := dump_shows_whole_inventory v fun s hs s' hs' =>
    hdistinct s (hlisted hs) s' (hlisted hs')
  exact ⟨hshapes, hlaw.recovered [slashed, plain] hlisted hdistinct⟩

end Interner
