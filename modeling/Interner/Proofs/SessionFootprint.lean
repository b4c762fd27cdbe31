import Interner.Proofs.RegistryFootprint
import Interner.Proofs.SessionTables

namespace Interner

open Memory Session InternTable

section NamedObjects

variable {β : Type} (objects : Std.ExtTreeMap String β) (id : String)

theorem nodup_toList : objects.toList.Nodup :=
  (Std.ExtTreeMap.distinct_keys_toList (t := objects)).imp fun hne heq => hne (by simp [heq])

theorem perm_erase :
    objects.toList.Perm ((objects[id]?).toList.map (id, ·) ++ (objects.erase id).toList) := by
  rw [List.perm_ext_iff_of_nodup (nodup_toList objects)]
  · rintro ⟨id', object⟩
    rw [List.mem_append, List.mem_map, Std.ExtTreeMap.mem_toList_iff_getElem?_eq_some,
      Std.ExtTreeMap.mem_toList_iff_getElem?_eq_some, Std.ExtTreeMap.getElem?_erase]
    simp only [Option.mem_toList, Std.LawfulEqOrd.compare_eq_iff_eq, Prod.mk.injEq]
    by_cases hid : id = id'
    · simp [hid]
    · simp [hid]
  · rw [List.nodup_append]
    refine ⟨?_, nodup_toList _, ?_⟩
    · rcases objects[id]? with _ | object
      · exact List.nodup_nil
      · exact List.nodup_singleton _
    · rintro _ hmem ⟨id', object⟩ hother rfl
      rw [Std.ExtTreeMap.mem_toList_iff_getElem?_eq_some, Std.ExtTreeMap.getElem?_erase] at hother
      simp only [List.mem_map, Prod.mk.injEq] at hmem
      obtain ⟨_, -, rfl, -⟩ := hmem
      simp at hother

theorem perm_insert (object : β) :
    (objects.insert id object).toList.Perm ((id, object) :: (objects.erase id).toList) := by
  have herase : (objects.insert id object).erase id = objects.erase id := by
    refine Std.ExtTreeMap.ext_getElem? fun id' => ?_
    rw [Std.ExtTreeMap.getElem?_erase, Std.ExtTreeMap.getElem?_erase,
      Std.ExtTreeMap.getElem?_insert]
    split
    · rfl
    · rfl
  have hperm := perm_erase (objects.insert id object) id
  rwa [herase, Std.ExtTreeMap.getElem?_insert_self] at hperm

end NamedObjects

namespace Session

/-- The tables of the session and of its registries. -/
def tablesHeld (s : Session) : List InternTable :=
  s.tables.toList.map Prod.snd ++ s.registries.toList.flatMap (·.2.tables) ++
    ((s.processRegistry.map (·.tables)).getD [])

/-- The tables of the registry that a step puts another one in the place of. They are never dropped. -/
def tablesLeft (s : Session) (step : Step) : List InternTable :=
  ((step.opened?.bind (s.registries[·]?)).map (·.tables)).getD []

def tablesLeftBy (s : Session) : List Step → List InternTable
  | [] => []
  | step :: steps => s.tablesLeft step ++ (s.perform step).state.tablesLeftBy steps

/-- All tables that were made before or by the steps and were not dropped. -/
def liveTables (s : Session) (steps : List Step) : List InternTable :=
  (Run.all perform s steps).state.tablesHeld ++ s.tablesLeftBy steps

theorem tablesLeftBy_concat (s : Session) (steps : List Step) (step : Step) :
    s.tablesLeftBy (steps ++ [step]) =
      s.tablesLeftBy steps ++ (Run.all perform s steps).state.tablesLeft step := by
  induction steps generalizing s with
  | nil => exact List.append_nil _
  | cons first steps ih =>
      rw [List.cons_append, tablesLeftBy, ih, tablesLeftBy, List.append_assoc]
      rfl

theorem SameTables.tablesHeld_eq {s s' : Session} (h : s.SameTables s') :
    s.tablesHeld = s'.tablesHeld := by
  rw [tablesHeld, tablesHeld, h.tables_eq, h.registries_eq, h.processRegistry_eq]

theorem SameTables.level_eq {s s' : Session} (h : s.SameTables s') (c : Category) (m : Measure) :
    s.memory.level c m = s'.memory.level c m := by
  rw [h.memory_eq]

theorem registryOf_named (s : Session) (id : String) :
    s.registryOf (.named id) = s.registries[id]? := by
  rw [registryOf, registry?]
  rcases s.registries[id]? with _ | g
  · rfl
  · rfl

theorem registryOf_process (s : Session) : s.registryOf .process =
    some (s.processRegistry.getD (makeProcessRegistry s.environment).1) := by
  rw [registryOf, registry?]
  rcases s.processRegistry with _ | g
  · rfl
  · rfl

theorem tables_makeProcessRegistry (environment : Config.Environment) :
    (makeProcessRegistry environment).1.tables = [] := by
  rw [makeProcessRegistry]
  split
  · rfl
  · rfl

section Footprints

variable (s : Session) (c : Category) (m : Measure)

theorem footprints_insertTable (id : String) (t : InternTable) :
    footprints ({ s with tables := s.tables.insert id t } : Session).tablesHeld c m +
        footprints (s.tables[id]?).toList c m =
      footprints s.tablesHeld c m + t.footprint c m := by
  have hafter := footprints_perm c m ((perm_insert s.tables id t).map Prod.snd)
  have hbefore := footprints_perm c m ((perm_erase s.tables id).map Prod.snd)
  rw [List.map_cons, footprints_cons] at hafter
  rw [List.map_append, List.map_map, footprints_append] at hbefore
  simp only [tablesHeld, footprints_append, hafter, hbefore, Function.comp_def, List.map_id']
  omega

theorem footprints_eraseTable (id : String) :
    footprints ({ s with tables := s.tables.erase id } : Session).tablesHeld c m +
        footprints (s.tables[id]?).toList c m =
      footprints s.tablesHeld c m := by
  have hbefore := footprints_perm c m ((perm_erase s.tables id).map Prod.snd)
  rw [List.map_append, List.map_map, footprints_append] at hbefore
  simp only [tablesHeld, footprints_append, hbefore, Function.comp_def, List.map_id']
  omega

theorem footprints_putNamed (id : String) (g : Registry) :
    footprints (s.putRegistry (.named id) g).tablesHeld c m +
        footprints (((s.registries[id]?).map (·.tables)).getD []) c m =
      footprints s.tablesHeld c m + footprints g.tables c m := by
  have hafter := footprints_perm c m ((perm_insert s.registries id g).flatMap_right (·.2.tables))
  have hbefore := footprints_perm c m ((perm_erase s.registries id).flatMap_right (·.2.tables))
  rw [List.flatMap_cons, footprints_append] at hafter
  rw [List.flatMap_append, footprints_append] at hbefore
  have hold : ((s.registries[id]?).toList.map (id, ·)).flatMap (·.2.tables) =
      ((s.registries[id]?).map (·.tables)).getD [] := by
    rcases s.registries[id]? with _ | old
    · rfl
    · exact List.append_nil _
  rw [hold] at hbefore
  simp only [tablesHeld, putRegistry, footprints_append, hafter, hbefore]
  omega

theorem footprints_putRegistry {ref : RegistryRef} {g : Registry} (hg : s.registryOf ref = some g)
    (g' : Registry) :
    footprints (s.putRegistry ref g').tablesHeld c m + footprints g.tables c m =
      footprints s.tablesHeld c m + footprints g'.tables c m := by
  cases ref with
  | named id =>
      have hput := s.footprints_putNamed c m id g'
      rw [registryOf_named] at hg
      rwa [hg] at hput
  | process =>
      have hold : ((s.processRegistry.map (·.tables)).getD []) = g.tables := by
        rw [registryOf_process, Option.some_inj] at hg
        rw [← hg]
        rcases s.processRegistry with _ | g
        · exact (tables_makeProcessRegistry s.environment).symm
        · rfl
      simp only [tablesHeld, hold, putRegistry, footprints_append, Option.map_some,
        Option.getD_some]
      omega

end Footprints

end Session

end Interner
