import Interner.Proofs.ConfigLayers
import Interner.Proofs.SessionSteps

namespace Interner

open Memory Session

namespace Config

theorem accept_of_ofEnvironment {environment : Environment} {config : Config}
    (h : ofEnvironment environment = .ok config) : config.accept = .ok () :=
  (fields_of_ofLayers h).2.2

end Config

namespace Registry

theorem sound_of_nil {g : Registry} (haccept : g.config.accept = .ok ()) (h : g.tables = []) :
    g.Sound := by
  refine ⟨haccept, by rw [h]; exact List.nodup_nil, fun s t ht => ?_⟩
  rw [find?, h] at ht
  cases ht

theorem sound_usual : usual.Sound := sound_of_nil (Config.accept_eq_ok_iff.mpr (by decide)) rfl

end Registry

namespace Session

theorem sound_makeProcessRegistry (environment : Config.Environment) :
    (makeProcessRegistry environment).1.Sound := by
  rw [makeProcessRegistry]
  split
  · rename_i config hload
    exact Registry.sound_of_nil (Config.accept_of_ofEnvironment hload) rfl
  · exact Registry.sound_usual

structure Sound (s : Session) : Prop where
  tables : ∀ (id : String) (t : InternTable), s.tables[id]? = some t →
    ∃ type config rs, t.Represents type config rs
  registries : ∀ ref g, s.registryOf ref = some g → g.Sound

theorem Sound.of_sameTables {s s' : Session} (h : s'.Sound) (hsame : s.SameTables s') :
    s.Sound := by
  constructor
  case tables =>
    rw [hsame.tables_eq]
    exact h.tables
  case registries =>
    intro ref g hg
    rw [hsame.registryOf_eq] at hg
    exact h.registries ref g hg

theorem Sound.putRegistry {s : Session} (h : s.Sound) (ref : RegistryRef) {g : Registry}
    (hg : g.Sound) : (s.putRegistry ref g).Sound := by
  constructor
  case tables =>
    cases ref with
    | named id => exact h.tables
    | process => exact h.tables
  case registries =>
    intro ref' g' hg'
    rw [registryOf_putRegistry] at hg'
    split at hg'
    · cases hg'
      exact hg
    · exact h.registries ref' g' hg'

theorem Sound.insertTable {s : Session} (h : s.Sound) (id : String) {t : InternTable}
    (ht : ∃ type config rs, t.Represents type config rs) :
    ({ s with tables := s.tables.insert id t } : Session).Sound := by
  refine ⟨fun id' t' ht' => ?_, h.registries⟩
  rw [Std.ExtTreeMap.getElem?_insert] at ht'
  split at ht'
  · cases ht'
    exact ht
  · exact h.tables id' t' ht'

theorem Sound.eraseTable {s : Session} (h : s.Sound) (id : String) :
    ({ s with tables := s.tables.erase id } : Session).Sound := by
  refine ⟨fun id' t' ht' => ?_, h.registries⟩
  rw [Std.ExtTreeMap.getElem?_erase] at ht'
  split at ht'
  · cases ht'
  · exact h.tables id' t' ht'

theorem Sound.charge {s : Session} (h : s.Sound) (charges : List Charge) :
    (s.charge charges).Sound := ⟨h.tables, h.registries⟩

theorem Sound.giveBack {s : Session} (h : s.Sound) (charges : List Charge) :
    (s.giveBack charges).Sound := ⟨h.tables, h.registries⟩

theorem Effect.sound {s after : Session} {step : Step} (h : s.Effect step after) (hs : s.Sound) :
    after.Sound := by
  cases h with
  | nothing hdemand hopened h => exact hs.of_sameTables h
  | worked id inner t hstep ht h =>
      obtain ⟨type, config, rs, hrepresents⟩ := hs.tables id t ht
      have hinner : ∃ type config rs, (inner.perform t).state.Represents type config rs := by
        rw [TableStep.state_perform hrepresents]
        exact ⟨type, config, _, hrepresents.insertAll _⟩
      exact ((hs.insertTable id hinner).charge _).of_sameTables h
  | opened id type config t hstep ht h =>
      have hnew := InternTable.represents_of_create ht
      exact ((hs.insertTable id ⟨type, config, [], hnew⟩).giveBack _).of_sameTables h
  | dropped id t hstep ht h => exact ((hs.eraseTable id).giveBack _).of_sameTables h
  | met ref g g' d? hdemand hopened hg hmeet h =>
      have hsound := hs.registries ref g hg
      have hg' := (hmeet hsound).sound (Registry.sound_meet hsound d?)
      exact ((hs.putRegistry ref hg').charge _).of_sameTables h
  | replaced id g hdemand hopened haccept hnew h =>
      exact (hs.putRegistry (.named id) (Registry.sound_of_nil haccept hnew)).of_sameTables h

theorem sound_perform {s : Session} (hs : s.Sound) (step : Step) : (s.perform step).state.Sound :=
  (effect_perform s step).sound hs

theorem sound_all {s : Session} (hs : s.Sound) (steps : List Step) :
    (Run.all perform s steps).state.Sound :=
  Run.all_induction (motive := fun _ (s : Session) => s.Sound) hs
    (fun _ _ step hbefore => sound_perform hbefore step) steps

theorem sound_of_empty {s : Session} (htables : s.tables = ∅) (hregistries : s.registries = ∅)
    (hprocess : s.processRegistry = none) : s.Sound := by
  constructor
  case tables =>
    intro id t ht
    rw [htables] at ht
    simp at ht
  case registries =>
    intro ref g hg
    cases ref with
    | named id =>
        rw [registryOf, registry?, hregistries] at hg
        simp at hg
    | process =>
        simp only [registryOf, registry?, hprocess, Option.map_some, Option.some_inj] at hg
        rw [← hg]
        exact sound_makeProcessRegistry s.environment

end Session

end Interner
