import Interner.Proofs.NestedDenotation
import Interner.Proofs.RegistryIndependence

/-!
Nested records are hash-consed: whatever else a registry is asked for, the handle that a nested record
is given denotes this record from then on. So two nested records of one type are equal exactly when
their handles are.
-/

namespace Interner

open Session

/-- The reply of a step that needed a new record where a table was full. -/
def Session.Reply.IsExhausted (reply : Reply) : Prop :=
  ∃ name capacity, reply = .error (.fault (.fatal (.exhausted name capacity)))

/-- What a run of interning leaves: a registry that has kept all that it had, and either an answer
that is right there or a full table. -/
structure Leaves (config : Config) (types : Set RecordType) {α : Type} (g : Registry)
    (run : Run Registry (Except Reply α)) (right : Registry → α → Prop) : Prop where
  splits : ∃ ds, run.state.Splits config types ds
  kept : g.Extends run.state
  right : ∀ a, run.answer = .ok a → right run.state a
  exhausted : ∀ reply, run.answer = .error reply → reply.IsExhausted

namespace Leaves

variable {config : Config} {types : Set RecordType} {α β : Type} {g : Registry}
  {run : Run Registry (Except Reply α)} {right : Registry → α → Prop}
  {right' : Registry → β → Prop}

theorem map (h : Leaves config types g run right) {f : α → β}
    (hf : ∀ a, right run.state a → right' run.state (f a)) :
    Leaves config types g (run.map (Except.map f)) right' := by
  refine ⟨h.splits, h.kept, fun b hb => ?_, fun reply hreply => ?_⟩
  · rcases hanswer : run.answer with reply | a
    · rw [Run.map, hanswer] at hb
      cases hb
    · rw [Run.map, hanswer] at hb
      cases hb
      exact hf a (h.right a hanswer)
  · rcases hanswer : run.answer with reply' | a
    · rw [Run.map, hanswer] at hreply
      cases hreply
      exact h.exhausted reply hanswer
    · rw [Run.map, hanswer] at hreply
      cases hreply

theorem andThenOk (h : Leaves config types g run right)
    {next : Registry → α → Run Registry (Except Reply β)}
    (hnext : ∀ a, right run.state a → Leaves config types run.state (next run.state a) right') :
    Leaves config types g (run.andThenOk next) right' := by
  rcases hanswer : run.answer with reply | a
  · have hstop : (run.andThenOk next).state = run.state ∧
        (run.andThenOk next).answer = .error reply := by
      rw [Run.andThenOk, Run.andThen, hanswer]
      exact ⟨rfl, rfl⟩
    refine ⟨hstop.1 ▸ h.splits, hstop.1 ▸ h.kept, fun b hb => ?_, fun reply' hreply => ?_⟩
    · rw [hstop.2] at hb
      cases hb
    · rw [hstop.2] at hreply
      cases hreply
      exact h.exhausted reply hanswer
  · have hgo : (run.andThenOk next).state = (next run.state a).state ∧
        (run.andThenOk next).answer = (next run.state a).answer := by
      rw [Run.andThenOk, Run.andThen, hanswer]
      exact ⟨rfl, rfl⟩
    obtain ⟨hsplits, hkept, hright, hexhausted⟩ := hnext a (h.right a hanswer)
    refine ⟨hgo.1 ▸ hsplits, hgo.1 ▸ h.kept.trans hkept, fun b hb => ?_, fun reply hreply => ?_⟩
    · rw [hgo.1]
      exact hright b (hgo.2 ▸ hb)
    · exact hexhausted reply (hgo.2 ▸ hreply)

end Leaves

section Interning

variable {config : Config} {types : Set RecordType} {g : Registry} {ds : List Demand}

theorem Session.RegistryStep.splits_perform (hids : types.InjOn (·.shape.id))
    (hg : g.Splits config types ds) {step : RegistryStep}
    (htypes : ∀ d ∈ step.demand?, d.type ∈ types) :
    (step.perform g).state.Splits config types (ds ++ step.demand?.toList) :=
  (Registry.splits_meet hids hg htypes).of_sameTables (sameTables_perform hg.sound step)

theorem Session.RegistryStep.extends_perform (hg : g.Sound) (step : RegistryStep) :
    g.Extends (step.perform g).state := fun _ _ _ hname => names_perform hg hname step

theorem Session.RegistryStep.answer_intern (hg : g.Splits config types ds) {type : RecordType}
    (htype : type ∈ types) {values : Record} (hlength : values.length = type.shape.arity) :
    (∃ h, ((intern type values).perform g).answer = .ok (.handle h)) ∨
      ((intern type values).perform g).answer.IsExhausted := by
  obtain ⟨fresh, hbuild, hfresh⟩ := hg.build_eq type
  obtain ⟨after, events, hrequest⟩ := hg.request_eq htype hbuild
  have ht := TableStep.represents_all hfresh (Demand.stepsOn type ds)
  have hdemand : (intern type values).demand? = some ⟨type, some (.intern values)⟩ :=
    if_pos hlength
  rw [answer_perform_of_demand g hdemand]
  simp only [hrequest]
  rw [TableStep.answer_intern_of_length (hlength.trans (congrArg Shape.arity ht.shape_eq.symm))]
  rcases hinsert : (InternTable.insert _ values).1 with fault | insertion
  · rw [ht.exhausted_of_insert_error hinsert]
    exact .inr ⟨_, _, rfl⟩
  · exact .inl ⟨insertion.handle, rfl⟩

theorem leaves_intern (hids : types.InjOn (·.shape.id)) (hg : g.Splits config types ds)
    {type : RecordType} (htype : type ∈ types) {values : Record}
    (hlength : values.length = type.shape.arity) :
    Leaves config types g (((RegistryStep.intern type values).perform g).map Reply.handle)
      fun g h => g.Names type.shape h values := by
  have hdemand : (RegistryStep.intern type values).demand? =
      some ⟨type, some (.intern values)⟩ := if_pos hlength
  have hanswer := RegistryStep.answer_intern hg htype hlength
  refine ⟨⟨_, RegistryStep.splits_perform hids hg ?_⟩, RegistryStep.extends_perform hg.sound _,
    fun h hh => ?_, fun reply hreply => ?_⟩
  · rw [hdemand]
    rintro d ⟨⟩
    exact htype
  · rcases hanswer with ⟨h', hanswer⟩ | ⟨name, capacity, hanswer⟩
    · rw [Run.map, hanswer] at hh
      cases hh
      exact RegistryStep.names_of_answer hg.sound rfl hanswer
    · rw [Run.map, hanswer] at hh
      cases hh
  · rcases hanswer with ⟨h', hanswer⟩ | ⟨name, capacity, hanswer⟩
    · rw [Run.map, hanswer] at hreply
      cases hreply
    · rw [Run.map, hanswer] at hreply
      cases hreply
      exact ⟨name, capacity, rfl⟩

/-- With a type of `types`, the types that its fields refer to are among them too. -/
def Schema.Closed (σ : Schema) (types : Set RecordType) : Prop :=
  ∀ type ∈ types, ∀ type', .reference type' ∈ σ.kinds type → type' ∈ types

variable {σ : Schema}

theorem Fields.Denote.length_eq {kinds : List FieldKind} {values : Record} :
    {fields : Fields σ kinds} → fields.Denote g values → values.length = kinds.length
  | .nil, hnil => congrArg List.length hnil
  | .plain n rest, hfields => by
    obtain ⟨more, rfl, hrest⟩ := hfields
    exact congrArg Nat.succ hrest.length_eq
  | .absent rest, hfields => by
    obtain ⟨more, rfl, hrest⟩ := hfields
    exact congrArg Nat.succ hrest.length_eq
  | .child t rest, hfields => by
    obtain ⟨h, more, rfl, -, hrest⟩ := hfields
    exact congrArg Nat.succ hrest.length_eq

mutual

/-- Interning a nested record gives a handle that denotes it, unless a table is full. -/
theorem Term.leaves_intern (hids : types.InjOn (·.shape.id)) (hclosed : σ.Closed types)
    {g : Registry} {ds : List Demand} (hg : g.Splits config types ds) {type : RecordType}
    (htype : type ∈ types) :
    (t : Term σ type) → Leaves config types g (t.intern g) fun g h => t.Denotes g h
  | .node _ fields => by
    have hfields := fields.leaves_intern hids hclosed hg (hclosed type htype)
    rw [Term.intern]
    refine hfields.andThenOk fun values hvalues => ?_
    obtain ⟨ds', hsplits⟩ := hfields.splits
    have hlength := hvalues.length_eq.trans (σ.length_kinds type)
    -- What the handles in the fields denote is kept while the node itself is interned.
    have hnode := Interner.leaves_intern hids hsplits htype hlength
    refine ⟨hnode.splits, hnode.kept, fun h hh => ?_, hnode.exhausted⟩
    exact ⟨values, hnode.right h hh, hvalues.mono hnode.kept⟩

theorem Fields.leaves_intern (hids : types.InjOn (·.shape.id)) (hclosed : σ.Closed types)
    {g : Registry} {ds : List Demand} (hg : g.Splits config types ds) {kinds : List FieldKind}
    (hkinds : ∀ type, .reference type ∈ kinds → type ∈ types) :
    (fields : Fields σ kinds) →
      Leaves config types g (fields.intern g) fun g values => fields.Denote g values
  | .nil => by
    rw [Fields.intern]
    refine ⟨⟨ds, hg⟩, .refl g, ?_, ?_⟩
    · rintro _ ⟨⟩
      exact rfl
    · rintro _ ⟨⟩
  | .plain n rest => by
    have hrest := rest.leaves_intern hids hclosed hg
      fun type htype => hkinds type (List.mem_cons_of_mem _ htype)
    rw [Fields.intern]
    exact hrest.map fun values hvalues => ⟨values, rfl, hvalues⟩
  | .absent rest => by
    have hrest := rest.leaves_intern hids hclosed hg
      fun type htype => hkinds type (List.mem_cons_of_mem _ htype)
    rw [Fields.intern]
    exact hrest.map fun values hvalues => ⟨values, rfl, hvalues⟩
  | .child t rest => by
    have ht := t.leaves_intern hids hclosed hg (hkinds _ List.mem_cons_self)
    rw [Fields.intern]
    refine ht.andThenOk fun h hh => ?_
    obtain ⟨ds', hsplits⟩ := ht.splits
    have hrest := rest.leaves_intern hids hclosed hsplits
      fun type htype => hkinds type (List.mem_cons_of_mem _ htype)
    exact hrest.map fun values hvalues => ⟨h, values, rfl, hh.mono hrest.kept, hvalues⟩

end

end Interning

/-- What is asked of a registry that nested records are interned in. -/
inductive NestedStep (σ : Schema) where
  | plain (step : RegistryStep)
  | intern (type : RecordType) (t : Term σ type)

namespace NestedStep

variable {σ : Schema}

/-- The type that a step asks a table for, or whose nested record it interns. -/
def type? : NestedStep σ → Option RecordType
  | plain step => step.demand?.map (·.type)
  | intern type _ => some type

def perform (g : Registry) : NestedStep σ → Run Registry (Except Reply Handle)
  | plain step => (step.perform g).map Reply.handle
  | intern _ t => t.intern g

variable {config : Config} {types : Set RecordType} {g : Registry} {ds : List Demand}

theorem keeps_perform (hids : types.InjOn (·.shape.id)) (hclosed : σ.Closed types)
    (hg : g.Splits config types ds) {step : NestedStep σ}
    (htype : ∀ type ∈ step.type?, type ∈ types) :
    (∃ ds', (step.perform g).state.Splits config types ds') ∧
      g.Extends (step.perform g).state := by
  cases step with
  | plain step =>
      refine ⟨⟨_, step.splits_perform hids hg fun d hd => htype d.type ?_⟩,
        step.extends_perform hg.sound⟩
      exact Option.mem_map_of_mem _ hd
  | intern type t =>
      have hleaves := t.leaves_intern hids hclosed hg (htype type rfl)
      exact ⟨hleaves.splits, hleaves.kept⟩

theorem keeps_all (hids : types.InjOn (·.shape.id)) (hclosed : σ.Closed types)
    (hg : g.Splits config types ds) {steps : List (NestedStep σ)}
    (htypes : ∀ step ∈ steps, ∀ type ∈ step.type?, type ∈ types) :
    (∃ ds', (Run.all perform g steps).state.Splits config types ds') ∧
      g.Extends (Run.all perform g steps).state := by
  induction steps generalizing g ds with
  | nil => exact ⟨⟨ds, hg⟩, .refl g⟩
  | cons step steps ih =>
      obtain ⟨hstep, hsteps⟩ := List.forall_mem_cons.mp htypes
      obtain ⟨⟨ds', hsplits⟩, hkept⟩ := keeps_perform hids hclosed hg hstep
      obtain ⟨hall, hmore⟩ := ih hsplits hsteps
      exact ⟨hall, hkept.trans hmore⟩

theorem splits_take (hids : types.InjOn (·.shape.id)) (hclosed : σ.Closed types)
    (hg : g.Splits config types ds) {steps : List (NestedStep σ)}
    (htypes : ∀ step ∈ steps, ∀ type ∈ step.type?, type ∈ types) (k : Nat) :
    ∃ ds', (Run.all perform g (steps.take k)).state.Splits config types ds' :=
  (keeps_all hids hclosed hg fun step hstep => htypes step (List.mem_of_mem_take hstep)).1

/-- What a step that interns a nested record leaves, and what it was answered. -/
theorem leaves_getElem? (hids : types.InjOn (·.shape.id)) (hclosed : σ.Closed types)
    (hg : g.Splits config types ds) {steps : List (NestedStep σ)}
    (htypes : ∀ step ∈ steps, ∀ type ∈ step.type?, type ∈ types) {i : Nat} {type : RecordType}
    {t : Term σ type} (hi : steps[i]? = some (intern type t)) :
    ∃ run, Leaves config types (Run.all perform g (steps.take i)).state run
        (fun g h => t.Denotes g h) ∧
      (Run.all perform g steps).answer[i]? = some run.answer ∧
      ∀ k, i < k → run.state.Extends (Run.all perform g (steps.take k)).state := by
  have hmem := List.mem_of_getElem? hi
  obtain ⟨ds', hsplits⟩ := splits_take hids hclosed hg htypes i
  have hleaves := t.leaves_intern hids hclosed hsplits (htypes _ hmem type rfl)
  refine ⟨_, hleaves, ?_, fun k hik => ?_⟩
  · rw [Run.answer_all_getElem?, hi, Option.map_some]
    rfl
  · obtain ⟨ds', hafter⟩ := hleaves.splits
    rw [Run.state_all_take hi hik]
    refine (keeps_all hids hclosed hafter ?_).2
    intro step hstep
    exact htypes step (List.mem_of_mem_take (List.mem_of_mem_drop hstep))

/-- A handle that a nested record was given denotes it from then on. -/
theorem denotes_take (hids : types.InjOn (·.shape.id)) (hclosed : σ.Closed types)
    (hg : g.Splits config types ds) {steps : List (NestedStep σ)}
    (htypes : ∀ step ∈ steps, ∀ type ∈ step.type?, type ∈ types) {i k : Nat} (hik : i < k)
    {type : RecordType} {t : Term σ type} {h : Handle} (hi : steps[i]? = some (intern type t))
    (hanswer : (Run.all perform g steps).answer[i]? = some (.ok h)) :
    t.Denotes (Run.all perform g (steps.take k)).state h := by
  obtain ⟨run, hleaves, hrun, hkept⟩ := leaves_getElem? hids hclosed hg htypes hi
  rw [hrun, Option.some_inj] at hanswer
  exact (hleaves.right h hanswer).mono (hkept k hik)

end NestedStep

/-- Nested records are hash-consed. In every run of a registry, a nested record that is interned is
given a handle, unless a table is full, and at every later time this handle resolves to the nested
record and to no other, and to resolve it changes nothing. Of two nested records of one type that were
given handles, equal handles mean equal nested records. -/
theorem nested_records_are_hash_consed (σ : Schema) (types : Set RecordType)
    (hids : types.InjOn (·.shape.id)) (hclosed : σ.Closed types) (config : Config) (g : Registry)
    (hcreate : Registry.create config = .ok g) (steps : List (NestedStep σ))
    (htypes : ∀ step ∈ steps, ∀ type ∈ step.type?, type ∈ types) :
    let run := fun k => Run.all NestedStep.perform g (steps.take k)
    let answer := fun i : Nat => (Run.all NestedStep.perform g steps).answer[i]?
    (∀ i type (t : Term σ type), steps[i]? = some (.intern type t) →
      (∃ h, answer i = some (.ok h) ∧
        ∀ k, i < k → ∀ (t' : Term σ type) (g' : Registry),
          Term.Resolves (run k).state h t' g' ↔ t' = t ∧ g' = (run k).state) ∨
      ∃ reply, answer i = some (.error reply) ∧ reply.IsExhausted) ∧
    ∀ i j type (t t' : Term σ type) h h', steps[i]? = some (.intern type t) →
      steps[j]? = some (.intern type t') → answer i = some (.ok h) → answer j = some (.ok h') →
      (h = h' ↔ t = t') := by
  intro run answer
  have hg : g.Splits config types [] := Registry.splits_nil hcreate
  have hsound : ∀ k, (run k).state.Sound := by
    intro k
    obtain ⟨ds, hsplits⟩ := NestedStep.splits_take hids hclosed hg htypes k
    exact hsplits.sound
  refine ⟨fun i type t hi => ?_, fun i j type t t' h h' hi hj hanswer hanswer' => ?_⟩
  · obtain ⟨found, hleaves, hfound, -⟩ := NestedStep.leaves_getElem? hids hclosed hg htypes hi
    rcases hresult : found.answer with reply | h
    · rw [hresult] at hfound
      exact .inr ⟨reply, hfound, hleaves.exhausted reply hresult⟩
    · rw [hresult] at hfound
      refine .inl ⟨h, hfound, fun k hik t' g' => ?_⟩
      have ht := NestedStep.denotes_take hids hclosed hg htypes hik hi hfound
      exact ht.resolves_iff (hsound k)
  · have ht := NestedStep.denotes_take hids hclosed hg htypes
      (Nat.lt_succ_of_le (Nat.le_max_left i j)) hi hanswer
    have ht' := NestedStep.denotes_take hids hclosed hg htypes
      (Nat.lt_succ_of_le (Nat.le_max_right i j)) hj hanswer'
    constructor
    · rintro rfl
      exact ht.unique (hsound _) ht'
    · rintro rfl
      exact ht.handle_unique (hsound _) ht'

theorem cell_with_two_children_resolved :
    let leaf : RecordType := { shape := { id := 0, name := "leaf", arity := 0 } }
    let cell : RecordType := { shape := { id := 1, name := "cell", arity := 3 } }
    let kinds : RecordType → List FieldKind := fun type =>
      if type.shape.arity = 3 then [.plain, .reference cell, .reference leaf]
      else List.replicate type.shape.arity .plain
    let σ : Schema :=
      { kinds
        length_kinds := fun type => by
          dsimp only [kinds]
          split
          · rename_i harity
            exact harity.symm
          · exact List.length_replicate }
    let inner : Term σ cell := .node cell (.plain 7 (.absent (.child (.node leaf .nil) .nil)))
    let outer : Term σ cell := .node cell (.plain 8 (.child inner (.absent .nil)))
    let g : Registry := { config := { blockSize := 2, maxRecords := 4 } }
    let steps : List (NestedStep σ) :=
      [.intern cell outer, .plain (.intern cell [7, 0, 0]), .intern cell inner]
    let later := (Run.all NestedStep.perform g steps).state
    Term.Resolves later 2 outer later ∧ (outer = inner ↔ (2 : Handle) = 1) := by
  intro leaf cell kinds σ inner outer g steps later
  have hcreate : Registry.create g.config = .ok g :=
    Registry.create_of_accept (Config.accept_eq_ok_iff.mpr (by decide))
  have hids : ({leaf, cell} : Set RecordType).InjOn (·.shape.id) := by
    rintro type (rfl | rfl) type' (rfl | rfl) hid
    · rfl
    · cases hid
    · cases hid
    · rfl
  have hclosed : σ.Closed {leaf, cell} := by
    have hkinds : σ.kinds cell = [.plain, .reference cell, .reference leaf] := rfl
    rintro type (rfl | rfl) type' hmem
    · cases hmem
    · rw [hkinds] at hmem
      simpa [or_comm] using hmem
  have htypes : ∀ step ∈ steps, ∀ type ∈ step.type?, type ∈ ({leaf, cell} : Set RecordType) := by
    have hcell : ∀ step ∈ steps, step.type? = some cell := by
      simp only [steps, List.forall_mem_cons]
      exact ⟨rfl, rfl, rfl, List.forall_mem_nil _⟩
    intro step hstep type htype
    rw [hcell step hstep] at htype
    cases htype
    exact .inr rfl
  have hconsed := nested_records_are_hash_consed σ {leaf, cell} hids hclosed g.config g hcreate
    steps htypes
  have houter : (Run.all NestedStep.perform g steps).answer[0]? = some (.ok 2) := by
    rw [Run.answer_all_getElem?]
    cbv
  have hinner : (Run.all NestedStep.perform g steps).answer[2]? = some (.ok 1) := by
    rw [Run.answer_all_getElem?]
    cbv
  constructor
  · obtain ⟨h, hanswer, hresolve⟩ | ⟨reply, hanswer, -⟩ := hconsed.1 0 cell outer rfl
    · cases houter.symm.trans hanswer
      exact (hresolve 3 (by decide) outer later).mpr ⟨rfl, rfl⟩
    · cases houter.symm.trans hanswer
  · exact (hconsed.2 0 2 cell outer inner 2 1 rfl rfl houter hinner).symm

end Interner
