import Interner.Session.RegistryStep

/-!
Nested records. A schema says for each field of a type whether it holds a number or refers to a
record of some type. A nested record is interned from the inside out, so that a field that refers to a
record holds the handle that this record was given, and it is resolved from the outside in.
-/

namespace Interner

open Session

inductive FieldKind where
  | plain
  | reference (type : RecordType)

structure Schema where
  kinds : RecordType → List FieldKind
  length_kinds (type : RecordType) : (kinds type).length = type.shape.arity

mutual

/-- A record of a type, with the records that its fields refer to in their places. -/
inductive Term (σ : Schema) : RecordType → Type where
  | node (type : RecordType) (fields : Fields σ (σ.kinds type)) : Term σ type

/-- Fields of the given kinds. A reference may be absent. -/
inductive Fields (σ : Schema) : List FieldKind → Type where
  | nil : Fields σ []
  | plain {kinds : List FieldKind} (n : Int32) (rest : Fields σ kinds) : Fields σ (.plain :: kinds)
  | absent {type : RecordType} {kinds : List FieldKind} (rest : Fields σ kinds) :
      Fields σ (.reference type :: kinds)
  | child {type : RecordType} {kinds : List FieldKind} (t : Term σ type) (rest : Fields σ kinds) :
      Fields σ (.reference type :: kinds)

end

/-- A second operation after the first, if that one succeeded. -/
def Run.andThenOk {σ ε α β : Type} (r : Run σ (Except ε α)) (f : σ → α → Run σ (Except ε β)) :
    Run σ (Except ε β) :=
  r.andThen fun s answer =>
    match answer with
    | .error cause => { answer := .error cause, state := s }
    | .ok a => f s a

def Session.Reply.handle : Reply → Except Reply Handle
  | .ok (.handle h) => .ok h
  | reply => .error reply

variable {σ : Schema}

mutual

/-- Interns a nested record: first the records in its fields, then itself. Where a record gets no
handle, the answer is the reply to that. -/
def Term.intern (g : Registry) {type : RecordType} :
    Term σ type → Run Registry (Except Reply Handle)
  | .node type fields =>
    (fields.intern g).andThenOk fun g values =>
      ((RegistryStep.intern type values).perform g).map Reply.handle

/-- Interns the records in fields, and gives the values of the fields. -/
def Fields.intern (g : Registry) {kinds : List FieldKind} :
    Fields σ kinds → Run Registry (Except Reply Record)
  | .nil => { answer := .ok [], state := g }
  | .plain n rest => (rest.intern g).map fun answer => answer.map (n :: ·)
  | .absent rest => (rest.intern g).map fun answer => answer.map (Handle.null :: ·)
  | .child t rest =>
    (t.intern g).andThenOk fun g h => (rest.intern g).map fun answer => answer.map (h :: ·)

end

mutual

/-- To resolve the handle in the first registry gives the nested record and leaves the other registry.
It gives nothing if a handle on the way is not issued, or if records refer to each other in a circle. -/
inductive Term.Resolves : Registry → {type : RecordType} → Handle → Term σ type → Registry → Prop where
  | node {g g' : Registry} {type : RecordType} {h : Handle} {values : Record}
      {fields : Fields σ (σ.kinds type)}
      (hread : ((RegistryStep.resolve type h).perform g).answer = .ok (.record values))
      (hfields : Fields.Resolve ((RegistryStep.resolve type h).perform g).state values fields g') :
      Term.Resolves g h (.node type fields) g'

/-- To resolve the values of fields, in their order, gives the fields. -/
inductive Fields.Resolve :
    Registry → {kinds : List FieldKind} → Record → Fields σ kinds → Registry → Prop where
  | nil {g : Registry} : Fields.Resolve g [] .nil g
  | plain {g g' : Registry} {kinds : List FieldKind} {values : Record} {n : Int32}
      {rest : Fields σ kinds} (hrest : Fields.Resolve g values rest g') :
      Fields.Resolve g (n :: values) (.plain n rest) g'
  | absent {g g' : Registry} {type : RecordType} {kinds : List FieldKind} {values : Record}
      {h : Handle} {rest : Fields σ kinds} (hnull : h.isNull)
      (hrest : Fields.Resolve g values rest g') :
      Fields.Resolve g (h :: values) (.absent rest : Fields σ (.reference type :: kinds)) g'
  | child {g g' g'' : Registry} {type : RecordType} {kinds : List FieldKind} {values : Record}
      {h : Handle} {t : Term σ type} {rest : Fields σ kinds} (hnull : ¬ h.isNull)
      (ht : Term.Resolves g h t g') (hrest : Fields.Resolve g' values rest g'') :
      Fields.Resolve g (h :: values) (.child t rest) g''

end

mutual

/-- A handle resolves to one nested record at most. -/
theorem Term.Resolves.deterministic {g g' g'' : Registry} {type : RecordType} {h : Handle} :
    {t t' : Term σ type} → Term.Resolves g h t g' → Term.Resolves g h t' g'' → t = t' ∧ g' = g''
  | _, _, .node hread hfields, .node hread' hfields' => by
    rw [hread] at hread'
    cases hread'
    obtain ⟨rfl, hstate⟩ := hfields.deterministic hfields'
    exact ⟨rfl, hstate⟩

theorem Fields.Resolve.deterministic {g g' g'' : Registry} {kinds : List FieldKind}
    {values : Record} :
    {fields fields' : Fields σ kinds} → Fields.Resolve g values fields g' →
      Fields.Resolve g values fields' g'' → fields = fields' ∧ g' = g''
  | _, _, .nil, .nil => ⟨rfl, rfl⟩
  | _, _, .plain hrest, .plain hrest' => by
    obtain ⟨rfl, hstate⟩ := hrest.deterministic hrest'
    exact ⟨rfl, hstate⟩
  | _, _, .absent _ hrest, .absent _ hrest' => by
    obtain ⟨rfl, hstate⟩ := hrest.deterministic hrest'
    exact ⟨rfl, hstate⟩
  | _, _, .child _ ht hrest, .child _ ht' hrest' => by
    obtain ⟨rfl, rfl⟩ := ht.deterministic ht'
    obtain ⟨rfl, hstate⟩ := hrest.deterministic hrest'
    exact ⟨rfl, hstate⟩
  | _, _, .absent hnull _, .child hchild _ _ => absurd hnull hchild
  | _, _, .child hchild _ _, .absent hnull _ => absurd hnull hchild

end

end Interner
