import Interner.Proofs.RegistrySteps

namespace Interner

open Memory Session

namespace Registry

/-- What the meeting of a demand charges: the charges of the step on the table, if there is one. -/
def chargesFor (g : Registry) (d : Demand) : List Charge :=
  match g.request d.type, d.step with
  | .ok (t, _, _), some step => (step.perform t).charges
  | _, _ => []

def chargesToMeet (g : Registry) : Option Demand → List Charge
  | none => []
  | some d => g.chargesFor d

end Registry

namespace Session.RegistryStep

theorem charges_onTable (g : Registry) (type : RecordType) (step : TableStep) :
    (onTable g type step).charges = g.chargesFor ⟨type, some step⟩ := by
  rcases hrequest : g.request type with fault | ⟨t, after, events⟩
  · simp only [onTable, Registry.chargesFor, hrequest]
  · simp only [onTable, Registry.chargesFor, hrequest, Run.within]

theorem charges_requestAgain (g : Registry) (type : RecordType) (times : Nat) :
    (requestAgain g type times).charges = [] := by
  induction times generalizing g with
  | zero => rfl
  | succ times ih =>
      rcases hrequest : g.request type with fault | ⟨t, after, events⟩
      · simp only [requestAgain, hrequest]
      · simp only [requestAgain, hrequest, Run.map, ih]

theorem chargesFor_of_request (g : Registry) (type : RecordType) :
    g.chargesFor ⟨type, none⟩ = [] := by
  rw [Registry.chargesFor]
  split
  · rename_i hstep
    cases hstep
  · rfl

/-- Every step charges for what the meeting of its demand charges for. -/
theorem charges_perform (g : Registry) (step : RegistryStep) :
    (step.perform g).charges = g.chargesToMeet step.demand? := by
  cases step with
  | intern type fields =>
      rw [perform, refusal?, Shape.record, demand?]
      by_cases hlength : fields.length = type.shape.arity
      · rw [if_pos hlength, if_pos hlength]
        exact charges_onTable g type _
      · rw [if_neg hlength, if_neg hlength]
        rfl
  | resolve type handle => exact charges_onTable g type _
  | lookup type handle => exact charges_onTable g type _
  | table type step => exact charges_onTable g type step
  | sameTable type =>
      exact (charges_requestAgain g type 2).trans (chargesFor_of_request g type).symm
  | sameTableTogether type threads =>
      refine (charges_requestAgain g type threads).trans ?_
      rw [demand?]
      split
      · rfl
      · exact (chargesFor_of_request g type).symm
  | inventory =>
      simp only [perform, refusal?, act]
      rcases g.inventory with fault | ⟨v, after, events⟩
      · rfl
      · rfl
  | config => rfl
  | tableCount => rfl
  | shapes => rfl

end Session.RegistryStep

end Interner
