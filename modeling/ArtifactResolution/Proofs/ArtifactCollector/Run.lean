import ArtifactResolution.ArtifactCollector
import ArtifactResolution.Proofs.Outcomes
import ArtifactResolution.Proofs.Visitor
import Mathlib.Data.List.Induction

namespace ArtifactResolution
set_option autoImplicit false

namespace ArtifactCollector
variable {c c' : ArtifactCollector} {callback : Callback}

theorem receive_of_accept (h : c.accept callback = .ok c') :
    Visitor.receive c callback = (c', .ok ()) := by
  rw [Visitor.receive, instVisitor]
  simp only [h]

theorem receive_of_refuse {e : CollectorError} (h : c.accept callback = .error e) :
    Visitor.receive c callback = (c, .error e) := by
  rw [Visitor.receive, instVisitor]
  simp only [h]

theorem run_induction {p : List Callback → ArtifactCollector → Prop} (hstart : p [] c)
    (hstep : ∀ done c₁ callback c₂, p done c₁ → c₁.accept callback = .ok c₂ →
      p (done ++ [callback]) c₂) (callbacks : List Callback) :
    p (Visitor.accepted c callbacks) (Visitor.run c callbacks).1 := by
  induction callbacks using List.reverseRecOn with
  | nil => exact hstart
  | append_singleton callbacks callback ih =>
    rw [Visitor.accepted_append, Visitor.accepted_singleton, Visitor.run_append]
    cases h : (Visitor.run c callbacks).1.accept callback with
    | ok c' =>
      simp only [Visitor.run, receive_of_accept h]
      exact hstep _ _ _ _ ih h
    | error e =>
      simp only [Visitor.run, receive_of_refuse h]
      simpa [Except.isOk, Except.toBool] using ih

end ArtifactCollector

end ArtifactResolution
