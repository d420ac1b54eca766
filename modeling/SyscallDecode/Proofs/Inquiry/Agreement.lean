/-
One inquiry in two worlds: it cannot tell them apart when they answer alike what it asks.
-/
import SyscallDecode.Inquiry.Course

namespace SyscallDecode

/-- An inquiry has one result in two worlds that answer alike what it asks in the first, and it
asks no more in the second. -/
theorem Inquiry.run_congr {w w' : World} {α : Type} (p : Inquiry α)
    (h : ∀ q ∈ p.asked w, w.answer q = w'.answer q) :
    p.run w = p.run w' ∧ p.asked w = p.asked w' := by
  induction p with
  | done result => exact ⟨rfl, rfl⟩
  | ask q => exact ⟨h q (List.mem_singleton.2 rfl), rfl⟩
  | andThen first next ihFirst ihNext =>
    simp only [asked, List.mem_append] at h
    obtain ⟨hr, ha⟩ := ihFirst fun q hq => h q (.inl hq)
    obtain ⟨hr', ha'⟩ := ihNext (first.run w) fun q hq => h q (.inr hq)
    -- the second part is the same inquiry in both worlds, since the first ends alike
    simp only [run, asked, ← hr]
    exact ⟨hr', by rw [ha, ha']⟩

theorem Course.on_congr {w w' : World} {ε α : Type} (c : Course ε α)
    (h : ∀ q ∈ c.asked w, w.answer q = w'.answer q) :
    c.on w = c.on w' ∧ c.asked w = c.asked w' :=
  Inquiry.run_congr c h

end SyscallDecode
