import OverlayControl.Privilege

/-!
# What tiers grant

Tiers are ordered by their codes, and a tier grants what lower tiers grant
(`Tier.within_of_atMost`). The capabilities that concern the overlay engine are those of the kernel
tier alone (`Connection.allows_iff_kernel`).
-/

namespace OverlayControl

namespace Tier

theorem atMost_iff {a b : Tier} : a.atMost b = true ↔ a.code ≤ b.code := decide_eq_true_iff

theorem code_lower (a b : Tier) : (a.lower b).code = min a.code b.code := by
  by_cases h : a.code ≤ b.code
  · rw [lower, if_pos (atMost_iff.2 h), Int.min_eq_left h]
  · rw [lower, if_neg (mt atMost_iff.1 h), Int.min_eq_right (Int.le_of_not_le h)]

/-- A number that is not negative and names no tier is above the codes of all tiers. -/
theorem code_lt_of_ofCode_eq_none {n : Int} (hn : 0 ≤ n) (h : ofCode n = none) (t : Tier) :
    t.code < n := by
  have hnamed : ∀ t : Tier, n ≠ t.code := by
    rintro t rfl
    simp at h
  have hshell : n ≠ 0 := hnamed .shell
  have hroot : n ≠ 1 := hnamed .root
  have hkernel : n ≠ 2 := hnamed .kernel
  cases t <;> simp only [code] <;> omega

/-- A tier grants everything that lower tiers grant. -/
theorem within_of_atMost {a b : Tier} (h : a.atMost b = true) :
    a.capabilities.within b.capabilities = true := by
  revert h
  cases a <;> cases b <;> decide

end Tier

/-- The capabilities that concern the overlay engine. -/
def Capability.ofEngine : List Capability := [overlayEngine, kernelDebug, sysfsCleanup]

/-- They are granted at the kernel tier and at no other one. -/
theorem Connection.allows_iff_kernel {needed : Capability} (h : needed ∈ Capability.ofEngine)
    (c : Connection) : c.allows needed = true ↔ c.tier = .kernel := by
  have htier (tier : Tier) : needed.within tier.capabilities = true ↔ tier = .kernel := by
    simp only [Capability.ofEngine, List.mem_cons, List.not_mem_nil, or_false] at h
    rcases h with rfl | rfl | rfl
    all_goals cases tier <;> decide
  exact htier c.tier

end OverlayControl
