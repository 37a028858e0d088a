import Mathlib.Algebra.Group.Nat.Defs
import ParcelDesk.Proofs.Retries

/-!
How long a client rests between the tries of a command. Every rest is twice the one before it, up
to five seconds; but the first rest is the configured one, however long that is. So the rests are
cut at five seconds throughout exactly if the configured one is no longer than that, and only the
first doubling can go past 64 bits.
-/

namespace ParcelDesk.Cache

/-- The rest after a try of a command, the first try being number 0. -/
def Patience.wait (p : Patience) (i : Nat) : UInt64 := doubled^[i] p.rest

theorem toNat_doubled (ms : UInt64) : (doubled ms).toNat = min 5000 (ms.toNat * 2 % 2 ^ 64) := by
  have hproduct : (ms * 2).toNat = ms.toNat * 2 % 2 ^ 64 := UInt64.toNat_mul ms 2
  have hlongest : longestRest.toNat = 5000 := rfl
  have hdoubled : doubled ms = if ms * 2 ≤ longestRest then ms * 2 else longestRest := rfl
  rw [hdoubled, ← hproduct, ← hlongest]
  by_cases h : ms * 2 ≤ longestRest
  · rw [if_pos h]
    exact (Nat.min_eq_right (UInt64.le_iff_toNat_le.mp h)).symm
  · rw [if_neg h]
    have hlonger := Nat.lt_of_not_le fun hle => h (UInt64.le_iff_toNat_le.mpr hle)
    exact (Nat.min_eq_left (Nat.le_of_lt hlonger)).symm

/-- Up to five seconds, a doubling stays far from 64 bits. -/
theorem toNat_iterate_doubled {ms : UInt64} (h : ms.toNat ≤ 5000) (i : Nat) :
    (doubled^[i] ms).toNat = min 5000 (ms.toNat * 2 ^ i) := by
  induction i with
  | zero =>
    rw [Nat.pow_zero, Nat.mul_one]
    exact (Nat.min_eq_right h).symm
  | succ i ih =>
    have hpower : ms.toNat * 2 ^ (i + 1) = ms.toNat * 2 ^ i * 2 := by
      rw [Nat.pow_succ, Nat.mul_assoc]
    rw [Function.iterate_succ_apply', toNat_doubled, ih, hpower]
    omega

theorem min_mul_min (cap n : Nat) {factor : Nat} (h : 0 < factor) :
    min cap (min cap n * factor) = min cap (n * factor) := by
  by_cases hn : n ≤ cap
  · rw [Nat.min_eq_right hn]
  · have hcap : cap ≤ cap * factor := Nat.le_mul_of_pos_right cap h
    have hproduct : cap * factor ≤ n * factor := Nat.mul_le_mul_right factor (by omega)
    rw [Nat.min_eq_left (by omega : cap ≤ n), Nat.min_eq_left hcap,
      Nat.min_eq_left (Nat.le_trans hcap hproduct)]

/-- From the second rest on, the rests are those for twice the configured one. -/
theorem Patience.toNat_wait_succ (p : Patience) (i : Nat) :
    (p.wait (i + 1)).toNat = min 5000 (p.rest.toNat * 2 % 2 ^ 64 * 2 ^ i) := by
  have hcut : (doubled p.rest).toNat ≤ 5000 := by
    rw [toNat_doubled]
    exact Nat.min_le_left _ _
  rw [wait, Function.iterate_succ_apply, toNat_iterate_doubled hcut, toNat_doubled]
  exact min_mul_min 5000 _ (Nat.two_pow_pos i)

/-- How a command is tried again. There is a rest after every try but the last, and with nothing but
passing failures the budget is used up. The first rest is the configured one, and each later one is
twice the one before, up to five seconds; only the first doubling can need more than 64 bits, and
then loses those above. So all rests are the doubled ones cut at five seconds, or at most five
seconds, exactly if the configured one is no longer than that. -/
theorem rests_are_cut_but_the_first (p : Patience) :
    (∀ (l : Line) {α : Type} (command : List String) (read : Reply → Except Fault α),
      ∃ n m, LastTry (max 1 p.tries) l read n ∧
        (p.ask command read).run Line.serve l = (l.outcome read n, m) ∧
        m.log = l.log ++ ((List.range n).flatMap
          (fun i => [.sent command, .rested (p.wait i)]) ++ [.sent command]) ∧
        ((∀ i, ∃ e, l.outcome read i = .error e ∧ e.isTransient = true) →
          n + 1 = max 1 p.tries)) ∧
    p.wait 0 = p.rest ∧
    (∀ i, (p.wait (i + 1)).toNat = min 5000 (p.rest.toNat * 2 % 2 ^ 64 * 2 ^ i)) ∧
    (∀ i, (p.wait i).toNat * 2 < 2 ^ 64 ↔ (i = 0 → p.rest.toNat < 2 ^ 63)) ∧
    ((∀ i, (p.wait i).toNat = min 5000 (p.rest.toNat * 2 ^ i)) ↔ p.rest.toNat ≤ 5000) ∧
    ((∀ i, (p.wait i).toNat ≤ 5000) ↔ p.rest.toNat ≤ 5000) := by
  refine ⟨?tried, rfl, p.toNat_wait_succ, ?fits, ?cut, ?bounded⟩
  case tried =>
    intro l α command read
    obtain ⟨n, hlast, hrun⟩ := asks_ask p command read l
    refine ⟨n, _, hlast, hrun, rfl, fun hpassing => ?_⟩
    obtain ⟨e, he, htransient⟩ := hpassing n
    exact hlast.spent he htransient
  case fits =>
    intro i
    cases i with
    | zero =>
      show p.rest.toNat * 2 < 2 ^ 64 ↔ _
      omega
    | succ i =>
      have hwait := p.toNat_wait_succ i
      constructor
      · intro _ hzero
        cases hzero
      · intro _
        omega
  case cut =>
    constructor
    · intro h
      have hfirst : p.rest.toNat = min 5000 (p.rest.toNat * 2 ^ 0) := h 0
      omega
    · intro h i
      exact toNat_iterate_doubled h i
  case bounded =>
    constructor
    · intro h
      exact h 0
    · intro h i
      rw [Patience.wait, toNat_iterate_doubled h]
      exact Nat.min_le_left _ _

def stillLoading : Line where
  replies _ := .error (.refused ⟨"LOADING", none⟩)

/-- A client that is told to rest for one millisecond more than five seconds does so once. -/
theorem first_rest_may_be_longer :
    (((⟨3, 5001⟩ : Patience).ask ["GET", "k"] Reply.asText?).run Line.serve stillLoading).2.log =
      [.sent ["GET", "k"], .rested 5001, .sent ["GET", "k"], .rested 5000, .sent ["GET", "k"]] ∧
    ¬ (∀ i, ((⟨3, 5001⟩ : Patience).wait i).toNat = min 5000 (5001 * 2 ^ i)) ∧
    ¬ ((⟨2, 0x8000000000000000⟩ : Patience).wait 0).toNat * 2 < 2 ^ 64 := by
  obtain ⟨htries, -, -, -, hcut, -⟩ := rests_are_cut_but_the_first ⟨3, 5001⟩
  obtain ⟨-, -, -, hfits, -⟩ := rests_are_cut_but_the_first ⟨2, 0x8000000000000000⟩
  obtain ⟨n, m, -, hrun, hlog, hall⟩ := htries stillLoading ["GET", "k"] Reply.asText?
  have hspent : n = 2 := by
    have hmost : n + 1 = max 1 3 := hall fun i => ⟨_, rfl, rfl⟩
    omega
  refine ⟨?_, fun h => absurd (hcut.mp h) (by decide), fun h => ?_⟩
  · rw [hrun, hlog, hspent]
    decide
  · exact absurd ((hfits 0).mp h rfl) (by decide)

end ParcelDesk.Cache
