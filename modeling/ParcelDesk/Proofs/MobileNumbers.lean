import ParcelDesk.Order.Draft

/-!
Which texts count as mobile numbers. Spaces and dashes may stand anywhere in a number, and the
country code before it. But whatever else is no digit and no plus sign is passed over as well, so a
text with a stray letter counts exactly if it is a number without the letter. Only such strays make
a difference between what is accepted and what is written like a number.
-/

namespace ParcelDesk.Phone

/-- A number within the country: 01, a digit from 3 to 9 and eight more digits. -/
def IsDomestic (cs : List Char) : Prop :=
  ∃ operator rest, cs = '0' :: '1' :: operator :: rest ∧ ('3' ≤ operator ∧ operator ≤ '9') ∧
    rest.length = 8 ∧ ∀ c ∈ rest, c.isDigit = true

def IsNumber (cs : List Char) : Prop :=
  IsDomestic cs ∨ ∃ rest, cs = '+' :: '8' :: '8' :: rest ∧ IsDomestic rest

def isSeparator (c : Char) : Bool := c = ' ' || c = '-'

def unseparated (s : String) : List Char := s.toList.filter fun c => !isSeparator c

/-- The character neither belongs to a number nor separates its parts. -/
def IsStray (c : Char) : Prop := keeps c = false ∧ isSeparator c = false

theorem isSeparator_of_keeps {c : Char} (h : keeps c = true) : isSeparator c = false := by
  apply Bool.eq_false_iff.mpr
  intro hsep
  rw [isSeparator, Bool.or_eq_true, decide_eq_true_eq, decide_eq_true_eq] at hsep
  rcases hsep with rfl | rfl
  · exact absurd h (by decide)
  · exact absurd h (by decide)

/-- The test of the digits behind the country code is the form of a domestic number. -/
theorem isMobile_iff_isDomestic (s : String) :
    isMobile s = true ↔ IsDomestic (domestic (normalize s)) := by
  unfold isMobile
  split
  · rename_i operator rest hcs
    rw [hcs]
    simp only [Bool.and_eq_true, decide_eq_true_eq, List.all_eq_true]
    constructor
    · intro h
      exact ⟨operator, rest, rfl, h.1.1, h.1.2, h.2⟩
    · intro h
      rcases h with ⟨_, _, heq, hoperator, hlength, hdigits⟩
      cases heq
      exact ⟨⟨hoperator, hlength⟩, hdigits⟩
  · rename_i hother
    constructor
    · intro h
      cases h
    · intro h
      rcases h with ⟨operator, rest, heq, -⟩
      exact absurd heq (hother operator rest)

/-- A domestic number starts with a zero, so it holds no country code to be taken off. -/
theorem isDomestic_domestic_iff (cs : List Char) : IsDomestic (domestic cs) ↔ IsNumber cs := by
  unfold domestic
  split
  · rename_i rest
    constructor
    · intro h
      exact .inr ⟨rest, rfl, h⟩
    · intro h
      rcases h with ⟨_, _, heq, -⟩ | ⟨_, heq, hrest⟩
      · cases heq
      · cases heq
        exact hrest
  · rename_i hplain
    constructor
    · intro h
      exact .inl h
    · intro h
      rcases h with hdomestic | ⟨rest, heq, -⟩
      · exact hdomestic
      · exact absurd heq (hplain rest)

theorem isMobile_iff_isNumber (s : String) : isMobile s = true ↔ IsNumber (normalize s) :=
  (isMobile_iff_isDomestic s).trans (isDomestic_domestic_iff _)

theorem keeps_of_isDigit {c : Char} (h : c.isDigit = true) : keeps c = true := by
  rw [keeps, h, Bool.true_or]

theorem isDigit_of_operator {c : Char} (h : '3' ≤ c ∧ c ≤ '9') : c.isDigit = true := by
  have hlower : '3'.val ≤ c.val := h.1
  have hupper : c.val ≤ '9'.val := h.2
  simp only [Char.isDigit, ge_iff_le, Bool.and_eq_true, decide_eq_true_eq]
  exact ⟨Nat.le_trans (by decide) hlower, hupper⟩

theorem IsDomestic.keeps {cs : List Char} (h : IsDomestic cs) : ∀ c ∈ cs, keeps c = true := by
  rcases h with ⟨operator, rest, rfl, hoperator, -, hdigits⟩
  intro c hc
  apply keeps_of_isDigit
  simp only [List.mem_cons] at hc
  rcases hc with rfl | rfl | rfl | hrest
  · decide
  · decide
  · exact isDigit_of_operator hoperator
  · exact hdigits c hrest

theorem IsNumber.keeps {cs : List Char} (h : IsNumber cs) : ∀ c ∈ cs, keeps c = true := by
  rcases h with hdomestic | ⟨rest, rfl, hrest⟩
  · exact hdomestic.keeps
  · intro c hc
    simp only [List.mem_cons] at hc
    rcases hc with rfl | rfl | rfl | hmem
    · decide
    · decide
    · decide
    · exact hrest.keeps c hmem

/-- Without strays, the separators are all that is left out of a text. -/
theorem normalize_eq_unseparated {s : String} (h : ∀ c ∈ s.toList, ¬ IsStray c) :
    normalize s = unseparated s := by
  apply List.filter_congr
  intro c hc
  by_cases hkeeps : keeps c = true
  · rw [hkeeps, isSeparator_of_keeps hkeeps]
    rfl
  · have hdropped : keeps c = false := Bool.eq_false_iff.mpr hkeeps
    cases hsep : isSeparator c with
    | true => exact hdropped
    | false => exact absurd ⟨hdropped, hsep⟩ (h c hc)

theorem not_isStray_of_isNumber {s : String} (h : IsNumber (unseparated s)) :
    ∀ c ∈ s.toList, ¬ IsStray c := by
  intro c hc hstray
  have hmem : c ∈ unseparated s := List.mem_filter.mpr ⟨hc, by rw [hstray.2]; rfl⟩
  have hkeeps := h.keeps c hmem
  rw [hstray.1] at hkeeps
  cases hkeeps

/-- A text is accepted exactly if its digits and plus signs make a number, whatever stands between
them. It is a number but for spaces and dashes exactly if it is accepted and has no strays. -/
theorem strays_are_passed_over (s : String) :
    (isMobile s = true ↔ IsNumber (s.toList.filter fun c => c.isDigit || c = '+')) ∧
    (IsNumber (unseparated s) ↔ isMobile s = true ∧ ∀ c ∈ s.toList, ¬ IsStray c) := by
  constructor
  · exact isMobile_iff_isNumber s
  · constructor
    · intro h
      have hclean := not_isStray_of_isNumber h
      rw [isMobile_iff_isNumber, normalize_eq_unseparated hclean]
      exact ⟨h, hclean⟩
    · intro h
      rw [← normalize_eq_unseparated h.2]
      exact (isMobile_iff_isNumber s).mp h.1

/-- A letter at the end of a number does no harm to it, and should. -/
theorem lettered_number_is_accepted :
    isMobile "01712345678a" = true ∧ ¬ IsNumber (unseparated "01712345678a") := by
  constructor
  · decide
  · intro h
    have hclean := ((strays_are_passed_over "01712345678a").2.mp h).2
    exact hclean 'a' (by decide) ⟨by decide, by decide⟩

end ParcelDesk.Phone
