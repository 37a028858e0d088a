import ParcelDesk.Decimal.Reading

/-!
What text that reads as a number is made of: digits, signs, a point and the letter of an exponent,
unless it is one of the words for what is not finite.
-/

namespace ParcelDesk.Decimal

def isNumeric (c : Char) : Bool :=
  c.isDigit || c == '+' || c == '-' || c == '.' || c == 'e' || c == 'E'

theorem isNumeric_of_isDigit {c : Char} (h : c.isDigit = true) : isNumeric c = true := by
  simp [isNumeric, h]

def isNumberWord (cs : List Char) : Bool :=
  ["inf", "infinity", "nan"].contains (String.ofList ((splitSign cs).2.map Char.toLower))

theorem all_isDigit_of_digitsFrom {bound n m : Nat} {overflow : IntegerFlaw} {cs : List Char}
    (h : digitsFrom bound overflow n cs = .ok m) : ∀ c ∈ cs, c.isDigit = true := by
  induction cs generalizing n with
  | nil => exact fun c hc => absurd hc List.not_mem_nil
  | cons d ds ih =>
    unfold digitsFrom at h
    by_cases hd : d.isDigit = true
    · simp only [hd, Bool.not_true, Bool.false_eq_true, ↓reduceIte] at h
      split at h
      · exact List.forall_mem_cons.mpr ⟨hd, ih h⟩
      · cases h
    · simp [hd] at h

theorem all_isDigit_of_natural {bound n : Nat} {cs : List Char} (h : natural bound cs = .ok n) :
    ∀ c ∈ cs, c.isDigit = true := by
  unfold natural at h
  split at h
  · cases h
  · exact all_isDigit_of_digitsFrom h

theorem all_isNumeric_cons {c : Char} {cs : List Char} (hc : isNumeric c = true)
    (h : ∀ d ∈ cs, d.isDigit = true) : ∀ d ∈ c :: cs, isNumeric d = true :=
  List.forall_mem_cons.mpr ⟨hc, fun d hd => isNumeric_of_isDigit (h d hd)⟩

theorem all_isNumeric_of_readInt64 {cs : List Char} {n : Int} (h : readInt64 cs = .ok n) :
    ∀ c ∈ cs, isNumeric c = true := by
  unfold readInt64 at h
  split at h
  · cases h
  · split at h
    · cases h
    · cases hdigits : digitsFrom 0x8000000000000000 .tooSmall 0 ‹_› with
      | error flaw =>
        rw [hdigits] at h
        cases h
      | ok m => exact all_isNumeric_cons (by decide) (all_isDigit_of_digitsFrom hdigits)
  · cases hnatural : readNatural 0x7FFFFFFFFFFFFFFF cs with
    | error flaw =>
      rw [hnatural] at h
      cases h
    | ok m =>
      unfold readNatural at hnatural
      split at hnatural
      · cases hnatural
      · exact all_isNumeric_cons (by decide) (all_isDigit_of_natural hnatural)
      · exact fun c hc => isNumeric_of_isDigit (all_isDigit_of_natural hnatural c hc)

/-- A sign counts among the characters of numbers. -/
theorem all_isNumeric_of_splitSign {cs : List Char}
    (h : ∀ c ∈ (splitSign cs).2, isNumeric c = true) : ∀ c ∈ cs, isNumeric c = true := by
  unfold splitSign at h
  split at h
  · exact List.forall_mem_cons.mpr ⟨by decide, h⟩
  · exact List.forall_mem_cons.mpr ⟨by decide, h⟩
  · exact h

theorem all_isNumeric_of_readExponent? {cs : List Char} {e : Int}
    (h : readExponent? cs = some e) : ∀ c ∈ cs, isNumeric c = true := by
  unfold readExponent? at h
  split at h
  · exact fun c hc => absurd hc List.not_mem_nil
  · rename_i letter more
    split at h
    · cases h
    · rename_i hletter
      dsimp only at h
      split at h
      · cases h
      · rename_i hdigits
        have hnumeric : isNumeric letter = true := by
          simp only [Bool.and_eq_true, decide_eq_true_eq, not_and, ne_eq] at hletter
          by_cases he : letter = 'e'
          · rw [he]
            decide
          · have hcapital : letter = 'E' := by simpa [he] using hletter
            rw [hcapital]
            decide
        refine List.forall_mem_cons.mpr ⟨hnumeric, all_isNumeric_of_splitSign fun c hc => ?_⟩
        have hall : (splitSign more).2.all Char.isDigit = true := by
          simp only [Bool.or_eq_true, not_or, Bool.not_eq_true, Bool.not_eq_false'] at hdigits
          simpa using hdigits.2
        exact isNumeric_of_isDigit (List.all_eq_true.mp hall c hc)

/-- So do leading digits. -/
theorem all_isNumeric_of_dropWhile {cs : List Char}
    (h : ∀ c ∈ cs.dropWhile Char.isDigit, isNumeric c = true) : ∀ c ∈ cs, isNumeric c = true := by
  intro c hc
  rw [← List.takeWhile_append_dropWhile (p := Char.isDigit) (l := cs)] at hc
  obtain hdigit | hrest := List.mem_append.mp hc
  · exact isNumeric_of_isDigit (List.all_eq_true.mp List.all_takeWhile c hdigit)
  · exact h c hrest

theorem all_isNumeric_of_readFinite? {negative : Bool} {cs : List Char} {x : Float}
    (h : readFinite? negative cs = some x) : ∀ c ∈ cs, isNumeric c = true := by
  refine all_isNumeric_of_dropWhile ?_
  unfold readFinite? at h
  dsimp only at h
  split at h
  · rename_i more hrest
    rw [hrest]
    split at h
    · cases h
    · obtain ⟨e, hexponent, -⟩ := Option.map_eq_some_iff.mp h
      exact List.forall_mem_cons.mpr
        ⟨by decide, all_isNumeric_of_dropWhile (all_isNumeric_of_readExponent? hexponent)⟩
  · split at h
    · cases h
    · obtain ⟨e, hexponent, -⟩ := Option.map_eq_some_iff.mp h
      exact all_isNumeric_of_readExponent? hexponent

theorem all_isNumeric_of_readReal? {cs : List Char} {x : Float} (h : readReal? cs = some x)
    (hword : isNumberWord cs = false) : ∀ c ∈ cs, isNumeric c = true := by
  refine all_isNumeric_of_splitSign ?_
  unfold isNumberWord at hword
  unfold readReal? at h
  dsimp only at h
  split at h
  · rename_i hinf
    simp [hinf] at hword
  · rename_i hinfinity
    simp [hinfinity] at hword
  · rename_i hnan
    simp [hnan] at hword
  · exact all_isNumeric_of_readFinite? h

end ParcelDesk.Decimal
