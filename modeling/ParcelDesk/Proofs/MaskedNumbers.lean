import ParcelDesk.Order.Draft
import ParcelDesk.Proofs.Utf8
import ParcelDesk.Text.Basic

/-!
Phone numbers with their middle hidden. A number of seven characters or more is shown by its first
three and its last four, a shorter one not at all, and nothing else can be told from what is shown.
All its characters are single bytes, so that it may be cut by its bytes. But three and four are
seven: a number of just that length is shown as a whole, and it is the only one.
-/

namespace ParcelDesk.Phone

open Text (takeWhile_ne_append)
open Text.Utf8

/-! ### The characters of a number -/

theorem keeps_of_mem_normalize {s : String} {c : Char} (h : c ∈ normalize s) : keeps c = true :=
  (List.mem_filter.mp h).2

theorem toNat_lt_of_mem_normalize {s : String} {c : Char} (h : c ∈ normalize s) :
    c.toNat < 0x80 := by
  have hkeeps := keeps_of_mem_normalize h
  rw [keeps, Bool.or_eq_true, decide_eq_true_eq] at hkeeps
  rcases hkeeps with hdigit | rfl
  · have hupper : c.toNat ≤ '9'.toNat := (Char.isDigit_iff_toNat.mp hdigit).2
    exact Nat.lt_of_le_of_lt hupper (by decide)
  · decide

theorem star_notMem_normalize (s : String) : '*' ∉ normalize s := by
  intro h
  exact absurd (keeps_of_mem_normalize h) (by decide)

theorem length_encode_normalize (s : String) :
    (encode (normalize s)).length = (normalize s).length :=
  length_encode_of_ascii fun _ => toNat_lt_of_mem_normalize

/-- The bytes of a number can be cut anywhere, and the parts are those of its characters. -/
theorem cut_normalize {s : String} {i : Nat} (h : i ≤ (normalize s).length) :
    IsBoundary (normalize s) i ∧ (encode (normalize s)).take i = encode ((normalize s).take i) ∧
      (encode (normalize s)).drop i = encode ((normalize s).drop i) := by
  have hsplit := List.take_append_drop i (normalize s)
  have hlength : (encode ((normalize s).take i)).length = i := by
    rw [length_encode_of_ascii fun c hc => toNat_lt_of_mem_normalize (List.mem_of_mem_take hc),
      List.length_take, Nat.min_eq_left h]
  have htake := take_encode ((normalize s).take i) ((normalize s).drop i)
  have hdrop := drop_encode ((normalize s).take i) ((normalize s).drop i)
  rw [hsplit, hlength] at htake hdrop
  exact ⟨⟨_, _, hsplit.symm, hlength⟩, htake, hdrop⟩

/-! ### What is shown -/

def ends (cs : List Char) : List Char × List Char :=
  if 7 ≤ cs.length then (cs.take 3, cs.drop (cs.length - 4)) else ([], [])

theorem toList_mask (s : String) : (mask s).toList =
    (ends (normalize s)).1 ++ "****".toList ++ (ends (normalize s)).2 := by
  unfold mask ends
  by_cases hlong : 7 ≤ (normalize s).length
  · rw [if_pos hlong, if_pos hlong, String.toList_ofList]
  · rw [if_neg hlong, if_neg hlong, List.nil_append, List.append_nil]

/-- A number and what is shown for it, taken apart: stars stand for the part that is hidden. -/
structure Masked (number shown lead hidden tail : List Char) : Prop where
  number_eq : number = lead ++ hidden ++ tail
  shown_eq : shown = lead ++ "****".toList ++ tail
  lead_le : lead.length ≤ 3
  tail_le : tail.length ≤ 4

theorem masked_mask (s : String) : ∃ hidden,
    Masked (normalize s) (mask s).toList (ends (normalize s)).1 hidden (ends (normalize s)).2 ∧
      hidden.length = (normalize s).length - (if 7 ≤ (normalize s).length then 7 else 0) := by
  have hshown := toList_mask s
  generalize normalize s = cs at hshown ⊢
  unfold ends at hshown ⊢
  split
  · rename_i hlong
    rw [if_pos hlong] at hshown
    refine ⟨(cs.drop 3).take (cs.length - 7), ⟨?_, hshown, ?_, ?_⟩, ?_⟩
    · have hrest : cs.drop (cs.length - 4) = (cs.drop 3).drop (cs.length - 7) := by
        rw [List.drop_drop]
        congr 1
        omega
      rw [hrest, List.append_assoc, List.take_append_drop, List.take_append_drop]
    · exact List.length_take_le 3 cs
    · rw [List.length_drop]
      omega
    · rw [List.length_take, List.length_drop]
      omega
  · rename_i hshort
    rw [if_neg hshort] at hshown
    exact ⟨cs, ⟨(List.append_nil cs).symm, hshown, Nat.zero_le _, Nat.zero_le _⟩, rfl⟩

/-- No number has stars, so what is shown before and after them can be told. -/
theorem eq_of_shown {lead tail lead' tail' : List Char} (h : '*' ∉ lead) (h' : '*' ∉ lead')
    (heq : lead ++ "****".toList ++ tail = lead' ++ "****".toList ++ tail') :
    lead = lead' ∧ tail = tail' := by
  rw [List.append_assoc, List.append_assoc] at heq
  have hlead : lead = lead' := by
    rw [← takeWhile_ne_append h ("***".toList ++ tail)]
    rw [← takeWhile_ne_append h' ("***".toList ++ tail')]
    exact congrArg (List.takeWhile _) heq
  rw [hlead] at heq
  exact ⟨hlead, List.append_cancel_left (List.append_cancel_left heq)⟩

theorem Masked.star_notMem {s : String} {shown lead hidden tail : List Char}
    (h : Masked (normalize s) shown lead hidden tail) : '*' ∉ lead := by
  intro hmem
  apply star_notMem_normalize s
  rw [h.number_eq]
  exact List.mem_append_left _ (List.mem_append_left _ hmem)

/-- There is one way to take a number apart. -/
theorem Masked.unique {s : String} {shown lead hidden tail lead' hidden' tail' : List Char}
    (h : Masked (normalize s) shown lead hidden tail)
    (h' : Masked (normalize s) shown lead' hidden' tail') : hidden = hidden' := by
  obtain ⟨rfl, rfl⟩ :=
    eq_of_shown h.star_notMem h'.star_notMem (h.shown_eq.symm.trans h'.shown_eq)
  have heq := h.number_eq.symm.trans h'.number_eq
  exact List.append_cancel_left (List.append_cancel_right heq)

theorem star_notMem_ends (s : String) : '*' ∉ (ends (normalize s)).1 := by
  obtain ⟨hidden, h, -⟩ := masked_mask s
  exact h.star_notMem

theorem mask_eq_mask_iff (s t : String) :
    mask s = mask t ↔ ends (normalize s) = ends (normalize t) := by
  rw [← String.toList_inj, toList_mask, toList_mask]
  constructor
  · intro h
    have hends := eq_of_shown (star_notMem_ends s) (star_notMem_ends t) h
    exact Prod.ext hends.1 hends.2
  · intro h
    rw [h]

/-- What is shown of a number is cut from its bytes, between whole characters: three of them in front
and four at the end, or none of a number that has less than seven. Stars stand for all that lies
between, which leaves no other trace; and something does, unless the number is empty or has seven
characters exactly. -/
theorem seven_are_shown_whole (s : String) :
    (7 ≤ (encode (normalize s)).length →
      IsBoundary (normalize s) 3 ∧
      IsBoundary (normalize s) ((encode (normalize s)).length - 4) ∧
      bytes (mask s) = (encode (normalize s)).take 3 ++ bytes "****" ++
        (encode (normalize s)).drop ((encode (normalize s)).length - 4)) ∧
    ((encode (normalize s)).length < 7 → mask s = "****") ∧
    (∃ lead hidden tail, Masked (normalize s) (mask s).toList lead hidden tail) ∧
    (∀ lead hidden tail, Masked (normalize s) (mask s).toList lead hidden tail →
      (hidden = [] ↔ normalize s = [] ∨ (normalize s).length = 7)) ∧
    (∀ t, mask s = mask t ↔ ends (normalize s) = ends (normalize t)) := by
  obtain ⟨middle, hmasked, hmiddle⟩ := masked_mask s
  rw [length_encode_normalize]
  refine ⟨?cut, ?short, ⟨_, _, _, hmasked⟩, ?hidden, mask_eq_mask_iff s⟩
  case cut =>
    intro hlong
    obtain ⟨hfront, htake, -⟩ := cut_normalize (s := s) (i := 3) (by omega)
    obtain ⟨hback, -, hdrop⟩ := cut_normalize (s := s) (i := (normalize s).length - 4) (by omega)
    have hends : ends (normalize s) =
        ((normalize s).take 3, (normalize s).drop ((normalize s).length - 4)) := if_pos hlong
    refine ⟨hfront, hback, ?_⟩
    rw [htake, hdrop, bytes, toList_mask, hends, encode_append, encode_append]
    rfl
  case short =>
    intro hshort
    unfold mask
    exact if_neg (Nat.not_le.mpr hshort)
  case hidden =>
    intro lead hidden tail h
    rw [h.unique hmasked, ← List.length_eq_zero_iff, hmiddle, ← List.length_eq_zero_iff]
    split <;> omega

/-- Of a number of eleven digits four are hidden, of one of four characters all of them, and of one
of seven digits none. -/
theorem seven_digits_are_shown :
    (7 ≤ (encode (normalize "01712345678")).length ∧
      bytes (mask "01712345678") = (encode (normalize "01712345678")).take 3 ++ bytes "****" ++
        (encode (normalize "01712345678")).drop
          ((encode (normalize "01712345678")).length - 4)) ∧
    ((encode (normalize "+123")).length < 7 ∧ mask "+123" = "****") ∧
    (Masked (normalize "01712345678") (mask "01712345678").toList "017".toList "1234".toList
        "5678".toList ∧
      ¬ (normalize "01712345678" = [] ∨ (normalize "01712345678").length = 7)) ∧
    Masked (normalize "123-4567") (mask "123-4567").toList "123".toList [] "4567".toList ∧
      (normalize "123-4567" = [] ∨ (normalize "123-4567").length = 7) := by
  obtain ⟨hcut, -, -, heleven, -⟩ := seven_are_shown_whole "01712345678"
  obtain ⟨-, hshort, -⟩ := seven_are_shown_whole "+123"
  obtain ⟨-, -, -, hseven, -⟩ := seven_are_shown_whole "123-4567"
  have hlong : 7 ≤ (encode (normalize "01712345678")).length := by decide
  have hfour : (encode (normalize "+123")).length < 7 := by decide
  have hparts : Masked (normalize "01712345678") (mask "01712345678").toList "017".toList
      "1234".toList "5678".toList := ⟨by decide, by decide, by decide, by decide⟩
  have hwhole : Masked (normalize "123-4567") (mask "123-4567").toList "123".toList []
      "4567".toList := ⟨by decide, by decide, by decide, by decide⟩
  refine ⟨⟨hlong, (hcut hlong).2.2⟩, ⟨hfour, hshort hfour⟩, ⟨hparts, fun h => ?_⟩, hwhole,
    (hseven _ _ _ hwhole).mp rfl⟩
  exact absurd ((heleven _ _ _ hparts).mpr h) (by decide)

end ParcelDesk.Phone
