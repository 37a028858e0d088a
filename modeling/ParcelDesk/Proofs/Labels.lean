import Mathlib.Data.List.DropRight
import ParcelDesk.Order.Basic

/-!
How labels are read. Trimming twice is trimming once, and a word that has no letter k is found by
lower case as well as by folding. So the label of a status is read in any case, with any blanks
around it.
-/

namespace ParcelDesk

namespace Text

/-- What is left of a text that starts with no blank still starts with none. -/
theorem trimStart_trimEnd {cs : List Char} (h : trimStart cs = cs) :
    trimStart (trimEnd cs) = trimEnd cs := by
  have hfront : trimEnd cs <+: cs := List.rdropWhile_prefix isBlank cs
  rw [trimStart, List.dropWhile_eq_self_iff] at h ⊢
  intro hpos
  rw [hfront.getElem hpos]
  exact h (Nat.lt_of_lt_of_le hpos hfront.length_le)

theorem trimmed_trimmed (cs : List Char) : trimmed (trimmed cs) = trimmed cs := by
  have hstart : trimStart (trimStart cs) = trimStart cs := List.dropWhile_idempotent isBlank _
  have hend : trimEnd (trimmed cs) = trimmed cs := List.rdropWhile_idempotent isBlank _
  calc trimmed (trimmed cs) = trimEnd (trimmed cs) := by
        rw [trimmed, trimmed, trimStart_trimEnd hstart]
    _ = trimmed cs := hend

theorem trim_trim (s : String) : trim (trim s) = trim s := by
  rw [trim, trim, String.toList_ofList, trimmed_trimmed]

/-- Outside ASCII, folding differs from lower case at the Kelvin sign only, so it makes no
difference to a word without that letter. -/
theorem map_foldChar_iff {cs word : List Char} (hletter : 'k' ∉ word) (hsign : '\u212A' ∉ word) :
    cs.map foldChar = word ↔ cs.map Char.toLower = word := by
  have hsame (h : ∀ c ∈ cs, c ≠ '\u212A') : cs.map foldChar = cs.map Char.toLower :=
    List.map_congr_left fun c hc => if_neg (by simpa using h c hc)
  constructor
  · intro h
    rw [← hsame, h]
    rintro c hc rfl
    exact hletter (h ▸ List.mem_map_of_mem hc)
  · intro h
    rw [hsame, h]
    rintro c hc rfl
    exact hsign (h ▸ List.mem_map_of_mem hc)

end Text

namespace OrderStatus

def word (status : OrderStatus) : List Char := status.label.toList.map Char.toLower

theorem ofLabel?_word (label : String) (status : OrderStatus) :
    ofLabel? label = some status ↔
      (Text.trim label).toList.map Text.foldChar = status.word := by
  have hword : (Text.trim label).toList.map Text.foldChar = status.word ↔
      Text.fold (Text.trim label) = String.ofList status.word := by
    rw [Text.fold, String.ofList_inj]
  rw [hword, ofLabel?]
  constructor
  · intro h
    split at h
    case h_4 => simp at h
    all_goals
      rename_i hfold
      obtain rfl := Option.some.inj h
      exact hfold
  · intro h
    rw [h]
    cases status <;> rfl

/-- A label is read as the status whose label it is, in any case and with any blanks around it. -/
theorem ofLabel?_eq_some_iff (label : String) (status : OrderStatus) :
    ofLabel? label = some status ↔
      Text.sameIgnoringAsciiCase (Text.trim label) status.label = true := by
  rw [ofLabel?_word, Text.sameIgnoringAsciiCase, beq_iff_eq]
  apply Text.map_foldChar_iff <;> cases status <;> decide

end OrderStatus

end ParcelDesk
