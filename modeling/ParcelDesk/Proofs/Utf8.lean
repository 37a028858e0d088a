import Mathlib.Data.Char
import ParcelDesk.Text.Bytes

/-!
UTF-8 reads back what it writes: the bytes of a text are read as its characters, with no broken
part between them. One lemma for each length of a character says what the reader makes of its
bytes; that the shortest form is used and that surrogates are no characters keeps the second byte
within its bounds.
-/

namespace ParcelDesk.Text.Utf8

theorem toNat_toUInt8 {n : Nat} (h : n < 256) : n.toUInt8.toNat = n := by
  rw [Nat.toUInt8_eq, UInt8.toNat_ofNat']
  exact Nat.mod_eq_of_lt h

theorem isTail_iff (b : UInt8) : isTail b = true ↔ 0x80 ≤ b.toNat ∧ b.toNat < 0xC0 := by
  simp [isTail, UInt8.le_iff_toNat_le, UInt8.lt_iff_toNat_lt]

theorem next_one {lead : UInt8} (h : lead.toNat < 0x80) (rest : List UInt8) :
    next lead rest = (some (Char.ofNat lead.toNat), 1) := by
  have hl : lead < 0x80 := UInt8.lt_iff_toNat_lt.mpr h
  unfold next
  rw [if_pos hl]

theorem next_two {lead b : UInt8} (h1 : 0xC2 ≤ lead.toNat) (h2 : lead.toNat < 0xE0)
    (hb : isTail b = true) (rest : List UInt8) :
    next lead (b :: rest) = (some (Char.ofNat (lead.toNat % 32 * 64 + tailBits b)), 2) := by
  have n80 : ¬ lead < 0x80 := fun h => by have := UInt8.lt_iff_toNat_lt.mp h; simp at this; omega
  have nC2 : ¬ lead < 0xC2 := fun h => by have := UInt8.lt_iff_toNat_lt.mp h; simp at this; omega
  have hE0 : lead < 0xE0 := UInt8.lt_iff_toNat_lt.mpr h2
  simp only [next, n80, nC2, hE0, hb, ↓reduceIte]

theorem next_three {lead b c : UInt8} (h1 : 0xE0 ≤ lead.toNat) (h2 : lead.toNat < 0xF0)
    (hb : secondFits lead b = true) (hc : isTail c = true) (rest : List UInt8) :
    next lead (b :: c :: rest) =
      (some (Char.ofNat (lead.toNat % 16 * 4096 + tailBits b * 64 + tailBits c)), 3) := by
  have n80 : ¬ lead < 0x80 := fun h => by have := UInt8.lt_iff_toNat_lt.mp h; simp at this; omega
  have nC2 : ¬ lead < 0xC2 := fun h => by have := UInt8.lt_iff_toNat_lt.mp h; simp at this; omega
  have nE0 : ¬ lead < 0xE0 := fun h => by have := UInt8.lt_iff_toNat_lt.mp h; simp at this; omega
  have hF0 : lead < 0xF0 := UInt8.lt_iff_toNat_lt.mpr h2
  have hF5 : lead < 0xF5 := UInt8.lt_iff_toNat_lt.mpr (by simp; omega)
  simp [next, n80, nC2, nE0, hF0, hF5, hb, hc]

theorem next_four {lead b c d : UInt8} (h1 : 0xF0 ≤ lead.toNat) (h2 : lead.toNat < 0xF5)
    (hb : secondFits lead b = true) (hc : isTail c = true) (hd : isTail d = true)
    (rest : List UInt8) :
    next lead (b :: c :: d :: rest) =
      (some (Char.ofNat (lead.toNat % 8 * 262144 + tailBits b * 4096 + tailBits c * 64 +
        tailBits d)), 4) := by
  have n80 : ¬ lead < 0x80 := fun h => by have := UInt8.lt_iff_toNat_lt.mp h; simp at this; omega
  have nC2 : ¬ lead < 0xC2 := fun h => by have := UInt8.lt_iff_toNat_lt.mp h; simp at this; omega
  have nE0 : ¬ lead < 0xE0 := fun h => by have := UInt8.lt_iff_toNat_lt.mp h; simp at this; omega
  have nF0 : ¬ lead < 0xF0 := fun h => by have := UInt8.lt_iff_toNat_lt.mp h; simp at this; omega
  have hF5 : lead < 0xF5 := UInt8.lt_iff_toNat_lt.mpr h2
  simp [next, n80, nC2, nE0, nF0, hF5, hb, hc, hd]

/-- The second byte of a character of three or four bytes is within the bounds of its leading
byte, since no character is a surrogate, needs fewer bytes or lies past U+10FFFF. -/
theorem secondFits_iff (lead b : UInt8) :
    secondFits lead b = true ↔ isTail b = true ∧
      (lead.toNat = 0xE0 → 0xA0 ≤ b.toNat) ∧ (lead.toNat = 0xED → b.toNat < 0xA0) ∧
      (lead.toNat = 0xF0 → 0x90 ≤ b.toNat) ∧ (lead.toNat = 0xF4 → b.toNat < 0x90) := by
  have h (m : UInt8) : lead = m ↔ lead.toNat = m.toNat := UInt8.toNat_inj.symm
  simp only [secondFits, Bool.and_eq_true, beq_iff_eq, h, UInt8.reduceToNat]
  refine and_congr_right fun _ => ?_
  split
  · simp_all [UInt8.le_iff_toNat_le]
  split
  · simp_all [UInt8.lt_iff_toNat_lt]
  split
  · simp_all [UInt8.le_iff_toNat_le]
  split
  · simp_all [UInt8.lt_iff_toNat_lt]
  · simp_all

/-- No character has the code of a surrogate. -/
theorem char_bounds (c : Char) : c.toNat < 0xD800 ∨ 0xE000 ≤ c.toNat ∧ c.toNat < 0x110000 := by
  have h := c.valid
  simp only [UInt32.isValidChar, Nat.isValidChar] at h
  change c.val.toNat < 0xD800 ∨ 0xE000 ≤ c.val.toNat ∧ c.val.toNat < 0x110000
  omega

theorem symbolsFrom_cons (b : UInt8) (rest : List UInt8) :
    symbolsFrom 0 (b :: rest) = (next b rest).1 :: symbolsFrom ((next b rest).2 - 1) rest := rfl

theorem symbolsFrom_encodeChar (c : Char) (rest : List UInt8) :
    symbolsFrom 0 (encodeChar c ++ rest) = some c :: symbolsFrom 0 rest := by
  have hc := char_bounds c
  have hback : Char.ofNat c.toNat = c := Char.ofNat_toNat c
  generalize hn : c.toNat = n at hc hback
  unfold encodeChar
  simp only [hn]
  split
  · have h := toNat_toUInt8 (n := n) (by omega)
    simp only [List.cons_append, List.nil_append]
    rw [symbolsFrom_cons, next_one (by omega), h, hback]
    rfl
  split
  · have h1 := toNat_toUInt8 (n := 0xC0 + n / 64) (by omega)
    have h2 := toNat_toUInt8 (n := 0x80 + n % 64) (by omega)
    simp only [List.cons_append, List.nil_append]
    rw [symbolsFrom_cons, next_two (by omega) (by omega) ((isTail_iff _).mpr (by omega)),
      tailBits, h1, h2]
    rw [show (0xC0 + n / 64) % 32 * 64 + (0x80 + n % 64) % 64 = n by omega, hback]
    rfl
  split
  · have h1 := toNat_toUInt8 (n := 0xE0 + n / 4096) (by omega)
    have h2 := toNat_toUInt8 (n := 0x80 + n / 64 % 64) (by omega)
    have h3 := toNat_toUInt8 (n := 0x80 + n % 64) (by omega)
    have hfits : secondFits (0xE0 + n / 4096).toUInt8 (0x80 + n / 64 % 64).toUInt8 = true := by
      rw [secondFits_iff, isTail_iff, h1, h2]
      omega
    simp only [List.cons_append, List.nil_append]
    rw [symbolsFrom_cons, next_three (by omega) (by omega) hfits ((isTail_iff _).mpr (by omega)),
      tailBits, tailBits, h1, h2, h3]
    rw [show (0xE0 + n / 4096) % 16 * 4096 + (0x80 + n / 64 % 64) % 64 * 64 +
      (0x80 + n % 64) % 64 = n by omega, hback]
    rfl
  · have h1 := toNat_toUInt8 (n := 0xF0 + n / 262144) (by omega)
    have h2 := toNat_toUInt8 (n := 0x80 + n / 4096 % 64) (by omega)
    have h3 := toNat_toUInt8 (n := 0x80 + n / 64 % 64) (by omega)
    have h4 := toNat_toUInt8 (n := 0x80 + n % 64) (by omega)
    have hfits : secondFits (0xF0 + n / 262144).toUInt8 (0x80 + n / 4096 % 64).toUInt8 = true := by
      rw [secondFits_iff, isTail_iff, h1, h2]
      omega
    simp only [List.cons_append, List.nil_append]
    rw [symbolsFrom_cons, next_four (by omega) (by omega) hfits ((isTail_iff _).mpr (by omega))
      ((isTail_iff _).mpr (by omega)), tailBits, tailBits, tailBits, h1, h2, h3, h4]
    rw [show (0xF0 + n / 262144) % 8 * 262144 + (0x80 + n / 4096 % 64) % 64 * 4096 +
      (0x80 + n / 64 % 64) % 64 * 64 + (0x80 + n % 64) % 64 = n by omega, hback]
    rfl

theorem encode_cons (c : Char) (cs : List Char) : encode (c :: cs) = encodeChar c ++ encode cs :=
  List.flatMap_cons

theorem encode_append (cs ds : List Char) : encode (cs ++ ds) = encode cs ++ encode ds :=
  List.flatMap_append

theorem take_encode (cs ds : List Char) :
    (encode (cs ++ ds)).take (encode cs).length = encode cs := by
  rw [encode_append, List.take_left]

theorem drop_encode (cs ds : List Char) :
    (encode (cs ++ ds)).drop (encode cs).length = encode ds := by
  rw [encode_append, List.drop_left]

theorem symbols_encode_append (cs : List Char) (bs : List UInt8) :
    symbols (encode cs ++ bs) = cs.map some ++ symbols bs := by
  induction cs with
  | nil => rfl
  | cons c cs ih =>
    rw [encode_cons, List.append_assoc]
    show symbolsFrom 0 (encodeChar c ++ (encode cs ++ bs)) = _
    rw [symbolsFrom_encodeChar]
    exact congrArg (some c :: ·) ih

theorem symbols_encode (cs : List Char) : symbols (encode cs) = cs.map some := by
  have h := symbols_encode_append cs []
  rw [List.append_nil] at h
  exact h.trans (List.append_nil _)

/-- Bytes that begin with those of a text are those of a text that begins with it. -/
theorem prefix_of_encode_prefix {cs ds : List Char} (h : encode cs <+: encode ds) : cs <+: ds := by
  obtain ⟨bs, hbs⟩ := h
  have hsymbols := congrArg symbols hbs
  rw [symbols_encode_append, symbols_encode] at hsymbols
  have hmapped : cs.map some <+: ds.map some := ⟨symbols bs, hsymbols⟩
  exact (List.prefix_map_iff_of_injective fun _ _ => Option.some.inj).mp hmapped

theorem encodeChar_of_ascii {c : Char} (h : c.toNat < 0x80) :
    encodeChar c = [c.toNat.toUInt8] := by
  unfold encodeChar
  exact if_pos h

theorem le_toUInt8 {n : Nat} (hlower : 0x80 ≤ n) (hupper : n < 256) : 0x80 ≤ n.toUInt8.toNat := by
  rw [toNat_toUInt8 hupper]
  exact hlower

/-- No byte of a longer character looks like a character of its own. -/
theorem le_of_mem_encodeChar {c : Char} (hc : 0x80 ≤ c.toNat) {b : UInt8}
    (hb : b ∈ encodeChar c) : 0x80 ≤ b.toNat := by
  have hbounds := char_bounds c
  unfold encodeChar at hb
  generalize c.toNat = n at hc hbounds hb
  simp only [Nat.not_lt.mpr hc, ↓reduceIte] at hb
  split at hb
  · simp only [List.mem_cons, List.not_mem_nil, or_false] at hb
    rcases hb with rfl | rfl <;> exact le_toUInt8 (by omega) (by omega)
  split at hb
  · simp only [List.mem_cons, List.not_mem_nil, or_false] at hb
    rcases hb with rfl | rfl | rfl <;> exact le_toUInt8 (by omega) (by omega)
  · simp only [List.mem_cons, List.not_mem_nil, or_false] at hb
    rcases hb with rfl | rfl | rfl | rfl <;> exact le_toUInt8 (by omega) (by omega)

theorem length_encode_le {cs ds : List Char} (h : cs <+: ds) :
    (encode cs).length ≤ (encode ds).length := by
  obtain ⟨rest, rfl⟩ := h
  rw [encode_append, List.length_append]
  exact Nat.le_add_right _ _

/-- In a text of ASCII characters, every character is one byte. -/
theorem length_encode_of_ascii {cs : List Char} (h : ∀ c ∈ cs, c.toNat < 0x80) :
    (encode cs).length = cs.length := by
  induction cs with
  | nil => rfl
  | cons c cs ih =>
    rw [List.forall_mem_cons] at h
    rw [encode_cons, encodeChar_of_ascii h.1, List.singleton_append, List.length_cons, ih h.2,
      List.length_cons]

theorem getElem?_encode {a : Char} (ha : a.toNat < 0x80) (pre post : List Char) :
    (encode (pre ++ a :: post))[(encode pre).length]? = some a.toNat.toUInt8 := by
  rw [encode_append, List.getElem?_append_right le_rfl, Nat.sub_self, encode_cons,
    encodeChar_of_ascii ha]
  rfl

/-- A place in the bytes of a text where a character begins, or the text ends. -/
def IsBoundary (cs : List Char) (i : Nat) : Prop :=
  ∃ pre post, cs = pre ++ post ∧ (encode pre).length = i

/-- A byte that looks like a character of its own is one. -/
theorem exists_of_ascii {a : Char} (ha : a.toNat < 0x80) {cs : List Char} {i : Nat}
    (h : (encode cs)[i]? = some a.toNat.toUInt8) :
    ∃ pre post, cs = pre ++ a :: post ∧ (encode pre).length = i := by
  induction cs generalizing i with
  | nil => cases h
  | cons c cs ih =>
    rw [encode_cons] at h
    by_cases hi : i < (encodeChar c).length
    · rw [List.getElem?_append_left hi] at h
      by_cases hc : c.toNat < 0x80
      · rw [encodeChar_of_ascii hc] at h hi
        obtain rfl : i = 0 := by simpa using hi
        have hbytes : c.toNat.toUInt8 = a.toNat.toUInt8 := by simpa using h
        have hcodes : c.toNat = a.toNat := by
          rw [← toNat_toUInt8 (n := c.toNat) (by omega), hbytes, toNat_toUInt8 (by omega)]
        rw [Char.toNat_inj.mp hcodes]
        exact ⟨[], cs, rfl, rfl⟩
      · have hlarge := le_of_mem_encodeChar (Nat.not_lt.mp hc) (List.mem_of_getElem? h)
        rw [toNat_toUInt8 (by omega)] at hlarge
        omega
    · rw [List.getElem?_append_right (Nat.not_lt.mp hi)] at h
      obtain ⟨pre, post, rfl, hlength⟩ := ih h
      refine ⟨c :: pre, post, rfl, ?_⟩
      rw [encode_cons, List.length_append, hlength]
      omega

end ParcelDesk.Text.Utf8
