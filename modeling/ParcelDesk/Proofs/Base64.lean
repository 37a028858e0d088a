import Mathlib.Data.List.Nodup
import ParcelDesk.Digest.Base64

/-!
Base 64 reads back what it writes. Any alphabet of sixty-four different symbols will do; the proof
follows the groups of three bytes that the writer takes. A text that is written or read holds
symbols of the alphabet only, so a dot never occurs in one.
-/

namespace ParcelDesk.Digest.Base64

structure Proper (a : Alphabet) : Prop where
  size : a.length = 64
  distinct : a.Nodup

theorem proper_url : Proper url where
  size := by decide
  distinct := by decide

theorem proper_crypt : Proper crypt where
  size := by decide
  distinct := by decide

theorem symbol_eq_getElem (a : Alphabet) {n : Nat} (hn : n < a.length) : symbol a n = a[n] := by
  rw [symbol, List.getD_eq_getElem?_getD, List.getElem?_eq_getElem hn]
  rfl

theorem value?_symbol {a : Alphabet} (ha : Proper a) {n : Nat} (hn : n < 64) :
    value? a (symbol a n) = some n := by
  have hlt : n < a.length := by rw [ha.size]; exact hn
  rw [value?, symbol_eq_getElem a hlt, List.findIdx?_eq_some_iff_getElem]
  refine ⟨hlt, by simp, ?_⟩
  intro j hj
  have hne : j ≠ n := by omega
  simpa [ha.distinct.getElem_inj_iff] using hne

theorem symbol_mem {a : Alphabet} (ha : Proper a) {n : Nat} (hn : n < 64) : symbol a n ∈ a := by
  have hlt : n < a.length := by rw [ha.size]; exact hn
  rw [symbol_eq_getElem a hlt]
  exact List.getElem_mem hlt

/-- A byte is put together again from the bits that went into different symbols. -/
private theorem byte_eq {x : UInt8} {n : Nat} (h : n = x.toNat) : UInt8.ofNat n = x := by
  subst n
  exact UInt8.ofNat_toNat

theorem decode_encode {a : Alphabet} (ha : Proper a) (bs : List UInt8) :
    decode a (encode a bs) = some bs := by
  induction bs using encode.induct with
  | case1 => rfl
  | case2 x =>
    have hx := x.toNat_lt
    rw [encode, decode, value?_symbol ha (by omega), value?_symbol ha (by omega)]
    have hb : UInt8.ofNat (x.toNat / 4 * 4 + x.toNat % 4 * 16 / 16) = x := byte_eq (by omega)
    have hzero : x.toNat % 4 * 16 % 16 = 0 := by omega
    simp only [Option.bind_eq_bind, Option.bind_some, hzero, ↓reduceIte, hb]
  | case3 x y =>
    have hx := x.toNat_lt
    have hy := y.toNat_lt
    simp only [encode, decode]
    rw [value?_symbol ha (by omega), value?_symbol ha (by omega), value?_symbol ha (by omega)]
    generalize hn : x.toNat * 256 + y.toNat = n
    have hb : UInt8.ofNat (n / 1024 * 4 + n / 16 % 64 / 16) = x := byte_eq (by omega)
    have hc : UInt8.ofNat (n / 16 % 64 % 16 * 16 + n % 16 * 4 / 4) = y := byte_eq (by omega)
    have hzero : n % 16 * 4 % 4 = 0 := by omega
    simp only [Option.bind_eq_bind, Option.bind_some, hzero, ↓reduceIte, hb, hc]
  | case4 x y z rest ih =>
    have hx := x.toNat_lt
    have hy := y.toNat_lt
    have hz := z.toNat_lt
    simp only [encode, decode]
    rw [value?_symbol ha (by omega), value?_symbol ha (by omega), value?_symbol ha (by omega),
      value?_symbol ha (by omega), ih]
    generalize hn : (x.toNat * 256 + y.toNat) * 256 + z.toNat = n
    have hb : UInt8.ofNat (n / 262144 * 4 + n / 4096 % 64 / 16) = x := byte_eq (by omega)
    have hc : UInt8.ofNat (n / 4096 % 64 % 16 * 16 + n / 64 % 64 / 4) = y := byte_eq (by omega)
    have hd : UInt8.ofNat (n / 64 % 64 % 4 * 64 + n % 64) = z := byte_eq (by omega)
    simp only [Option.bind_eq_bind, Option.bind_some, hb, hc, hd]

theorem mem_of_mem_encode {a : Alphabet} (ha : Proper a) (bs : List UInt8) {c : Char}
    (hc : c ∈ encode a bs) : c ∈ a := by
  induction bs using encode.induct with
  | case1 => simp [encode] at hc
  | case2 x =>
    have hx := x.toNat_lt
    simp only [encode, List.mem_cons, List.not_mem_nil, or_false] at hc
    rcases hc with rfl | rfl <;> exact symbol_mem ha (by omega)
  | case3 x y =>
    have hx := x.toNat_lt
    have hy := y.toNat_lt
    simp only [encode, List.mem_cons, List.not_mem_nil, or_false] at hc
    rcases hc with rfl | rfl | rfl <;> exact symbol_mem ha (by omega)
  | case4 x y z rest ih =>
    have hx := x.toNat_lt
    have hy := y.toNat_lt
    have hz := z.toNat_lt
    simp only [encode, List.mem_cons] at hc
    rcases hc with rfl | rfl | rfl | rfl | hc
    · exact symbol_mem ha (by omega)
    · exact symbol_mem ha (by omega)
    · exact symbol_mem ha (by omega)
    · exact symbol_mem ha (by omega)
    · exact ih hc

theorem mem_of_value? {a : Alphabet} {c : Char} {n : Nat} (h : value? a c = some n) : c ∈ a := by
  obtain ⟨hn, hsame, -⟩ := List.findIdx?_eq_some_iff_getElem.mp h
  have heq : a[n] = c := by simpa using hsame
  exact heq ▸ List.getElem_mem hn

/-- A text that is read holds symbols of the alphabet only. -/
theorem mem_of_mem_decode {a : Alphabet} {cs : List Char} {bs : List UInt8}
    (h : decode a cs = some bs) {c : Char} (hc : c ∈ cs) : c ∈ a := by
  induction cs using decode.induct generalizing bs with
  | case1 => simp at hc
  | case2 p => simp [decode] at h
  | case3 p q =>
    simp only [decode, Option.bind_eq_bind, Option.bind_eq_some_iff] at h
    obtain ⟨i, hi, j, hj, -⟩ := h
    simp only [List.mem_cons, List.not_mem_nil, or_false] at hc
    rcases hc with rfl | rfl
    · exact mem_of_value? hi
    · exact mem_of_value? hj
  | case4 p q r =>
    simp only [decode, Option.bind_eq_bind, Option.bind_eq_some_iff] at h
    obtain ⟨i, hi, j, hj, k, hk, -⟩ := h
    simp only [List.mem_cons, List.not_mem_nil, or_false] at hc
    rcases hc with rfl | rfl | rfl
    · exact mem_of_value? hi
    · exact mem_of_value? hj
    · exact mem_of_value? hk
  | case5 p q r s rest ih =>
    simp only [decode, Option.bind_eq_bind, Option.bind_eq_some_iff] at h
    obtain ⟨i, hi, j, hj, k, hk, l, hl, more, hmore, -⟩ := h
    simp only [List.mem_cons] at hc
    rcases hc with rfl | rfl | rfl | rfl | hc
    · exact mem_of_value? hi
    · exact mem_of_value? hj
    · exact mem_of_value? hk
    · exact mem_of_value? hl
    · exact ih hmore hc

theorem dot_notMem_url : '.' ∉ url := by decide

theorem dot_notMem_encode (bs : List UInt8) : '.' ∉ encode url bs := fun h =>
  dot_notMem_url (mem_of_mem_encode proper_url bs h)

theorem dot_notMem_of_decode {cs : List Char} {bs : List UInt8} (h : decode url cs = some bs) :
    '.' ∉ cs := fun hc =>
  dot_notMem_url (mem_of_mem_decode h hc)

end ParcelDesk.Digest.Base64
