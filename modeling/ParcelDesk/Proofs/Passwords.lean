import ParcelDesk.Account.Password
import ParcelDesk.Proofs.Base64
import ParcelDesk.Proofs.Decimals

/-!
A password fits the hash that was made of it. The hash is cut at its dollar signs, which occur
neither in the cost nor in base 64, and the salt and the digest are found again by their lengths.
No property of the cipher is used but the length of its output.
-/

namespace ParcelDesk

theorem Digest.Base64.length_encode (a : Alphabet) (bs : List UInt8) :
    (encode a bs).length = (bs.length * 4 + 2) / 3 := by
  induction bs using encode.induct with
  | case1 => rfl
  | case2 x => simp [encode]
  | case3 x y => simp [encode]
  | case4 x y z rest ih =>
    simp only [encode, List.length_cons, ih]
    omega

theorem Digest.Blowfish.length_digest (cost : Nat) (key salt : List UInt8) :
    (digest cost key salt).length = 24 := by
  simp [digest, wordBytes]

namespace Password

theorem dollar_notMem_encode (bytes : List UInt8) : '$' ∉ encode bytes := by
  intro h
  have hmem := Digest.Base64.mem_of_mem_encode Digest.Base64.proper_crypt bytes h
  revert hmem
  decide

theorem dollar_notMem_paddedDigits (width n : Nat) : '$' ∉ Decimal.paddedDigits width n := by
  intro h
  exact absurd (Decimal.isDigit_of_mem_paddedDigits h) (by decide)

/-- The costs that are allowed are read back. -/
theorem readNatural_paddedDigits : ∀ cost < 32, 4 ≤ cost →
    Decimal.readNatural 0xFFFFFFFF (Decimal.paddedDigits 2 cost) = .ok cost := by
  decide

theorem length_digest (password : String) (cost : Nat) (salt : List UInt8) :
    (digest password cost salt).length = 23 := by
  rw [digest, List.length_take, Digest.Blowfish.length_digest]
  rfl

/-- Between the dollar signs of a hash there are the variant, the cost and the rest. -/
theorem splitOn_hash (cost : Nat) {rest : List Char} (h : '$' ∉ rest) (hrest : rest ≠ []) :
    ((Text.splitOn '$' ("$2b$".toList ++ Decimal.paddedDigits 2 cost ++ '$' :: rest)).filter
      fun part => !part.isEmpty) = ["2b".toList, Decimal.paddedDigits 2 cost, rest] := by
  have hcost : Decimal.paddedDigits 2 cost ≠ [] := by
    simp [Decimal.paddedDigits, Decimal.naturalDigits_ne_nil]
  have hsplit : Text.splitOn '$' ("$2b$".toList ++ Decimal.paddedDigits 2 cost ++ '$' :: rest) =
      [[], "2b".toList, Decimal.paddedDigits 2 cost, rest] := by
    rw [List.append_assoc]
    change Text.splitOn '$' ([] ++ '$' :: ("2b".toList ++ '$' ::
      (Decimal.paddedDigits 2 cost ++ '$' :: rest))) = _
    rw [Text.splitOn_append, Text.splitOn_append, Text.splitOn_append,
      Text.splitOn_of_notMem (dollar_notMem_paddedDigits 2 cost), Text.splitOn_of_notMem h]
    rfl
  rw [hsplit]
  simp [hcost, hrest]

/-- The parts of a hash under a salt of sixteen bytes are found again. -/
theorem parts?_hash {password hash : String} {cost : Nat} {salt : List UInt8}
    (hsalt : salt.length = 16) (h : Password.hash password cost salt = .ok hash) :
    parts? hash = some ⟨cost, salt, digest password cost salt⟩ := by
  unfold Password.hash at h
  by_cases hcost : allowedCost cost = true
  · rw [if_pos hcost] at h
    obtain rfl := Except.ok.inj h
    have hbounds : 4 ≤ cost ∧ cost ≤ 31 := by simpa [allowedCost] using hcost
    have hread := readNatural_paddedDigits cost (by omega) hbounds.1
    have hsaltText : (encode salt).length = 22 := by
      rw [encode, Digest.Base64.length_encode, hsalt]
    have hdigestText : (encode (digest password cost salt)).length = 31 := by
      rw [encode, Digest.Base64.length_encode, length_digest]
    have hdollar : '$' ∉ encode salt ++ encode (digest password cost salt) := by
      rw [List.mem_append, not_or]
      exact ⟨dollar_notMem_encode _, dollar_notMem_encode _⟩
    have hlength : (encode salt ++ encode (digest password cost salt)).length = 53 := by
      rw [List.length_append, hsaltText, hdigestText]
    have hrest : encode salt ++ encode (digest password cost salt) ≠ [] :=
      List.ne_nil_of_length_pos (by omega)
    have hvariant : ["2a", "2b", "2x", "2y"].contains (String.ofList "2b".toList) = true := by
      decide
    have hback (bytes : List UInt8) :
        Digest.Base64.decode Digest.Base64.crypt (encode bytes) = some bytes :=
      Digest.Base64.decode_encode Digest.Base64.proper_crypt bytes
    unfold parts?
    rw [String.toList_ofList, splitOn_hash cost hdollar hrest]
    dsimp only
    rw [hvariant, hread, hlength, List.take_left' hsaltText, List.drop_left' hsaltText, hback salt,
      hback]
    simp [Except.toOption, hcost]
  · rw [if_neg hcost] at h
    cases h

/-- A password fits its own hash. -/
theorem verify_hash {password hash : String} {cost : Nat} {salt : List UInt8}
    (hsalt : salt.length = 16) (h : Password.hash password cost salt = .ok hash) :
    verify password hash = true := by
  simp only [verify, parts?_hash hsalt h, beq_self_eq_true]

end Password

end ParcelDesk
