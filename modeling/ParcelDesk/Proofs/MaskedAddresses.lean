import Mathlib.Data.List.Infix
import ParcelDesk.Database.Pool
import ParcelDesk.Proofs.Utf8
import ParcelDesk.Text.Basic

/-!
Addresses with their credentials hidden. What stands between the first mark of a scheme and the
last at sign after it leaves no trace, and an address without these two is shown as it is. In the
bytes of an address both are found only where characters begin, so that the address may be cut by
its bytes.
-/

namespace ParcelDesk.Database

open Text (afterLast_append exists_last splitLast?_append)
open Text.Utf8

def schemeMark : List Char := [':', '/', '/']

theorem encode_schemeMark : encode schemeMark = [0x3A, 0x2F, 0x2F] := by decide

/-! ### The first mark -/

theorem scheme?_cons {c : Char} {cs : List Char} (h : ¬ schemeMark <+: c :: cs) :
    scheme? (c :: cs) = (scheme? cs).map (c :: ·) := by
  rw [scheme?]
  rintro rest rfl rfl
  exact h (List.prefix_append schemeMark rest)

theorem scheme?_eq_none {cs : List Char} (h : ¬ schemeMark <:+: cs) : scheme? cs = none := by
  induction cs with
  | nil => rfl
  | cons c cs ih =>
    rw [List.infix_cons_iff, not_or] at h
    rw [scheme?_cons h.1, ih h.2, Option.map_none]

/-- No mark begins inside of another one, so none begins before the end of a text without marks. -/
theorem not_prefix_of_unmarked {c : Char} {lead : List Char} (h : ¬ schemeMark <:+: c :: lead)
    (rest : List Char) : ¬ schemeMark <+: c :: (lead ++ schemeMark ++ rest) := by
  intro hprefix
  match lead with
  | [] => simp [schemeMark] at hprefix
  | [_] => simp [schemeMark] at hprefix
  | d :: e :: lead =>
    apply h
    apply List.IsPrefix.isInfix
    simpa [schemeMark] using hprefix

theorem scheme?_append {lead : List Char} (h : ¬ schemeMark <:+: lead) (rest : List Char) :
    scheme? (lead ++ schemeMark ++ rest) = some (lead ++ schemeMark) := by
  induction lead with
  | nil => rfl
  | cons c lead ih =>
    have hstart := not_prefix_of_unmarked h rest
    rw [List.infix_cons_iff, not_or] at h
    rw [List.cons_append, List.cons_append, scheme?_cons hstart, ih h.2]
    rfl

theorem exists_first_mark {cs : List Char} (h : schemeMark <:+: cs) :
    ∃ lead rest, cs = lead ++ schemeMark ++ rest ∧ ¬ schemeMark <:+: lead := by
  induction cs with
  | nil => exact absurd (List.infix_nil.mp h) (List.cons_ne_nil _ _)
  | cons c cs ih =>
    by_cases hstart : schemeMark <+: c :: cs
    · obtain ⟨rest, hrest⟩ := hstart
      exact ⟨[], rest, hrest.symm, fun hnil => List.cons_ne_nil _ _ (List.infix_nil.mp hnil)⟩
    · obtain ⟨lead, rest, rfl, hfirst⟩ := ih ((List.infix_cons_iff.mp h).resolve_left hstart)
      refine ⟨c :: lead, rest, rfl, fun hmem => ?_⟩
      rcases List.infix_cons_iff.mp hmem with hprefix | hinfix
      · apply hstart
        rw [List.append_assoc]
        exact hprefix.trans (List.prefix_append (c :: lead) _)
      · exact hfirst hinfix

/-- The first mark stands before every other one. -/
theorem prefix_of_first_mark {lead rest pre post : List Char} (h : ¬ schemeMark <:+: lead)
    (heq : lead ++ schemeMark ++ rest = pre ++ schemeMark ++ post) : lead <+: pre := by
  have hmark : schemeMark <:+: pre ++ schemeMark := (List.suffix_append pre schemeMark).isInfix
  obtain ⟨first, between, hfirst, hunmarked⟩ := exists_first_mark hmark
  have hsame : lead ++ schemeMark = first ++ schemeMark := by
    have hscheme := scheme?_append h rest
    rw [heq, hfirst, List.append_assoc, scheme?_append hunmarked] at hscheme
    exact (Option.some.inj hscheme).symm
  rw [← hsame] at hfirst
  have hlength := congrArg List.length hfirst
  have hprefix : lead <+: pre ++ schemeMark :=
    ⟨schemeMark ++ between, by rw [hfirst, List.append_assoc]⟩
  refine List.prefix_of_prefix_length_le hprefix (List.prefix_append pre schemeMark) ?_
  simp only [List.length_append] at hlength
  omega

/-! ### What is hidden -/

/-- An address with credentials: they stand after the first mark and before the last at sign. -/
structure Credentials (cs lead secret host : List Char) : Prop where
  eq : cs = lead ++ schemeMark ++ (secret ++ '@' :: host)
  unmarked : ¬ schemeMark <:+: lead
  last : '@' ∉ host

theorem Credentials.eq_append {cs lead secret host : List Char}
    (h : Credentials cs lead secret host) :
    cs = lead ++ schemeMark ++ secret ++ '@' :: host := by
  simp only [h.eq, List.append_assoc]

theorem Credentials.masked_eq {cs lead secret host : List Char}
    (h : Credentials cs lead secret host) :
    masked cs = lead ++ schemeMark ++ ("****".toList ++ '@' :: host) := by
  have hscheme : scheme? cs = some (lead ++ schemeMark) := h.eq ▸ scheme?_append h.unmarked _
  have hdrop : cs.drop (lead ++ schemeMark).length = secret ++ '@' :: host := by
    rw [h.eq, List.drop_left]
  have hmem : (secret ++ '@' :: host).contains '@' = true := by simp
  have hhost : Database.host cs = '@' :: host := by
    rw [Database.host, h.eq_append, afterLast_append h.last]
  unfold masked
  rw [hscheme]
  simp only [hdrop, hmem, hhost, ↓reduceIte, List.append_assoc]

theorem masked_eq_self {cs : List Char}
    (h : ∀ lead secret host, ¬ Credentials cs lead secret host) :
    masked cs = cs := by
  by_cases hmark : schemeMark <:+: cs
  · obtain ⟨lead, rest, hcs, hunmarked⟩ := exists_first_mark hmark
    have hmem : '@' ∉ rest := by
      intro hmem
      obtain ⟨secret, host, hrest, hlast⟩ := exists_last hmem
      exact h lead secret host ⟨by rw [hcs, hrest], hunmarked, hlast⟩
    have hscheme : scheme? cs = some (lead ++ schemeMark) := hcs ▸ scheme?_append hunmarked rest
    have hdrop : cs.drop (lead ++ schemeMark).length = rest := by rw [hcs, List.drop_left]
    unfold masked
    rw [hscheme]
    simp only [hdrop, List.contains_iff_mem, hmem, ↓reduceIte]
  · unfold masked
    rw [scheme?_eq_none hmark]

theorem masked_of_notMem {cs : List Char} (h : '@' ∉ cs) : masked cs = cs := by
  apply masked_eq_self
  rintro lead secret host ⟨rfl, -, -⟩
  exact h (by simp)

theorem masked_of_unmarked {before after : List Char} (hlast : '@' ∉ after)
    (hunmarked : ¬ schemeMark <:+: before) :
    masked (before ++ '@' :: after) = before ++ '@' :: after := by
  apply masked_eq_self
  intro lead secret host h
  have hsplit : some (before, after) = some (lead ++ schemeMark ++ secret, host) := by
    rw [← splitLast?_append '@' before after hlast, h.eq_append,
      splitLast?_append '@' _ host h.last]
  obtain ⟨rfl, rfl⟩ := Prod.mk.inj (Option.some.inj hsplit)
  apply hunmarked
  exact ⟨lead, secret, rfl⟩

/-- What is shown has the same parts, with the stars for its credentials. -/
theorem masked_masked (cs : List Char) : masked (masked cs) = masked cs := by
  by_cases h : ∃ lead secret host, Credentials cs lead secret host
  · obtain ⟨lead, secret, host, h⟩ := h
    have hshown : Credentials (masked cs) lead "****".toList host :=
      ⟨h.masked_eq, h.unmarked, h.last⟩
    rw [hshown.masked_eq, h.masked_eq]
  · push Not at h
    rw [masked_eq_self h, masked_eq_self h]

/-! ### Cutting by bytes -/

/-- Where the bytes of an address are cut: at the first mark, and at the last at sign, which stands
after it. -/
structure Cuts (bs : List UInt8) (i j : Nat) : Prop where
  mark : encode schemeMark <+: bs.drop i
  first : ∀ k < i, ¬ encode schemeMark <+: bs.drop k
  atSign : bs[j]? = some '@'.toNat.toUInt8
  last : ∀ k, j < k → bs[k]? ≠ some '@'.toNat.toUInt8
  lt : i < j

/-- The bytes of a mark are a mark. -/
theorem exists_of_encode_mark {cs : List Char} {i : Nat}
    (h : encode schemeMark <+: (encode cs).drop i) :
    ∃ pre post, cs = pre ++ schemeMark ++ post ∧ (encode pre).length = i := by
  have hcolon : (encode cs)[i]? = some ':'.toNat.toUInt8 := by
    obtain ⟨rest, hrest⟩ := h
    rw [← Nat.add_zero i, ← List.getElem?_drop, ← hrest, encode_schemeMark]
    rfl
  obtain ⟨pre, post, rfl, rfl⟩ := exists_of_ascii (by decide) hcolon
  rw [drop_encode] at h
  obtain ⟨rest, hrest⟩ := prefix_of_encode_prefix h
  exact ⟨pre, rest, by rw [← hrest, List.append_assoc], rfl⟩

/-- An at sign stands before the mark or after it, but not inside of it. -/
theorem of_at_sign {lead rest pre post : List Char}
    (h : lead ++ schemeMark ++ rest = pre ++ '@' :: post) :
    pre <+: lead ∨ ∃ secret, pre = lead ++ schemeMark ++ secret ∧ rest = secret ++ '@' :: post := by
  rcases List.append_eq_append_iff.mp h with ⟨secret, hpre, hrest⟩ | ⟨between, hlead, hpost⟩
  · exact Or.inr ⟨secret, hpre, hrest⟩
  rcases List.cons_eq_append_iff.mp hpost with ⟨rfl, hrest⟩ | ⟨after, rfl, -⟩
  · rw [List.append_nil] at hlead
    exact Or.inr ⟨[], by rw [hlead, List.append_nil], hrest⟩
  rcases List.append_eq_append_iff.mp hlead with ⟨front, -, hmark⟩ | ⟨front, hlead, -⟩
  · have hmem : '@' ∈ schemeMark := hmark ▸ by simp
    exact absurd hmem (by decide)
  · exact Or.inl ⟨front, hlead.symm⟩

theorem Cuts.exists_credentials {cs : List Char} {i j : Nat} (h : Cuts (encode cs) i j) :
    ∃ lead secret host, Credentials cs lead secret host ∧ (encode lead).length = i ∧
      (encode (lead ++ schemeMark ++ secret)).length = j := by
  obtain ⟨lead, rest, hcs, rfl⟩ := exists_of_encode_mark h.mark
  obtain ⟨before, host, hlast, rfl⟩ := exists_of_ascii (by decide) h.atSign
  have hunmarked : ¬ schemeMark <:+: lead := by
    rintro ⟨pre, post, rfl⟩
    apply h.first (encode pre).length
    · simp only [encode_append, encode_schemeMark, List.length_append, List.length_cons]
      omega
    · rw [hcs, List.append_assoc, List.append_assoc, List.append_assoc, drop_encode, encode_append]
      exact List.prefix_append _ _
  have hhost : '@' ∉ host := by
    intro hmem
    obtain ⟨pre, post, rfl⟩ := List.append_of_mem hmem
    apply h.last (encode (before ++ '@' :: pre)).length
    · rw [encode_append, encode_cons, encodeChar_of_ascii (by decide)]
      simp only [List.length_append, List.length_cons]
      omega
    · rw [hlast, ← List.cons_append, ← List.append_assoc, getElem?_encode (by decide)]
  rcases of_at_sign (hcs.symm.trans hlast) with hprefix | ⟨secret, rfl, rfl⟩
  · exact absurd h.lt (Nat.not_lt.mpr (length_encode_le hprefix))
  · exact ⟨lead, secret, host, ⟨hcs, hunmarked, hhost⟩, rfl, rfl⟩

theorem Credentials.cuts {cs lead secret host : List Char} (h : Credentials cs lead secret host) :
    Cuts (encode cs) (encode lead).length (encode (lead ++ schemeMark ++ secret)).length := by
  constructor
  case mark =>
    rw [h.eq, List.append_assoc, drop_encode, encode_append]
    exact List.prefix_append _ _
  case first =>
    intro k hk hmark
    obtain ⟨pre, post, hpre, rfl⟩ := exists_of_encode_mark hmark
    have hprefix : lead <+: pre := prefix_of_first_mark h.unmarked (h.eq.symm.trans hpre)
    exact absurd hk (Nat.not_lt.mpr (length_encode_le hprefix))
  case atSign =>
    rw [h.eq_append]
    exact getElem?_encode (by decide) _ host
  case last =>
    intro k hk hat
    obtain ⟨pre, post, hpre, rfl⟩ := exists_of_ascii (by decide) hat
    rcases List.append_eq_append_iff.mp (h.eq_append.symm.trans hpre) with
      ⟨between, rfl, hbetween⟩ | ⟨between, hbetween, -⟩
    · rcases List.cons_eq_append_iff.mp hbetween with ⟨rfl, -⟩ | ⟨after, -, hafter⟩
      · rw [List.append_nil] at hk
        exact lt_irrefl _ hk
      · exact h.last (hafter ▸ by simp)
    · have hprefix : pre <+: lead ++ schemeMark ++ secret := ⟨between, hbetween.symm⟩
      exact absurd hk (Nat.not_lt.mpr (length_encode_le hprefix))
  case lt =>
    simp only [encode_append, encode_schemeMark, List.length_append, List.length_cons]
    omega

/-- What is shown of an address is cut from its bytes, between whole characters. -/
theorem Cuts.encode_masked {cs : List Char} {i j : Nat} (h : Cuts (encode cs) i j) :
    IsBoundary cs (i + 3) ∧ IsBoundary cs j ∧
      encode (masked cs) =
        (encode cs).take (i + 3) ++ encode "****".toList ++ (encode cs).drop j := by
  obtain ⟨lead, secret, host, hparts, rfl, rfl⟩ := h.exists_credentials
  have hlength : (encode (lead ++ schemeMark)).length = (encode lead).length + 3 := by
    rw [encode_append, encode_schemeMark, List.length_append]
    rfl
  have htake : (encode cs).take ((encode lead).length + 3) = encode (lead ++ schemeMark) := by
    rw [← hlength, hparts.eq, take_encode]
  have hdrop : (encode cs).drop (encode (lead ++ schemeMark ++ secret)).length =
      encode ('@' :: host) := by
    rw [hparts.eq_append, drop_encode]
  refine ⟨⟨_, _, hparts.eq, hlength⟩, ⟨_, _, hparts.eq_append, rfl⟩, ?_⟩
  rw [htake, hdrop, hparts.masked_eq, ← List.append_assoc, encode_append, encode_append]

theorem masked_eq_self_of_uncut {cs : List Char} (h : ∀ i j, ¬ Cuts (encode cs) i j) :
    masked cs = cs := by
  apply masked_eq_self
  intro lead secret host hparts
  exact h _ _ hparts.cuts

/-! ### Addresses as texts -/

theorem toList_mask (url : String) : (mask url).toList = masked url.toList := String.toList_ofList

def FollowsLastAt (rest host : String) : Prop :=
  '@' ∉ host.toList ∧ (rest = host ∨ ∃ before, rest = before ++ "@" ++ host)

theorem exists_followsLastAt (rest : String) : ∃ host, FollowsLastAt rest host := by
  by_cases hmem : '@' ∈ rest.toList
  · obtain ⟨pre, post, hsplit, hlast⟩ := exists_last hmem
    refine ⟨String.ofList post, by simpa using hlast, Or.inr ⟨String.ofList pre, ?_⟩⟩
    apply String.toList_injective
    simp [hsplit]
  · exact ⟨rest, hmem, Or.inl rfl⟩

theorem mask_credentials {lead rest host : String} (hlead : ¬ schemeMark <:+: lead.toList)
    (hhost : FollowsLastAt rest host) (secret : String) :
    mask (lead ++ "://" ++ secret ++ "@" ++ rest) = lead ++ "://****@" ++ host := by
  obtain ⟨hlast, hrest⟩ := hhost
  have hparts : ∃ hidden, Credentials (lead ++ "://" ++ secret ++ "@" ++ rest).toList lead.toList
      hidden host.toList := by
    rcases hrest with rfl | ⟨before, rfl⟩
    · refine ⟨secret.toList, ?_, hlead, hlast⟩
      simp [schemeMark]
    · refine ⟨secret.toList ++ '@' :: before.toList, ?_, hlead, hlast⟩
      simp [schemeMark]
  obtain ⟨hidden, hparts⟩ := hparts
  apply String.toList_injective
  rw [toList_mask, hparts.masked_eq]
  simp [schemeMark]

theorem mask_eq_self {url : String} (h : masked url.toList = url.toList) : mask url = url := by
  rw [mask, h, String.ofList_toList]

/-- The texts between a scheme and the last at sign cannot be told apart in what is shown. All other
addresses are shown as they are, what is shown is not changed by hiding again, and the bytes of an
address are cut between whole characters. -/
theorem shown_addresses_hide_credentials :
    (∀ lead rest : String, ¬ schemeMark <:+: lead.toList →
      (∀ secret₁ secret₂, mask (lead ++ "://" ++ secret₁ ++ "@" ++ rest) =
        mask (lead ++ "://" ++ secret₂ ++ "@" ++ rest)) ∧
      ∃ host, FollowsLastAt rest host ∧ ∀ secret,
        mask (lead ++ "://" ++ secret ++ "@" ++ rest) = lead ++ "://****@" ++ host) ∧
    (∀ url : String, '@' ∉ url.toList → mask url = url) ∧
    (∀ before after : String, '@' ∉ after.toList → ¬ schemeMark <:+: before.toList →
      mask (before ++ "@" ++ after) = before ++ "@" ++ after) ∧
    (∀ url, mask (mask url) = mask url) ∧
    ∀ url : String,
      (∀ i j, Cuts (bytes url) i j → IsBoundary url.toList (i + 3) ∧ IsBoundary url.toList j ∧
        bytes (mask url) = (bytes url).take (i + 3) ++ bytes "****" ++ (bytes url).drop j) ∧
      ((∀ i j, ¬ Cuts (bytes url) i j) → mask url = url) := by
  refine ⟨?hidden, ?noAtSign, ?noMark, ?again, ?cut⟩
  case hidden =>
    intro lead rest hlead
    obtain ⟨host, hhost⟩ := exists_followsLastAt rest
    have hmask := mask_credentials hlead hhost
    exact ⟨fun secret₁ secret₂ => (hmask secret₁).trans (hmask secret₂).symm, host, hhost, hmask⟩
  case noAtSign =>
    intro url hmem
    exact mask_eq_self (masked_of_notMem hmem)
  case noMark =>
    intro before after hlast hunmarked
    apply mask_eq_self
    simpa using masked_of_unmarked hlast hunmarked
  case again =>
    intro url
    apply mask_eq_self
    rw [toList_mask, masked_masked]
  case cut =>
    intro url
    constructor
    · intro i j hcuts
      have h := hcuts.encode_masked
      rwa [← toList_mask] at h
    · intro huncut
      exact mask_eq_self (masked_eq_self_of_uncut huncut)

/-- A password with an at sign, a mark and a character of two bytes in it. -/
theorem marks_in_passwords_are_hidden :
    (¬ schemeMark <:+: "mysql".toList ∧
      mask ("mysql" ++ "://" ++ "root:p@ss://wörd" ++ "@" ++ "db:3306") =
        mask ("mysql" ++ "://" ++ "guest" ++ "@" ++ "db:3306")) ∧
    ('@' ∉ "mysql://localhost".toList ∧ mask "mysql://localhost" = "mysql://localhost") ∧
    ('@' ∉ "db://orders".toList ∧ ¬ schemeMark <:+: "root".toList ∧
      mask ("root" ++ "@" ++ "db://orders") = "root" ++ "@" ++ "db://orders") ∧
    (Cuts (bytes "mysql://ö@db") 5 10 ∧
      bytes (mask "mysql://ö@db") =
        (bytes "mysql://ö@db").take 8 ++ bytes "****" ++ (bytes "mysql://ö@db").drop 10) ∧
    (∀ i j, ¬ Cuts (bytes "mysql") i j) ∧ mask "mysql" = "mysql" := by
  obtain ⟨hidden, noAtSign, noMark, -, cut⟩ := shown_addresses_hide_credentials
  have hscheme : ¬ schemeMark <:+: "mysql".toList := by decide
  have hlocal : '@' ∉ "mysql://localhost".toList := by decide
  have hafter : '@' ∉ "db://orders".toList := by decide
  have hbefore : ¬ schemeMark <:+: "root".toList := by decide
  have hparts : Credentials "mysql://ö@db".toList "mysql".toList "ö".toList "db".toList :=
    ⟨by decide, hscheme, by decide⟩
  have huncut (i j : Nat) : ¬ Cuts (bytes "mysql") i j := by
    intro h
    obtain ⟨pre, post, hsplit, -⟩ := exists_of_ascii (by decide) h.atSign
    have hmem : '@' ∈ "mysql".toList := hsplit ▸ by simp
    exact absurd hmem (by decide)
  exact ⟨⟨hscheme, (hidden "mysql" "db:3306" hscheme).1 _ _⟩, ⟨hlocal, noAtSign _ hlocal⟩,
    ⟨hafter, hbefore, noMark _ _ hafter hbefore⟩,
    ⟨hparts.cuts, ((cut "mysql://ö@db").1 5 10 hparts.cuts).2.2⟩,
    huncut, (cut "mysql").2 huncut⟩

end ParcelDesk.Database
