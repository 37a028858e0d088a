import Mathlib.Data.List.DropRight
import ParcelDesk.Proofs.SignedTokens
import ParcelDesk.Web.Request

/-!
Tokens in requests. A request bears a token if its first authorization header says so in plain
characters, and blanks around the token do not count. Signed tokens hold no blanks and nothing but
plain characters, so every token that is handed out can be borne as it is.
-/

namespace ParcelDesk

namespace Text

theorem trimStart_eq_nil_iff {cs : List Char} : trimStart cs = [] ↔ cs.all isBlank = true := by
  rw [trimStart, List.dropWhile_eq_nil_iff, List.all_eq_true]

theorem trimmed_eq_nil_iff {cs : List Char} : trimmed cs = [] ↔ cs.all isBlank = true := by
  constructor
  · intro h
    by_contra hsome
    -- the first character that is left is not blank, so trimming the end does not take it
    have hstart : trimStart cs ≠ [] := fun hnil => hsome (trimStart_eq_nil_iff.mp hnil)
    have hhead : isBlank ((trimStart cs).head hstart) = false :=
      List.head_dropWhile_not isBlank hstart
    rw [trimmed, trimEnd, List.reverse_eq_nil_iff, List.dropWhile_eq_nil_iff] at h
    have hblank := h _ (List.mem_reverse.mpr (List.head_mem hstart))
    rw [hhead] at hblank
    cases hblank
  · intro h
    rw [trimmed, trimStart_eq_nil_iff.mpr h]
    rfl

theorem notBlank_iff (s : String) : notBlank s = true ↔ trim s ≠ "" := by
  have hempty : trim s = "" ↔ trimmed s.toList = [] := String.ofList_inj
  rw [ne_eq, hempty, trimmed_eq_nil_iff, notBlank]
  simp

theorem named_eq_some_iff {s name : String} :
    named (some s) = some name ↔ name = trim s ∧ name ≠ "" := by
  rw [named, Option.bind_some]
  cases hblank : notBlank s with
  | false =>
    have hnone : trim s = "" := by
      by_contra hsome
      rw [(notBlank_iff s).mpr hsome] at hblank
      cases hblank
    simp [hnone]
  | true =>
    simp only [↓reduceIte, Option.some.injEq]
    constructor
    · rintro rfl
      exact ⟨rfl, (notBlank_iff s).mp hblank⟩
    · rintro ⟨rfl, -⟩
      rfl

/-- Without blanks there is nothing to trim. -/
theorem trim_of_all {s : String} (h : ∀ c ∈ s.toList, isBlank c = false) : trim s = s := by
  have hstart : trimStart s.toList = s.toList := by
    rw [trimStart, List.dropWhile_eq_self_iff]
    intro hpos hblank
    rw [h _ (List.getElem_mem hpos)] at hblank
    cases hblank
  have hend : trimEnd s.toList = s.toList := by
    rw [trimEnd, List.dropWhile_eq_self_iff.mpr, List.reverse_reverse]
    intro hpos hblank
    rw [h _ (List.mem_reverse.mp (List.getElem_mem hpos))] at hblank
    cases hblank
  rw [trim, trimmed, hstart, hend, String.ofList_toList]

end Text

namespace Jwt

/-- A signed token holds symbols of base 64, and dots between its parts. -/
theorem mem_encode {secret : String} {c : Claims} {x : Char}
    (h : x ∈ (encode secret c).toList) : x = '.' ∨ x ∈ Digest.Base64.url := by
  have hsymbol {bs : List UInt8} (hx : x ∈ Digest.Base64.encode Digest.Base64.url bs) :
      x ∈ Digest.Base64.url :=
    Digest.Base64.mem_of_mem_encode Digest.Base64.proper_url bs hx
  rw [encode, String.toList_ofList, message] at h
  simp only [List.mem_append, List.mem_cons] at h
  rcases h with (hheader | rfl | hpayload) | rfl | hsignature
  · exact .inr (hsymbol hheader)
  · exact .inl rfl
  · exact .inr (hsymbol hpayload)
  · exact .inl rfl
  · exact .inr (hsymbol hsignature)

theorem encode_ne_empty (secret : String) (c : Claims) : encode secret c ≠ "" := by
  intro h
  have hdot : '.' ∈ (encode secret c).toList := by
    rw [encode, String.toList_ofList]
    exact List.mem_append_right _ List.mem_cons_self
  rw [h] at hdot
  cases hdot

end Jwt

namespace Web.Request

def Bears (q : Request) (token : String) : Prop :=
  ∃ value rest, q.header? "authorization" = some value ∧ isPlain value = true ∧
    value = "Bearer " ++ rest ∧ token = Text.trim rest ∧ token ≠ ""

theorem bearer?_eq_some_iff (q : Request) (token : String) :
    q.bearer? = some token ↔ q.Bears token := by
  unfold bearer? Bears plainHeader?
  cases hheader : q.header? "authorization" with
  | none =>
    constructor
    · intro h
      cases h
    · rintro ⟨_, _, ⟨⟩, -⟩
  | some value =>
    cases hplain : isPlain value with
    | false =>
      simp only [Option.filter, hplain]
      constructor
      · intro h
        cases h
      · rintro ⟨_, _, ⟨⟩, hshown, -⟩
        rw [hplain] at hshown
        cases hshown
    | true =>
      simp only [Option.filter, hplain, ↓reduceIte, Option.bind_eq_bind, Option.bind_some]
      constructor
      · intro h
        split at h
        · cases h
        · rename_i hscheme
          have hvalue : value = "Bearer " ++ String.ofList (value.toList.drop 7) := by
            rw [← String.toList_inj, String.toList_append,
              String.toList_ofList (l := value.toList.drop 7), ← not_not.mp hscheme,
              List.take_append_drop]
          exact ⟨value, _, rfl, hplain, hvalue, Text.named_eq_some_iff.mp h⟩
      · rintro ⟨_, rest, ⟨⟩, -, rfl, htoken⟩
        have hlist : ("Bearer " ++ rest).toList = "Bearer ".toList ++ rest.toList :=
          String.toList_append
        have htake : ("Bearer " ++ rest).toList.take 7 = "Bearer ".toList := by
          rw [hlist]
          rfl
        have hdrop : ("Bearer " ++ rest).toList.drop 7 = rest.toList := by
          rw [hlist]
          rfl
        rw [if_neg (not_not.mpr htake), hdrop, String.ofList_toList]
        exact Text.named_eq_some_iff.mpr htoken

theorem bearer?_eq_none_iff (q : Request) : q.bearer? = none ↔ ∀ token, ¬ q.Bears token := by
  rw [Option.eq_none_iff_forall_ne_some]
  exact forall_congr' fun token => not_congr (q.bearer?_eq_some_iff token)

/-- A request bears one token at most. -/
theorem Bears.unique {q : Request} {token other : String} (h : q.Bears token)
    (hother : q.Bears other) : token = other := by
  rw [← bearer?_eq_some_iff] at h hother
  exact Option.some.inj (h.symm.trans hother)

/-- A signed token is borne as it is. -/
theorem bears_encode {q : Request} {secret : String} {c : Claims}
    (h : q.header? "authorization" = some ("Bearer " ++ Jwt.encode secret c)) :
    q.Bears (Jwt.encode secret c) := by
  have hplain : ('.' :: Digest.Base64.url).all (fun x =>
      ((' ' ≤ x && x ≤ '~') || x = '\t') && !Text.isBlank x) = true := by decide +kernel
  have hsymbols (x : Char) (hx : x ∈ (Jwt.encode secret c).toList) :
      ((' ' ≤ x && x ≤ '~') || x = '\t') = true ∧ Text.isBlank x = false := by
    have hx' := List.all_eq_true.mp hplain x (List.mem_cons.mpr (Jwt.mem_encode hx))
    rwa [Bool.and_eq_true, Bool.not_eq_true'] at hx'
  refine ⟨_, _, h, ?_, rfl, ?_, Jwt.encode_ne_empty secret c⟩
  · rw [isPlain, String.toList_append, List.all_append, Bool.and_eq_true]
    refine ⟨by decide, ?_⟩
    rw [List.all_eq_true]
    intro x hx
    exact (hsymbols x hx).1
  · exact (Text.trim_of_all fun x hx => (hsymbols x hx).2).symm

end Web.Request

end ParcelDesk
