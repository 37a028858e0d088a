import ParcelDesk.Account.Jwt
import ParcelDesk.Proofs.Base64
import ParcelDesk.Proofs.JsonDocuments

/-!
Signed tokens carry their claims. The three parts of a token are found again behind its dots, the
header names the desk's own algorithm, the signature is the one that is asked for, and the payload
reads back as the claims that were signed, as long as their numbers fit 64 bits. No property of
the hash is used: the same message has the same signature. Different claims have different tokens,
whatever the secrets.
-/

namespace ParcelDesk.Text

/-- Splitting at the last separator loses nothing, and none is left behind it. -/
theorem of_splitLast? {separator : Char} {cs pre post : List Char}
    (h : splitLast? separator cs = some (pre, post)) :
    cs = pre ++ separator :: post ∧ separator ∉ post := by
  have hmem : separator ∈ cs := by
    by_contra hnot
    have hnone : cs.contains separator = false := by simpa using hnot
    simp only [splitLast?, hnone, Bool.false_eq_true, ↓reduceIte] at h
    cases h
  obtain ⟨front, back, hcs, hback⟩ := exists_last hmem
  rw [hcs, splitLast?_append separator _ _ hback] at h
  obtain ⟨rfl, rfl⟩ := Prod.mk.inj (Option.some.inj h)
  exact ⟨hcs, hback⟩

end ParcelDesk.Text

namespace ParcelDesk.Json

theorem number_whole {n : Int} (h : Fits n) : (Numeral.whole n).number = .ok (.int n) := by
  have hlower := h.lower
  have hupper := h.upper
  unfold Numeral.number Numeral.whole
  simp only [Bool.true_and, Bool.and_eq_true, Bool.not_eq_true', decide_eq_false_iff_not,
    decide_eq_true_eq]
  by_cases hn : n < 0
  · have hle : n < 0 ∧ 0 < n.natAbs ∧ n.natAbs ≤ 0x8000000000000000 := by omega
    have habs : -(n.natAbs : Int) = n := by omega
    rw [if_neg fun h => h.1 hn, if_pos ⟨⟨hn, hle.2.1⟩, hle.2.2⟩, habs]
  · have hlt : n.natAbs < 0x10000000000000000 := by omega
    have habs : (n.natAbs : Int) = n := by omega
    rw [if_pos ⟨hn, hlt⟩, habs]

theorem int64_whole {n : Int} (h : Fits n) : int64 (.number (Numeral.whole n)) = .ok n := by
  have hwithin : (-0x8000000000000000 ≤ n && n ≤ 0x7FFFFFFFFFFFFFFF) = true := by
    have hlower := h.lower
    have hupper := h.upper
    simp only [Bool.and_eq_true, decide_eq_true_eq]
    omega
  simp only [int64, integer, number_whole h, lift, Except.mapError, bind, Except.bind, hwithin,
    ↓reduceIte]
  rfl

theorem eq_of_number_whole {n m : Int} (h : (Numeral.whole n).number = .ok (.int m)) : m = n := by
  unfold Numeral.number at h
  simp only [Numeral.whole, Bool.true_and, Bool.and_eq_true, Bool.not_eq_true',
    decide_eq_false_iff_not, decide_eq_true_eq] at h
  split at h
  · rename_i hn
    obtain rfl := Number.int.inj (Except.ok.inj h)
    omega
  split at h
  · rename_i hn
    obtain rfl := Number.int.inj (Except.ok.inj h)
    omega
  · by_cases hinf : (Decimal.nearest (n < 0) n.natAbs 0).isInf = true <;> simp [hinf] at h

/-- A written number is taken for an integer of 64 bits only if it is one. -/
theorem of_int64_whole {n m : Int} (h : int64 (.number (Numeral.whole n)) = .ok m) :
    m = n ∧ Fits n := by
  obtain ⟨hvalue, hfits⟩ := of_int64 h
  obtain ⟨x, hx, hnumber⟩ := of_value_int hvalue
  obtain rfl := Node.number.inj hx
  obtain rfl := eq_of_number_whole hnumber
  exact ⟨rfl, hfits⟩

theorem string_written (s : String) : string (.text (Literal.written s)) = .ok s := by
  rw [string, text_written]
  rfl

end ParcelDesk.Json

namespace ParcelDesk

open Json (Leaves Node Numeral)

namespace Claims

def leaves (c : Claims) : Leaves :=
  [("user_id", .whole c.userId), ("iat", .whole c.issuedAt), ("exp", .whole c.expiresAt),
    ("jti", .text c.tokenId)]

theorem toJson_eq (c : Claims) : c.toJson = c.leaves.json := rfl

structure Fits (c : Claims) : Prop where
  userId : Json.Fits c.userId
  issuedAt : Json.Fits c.issuedAt
  expiresAt : Json.Fits c.expiresAt

/-- Claims of 64 bits are read as they were written. -/
theorem decode_leaves {c : Claims} (h : c.Fits) : decode (.map c.leaves.nodes .closed) = .ok c := by
  have hu := Json.int64_whole h.userId
  have hi := Json.int64_whole h.issuedAt
  have he := Json.int64_whole h.expiresAt
  have hj := Json.string_written c.tokenId
  refine (Json.Record.decode_map [("jti", .text (Json.Literal.written c.tokenId)),
    ("exp", .number (Numeral.whole c.expiresAt)), ("iat", .number (Numeral.whole c.issuedAt)),
    ("user_id", .number (Numeral.whole c.userId))] ?_).trans ?_
  · simp only [leaves, Leaves.nodes, List.map_cons, List.map_nil, Json.Leaf.node]
    rw [Json.Record.collect_known rfl rfl, Json.Record.collect_known rfl rfl,
      Json.Record.collect_known rfl rfl, Json.Record.collect_known rfl rfl]
    simp only [hu, hi, he, hj]
    rfl
  · simp only [Json.Record.build_seq, Json.Record.build_map]
    rw [Json.Record.build_required rfl, Json.Record.build_required rfl,
      Json.Record.build_required rfl, Json.Record.build_defaulted rfl, hu, hi, he, hj]
    rfl

/-- Claims with a number of more than 64 bits are not read at all. -/
theorem fits_of_decode_leaves {c d : Claims} (h : decode (.map c.leaves.nodes .closed) = .ok d) :
    c.Fits := by
  obtain ⟨kept, hkept, -⟩ := Json.Record.of_decode_map h
  simp only [leaves, Leaves.nodes, List.map_cons, Json.Leaf.node] at hkept
  rw [Json.Record.collect_known rfl rfl] at hkept
  obtain ⟨_, huser, hkept⟩ := of_bind_ok hkept
  rw [Json.Record.collect_known rfl rfl] at hkept
  obtain ⟨_, hiat, hkept⟩ := of_bind_ok hkept
  rw [Json.Record.collect_known rfl rfl] at hkept
  obtain ⟨_, hexp, -⟩ := of_bind_ok hkept
  obtain ⟨u, hu, -⟩ := of_map_ok huser
  obtain ⟨i, hi, -⟩ := of_map_ok hiat
  obtain ⟨e, he, -⟩ := of_map_ok hexp
  exact ⟨(Json.of_int64_whole hu).2, (Json.of_int64_whole hi).2, (Json.of_int64_whole he).2⟩

end Claims

namespace Jwt

/-- What the registered members of claims say: the time of expiry, unless it is negative. -/
def Registered.ofClaims (c : Claims) : Registered :=
  ⟨if 0 ≤ c.expiresAt then some c.expiresAt.toNat else none, false⟩

theorem registeredDecoder_leaves {c : Claims} (h : c.Fits) :
    registeredDecoder (.map c.leaves.nodes .closed) = .ok (.ofClaims c) := by
  have ht : time? (.number (Numeral.whole c.expiresAt)) =
      .ok (if 0 ≤ c.expiresAt then some c.expiresAt.toNat else none) := by
    simp only [time?, Json.number_whole h.expiresAt]
  refine (Json.Record.decode_map [("exp", .number (Numeral.whole c.expiresAt))] ?_).trans ?_
  · simp only [Claims.leaves, Leaves.nodes, List.map_cons, List.map_nil, Json.Leaf.node]
    rw [Json.Record.collect_unknown rfl rfl, Json.Record.collect_unknown rfl rfl,
      Json.Record.collect_known rfl rfl, Json.Record.collect_unknown rfl rfl]
    simp only [ht]
    rfl
  · simp only [Json.Record.build_seq, Json.Record.build_map]
    rw [Json.Record.build_defaulted rfl, ht]
    rfl

/-- The claims of a payload are accepted until they expire. A negative time of expiry is none. -/
def judged (now : Instant) (c : Claims) : Except TokenFlaw Claims :=
  if c.expiresAt < 0 then .error (.missingClaim "exp")
  else if c.expiresAt < now.seconds then .error .expired
  else .ok c

theorem decodePart_encodePart (text : List Char) :
    decodePart (encodePart text) = some (Text.Utf8.encode text) :=
  Digest.Base64.decode_encode Digest.Base64.proper_url _

theorem readClaims_written {c : Claims} (h : c.Fits) :
    readClaims (Text.Utf8.encode c.toJson.chars) = .ok (c, .ofClaims c) := by
  rw [readClaims, Claims.toJson_eq, Json.parseBytes_leaves, Json.parseBytes_leaves,
    Claims.decode_leaves h, registeredDecoder_leaves h]
  rfl

theorem acceptPayload_written {c : Claims} (h : c.Fits) (now : Instant) :
    acceptPayload now (encodePart c.toJson.chars) = judged now c := by
  simp only [acceptPayload, decodePart_encodePart, readClaims_written h, Registered.ofClaims]
  unfold judged
  by_cases hneg : c.expiresAt < 0
  · have hnot : ¬ 0 ≤ c.expiresAt := by omega
    simp only [hneg, hnot, ↓reduceIte]
  · have hnonneg : 0 ≤ c.expiresAt := by omega
    have hcast : ((c.expiresAt.toNat : Nat) : Int) = c.expiresAt := by omega
    simp only [hneg, hnonneg, ↓reduceIte, hcast, Bool.false_eq_true]

theorem fits_of_acceptPayload {c d : Claims} {now : Instant}
    (h : acceptPayload now (encodePart c.toJson.chars) = .ok d) : c.Fits := by
  simp only [acceptPayload, decodePart_encodePart] at h
  cases hd : Claims.decode (.map c.leaves.nodes .closed) with
  | ok d => exact Claims.fits_of_decode_leaves hd
  | error e =>
    have hread : readClaims (Text.Utf8.encode c.toJson.chars) = .error e := by
      rw [readClaims, Claims.toJson_eq, Json.parseBytes_leaves, hd]
      rfl
    simp [hread] at h

def headerLeaves : Leaves := [("typ", .text "JWT"), ("alg", .text ownAlgorithm)]

theorem headerDecoder_leaves :
    headerDecoder (.map headerLeaves.nodes .closed) = .ok ownAlgorithm := by
  have htyp := Json.string_written "JWT"
  have halg : Json.oneNamed algorithms (.text (Json.Literal.written ownAlgorithm)) =
      .ok ownAlgorithm := by
    rw [Json.oneNamed, Json.text_written]
    rfl
  refine (Json.Record.decode_map [("alg", .text (Json.Literal.written ownAlgorithm)),
    ("typ", .text (Json.Literal.written "JWT"))] ?_).trans ?_
  · simp only [headerLeaves, Leaves.nodes, List.map_cons, List.map_nil, Json.Leaf.node]
    rw [Json.Record.collect_known rfl rfl, Json.Record.collect_known rfl rfl]
    simp only [halg, Json.option, htyp]
    rfl
  · simp only [Json.Record.build_seq, Json.Record.build_map]
    rw [Json.Record.build_nullable rfl, Json.Record.build_required rfl]
    simp only [Json.option, htyp, halg]
    rfl

theorem algorithm?_header : algorithm? header = some ownAlgorithm := by
  have hheader : header = encodePart headerLeaves.json.chars := rfl
  rw [algorithm?, hheader, decodePart_encodePart]
  simp only [Option.bind_eq_bind, Option.bind_some, Json.parseBytes_leaves, headerDecoder_leaves]
  rfl

theorem dot_notMem_encodePart (text : List Char) : '.' ∉ encodePart text :=
  Digest.Base64.dot_notMem_encode _

theorem dot_notMem_signature (secret : String) (message : List Char) :
    '.' ∉ signature secret message :=
  Digest.Base64.dot_notMem_encode _

def assembled (header payload given : List Char) : String :=
  String.ofList (header ++ '.' :: payload ++ '.' :: given)

def sealed (secret : String) (header payload : List Char) : String :=
  assembled header payload (signature secret (header ++ '.' :: payload))

theorem parts?_assembled {payload given : List Char} (hpayload : '.' ∉ payload)
    (hgiven : '.' ∉ given) (header : List Char) :
    parts? (assembled header payload given).toList = some (header, payload, given) := by
  rw [assembled, String.toList_ofList, parts?, Text.splitLast?_append '.' _ _ hgiven]
  simp only [Option.bind_eq_bind, Option.bind_some, Text.splitLast?_append '.' _ _ hpayload]

theorem parts?_encode (secret : String) (c : Claims) : parts? (encode secret c).toList =
    some (header, encodePart c.toJson.chars, signature secret (message c)) :=
  parts?_assembled (dot_notMem_encodePart _) (dot_notMem_signature secret _) header

/-- A token that is signed stands or falls with its payload, if its header is in order. -/
theorem verify_sealed {header payload : List Char} (hpayload : '.' ∉ payload)
    (hheader : algorithm? header = some ownAlgorithm) (secret : String) (now : Instant) :
    verify secret now (sealed secret header payload) = acceptPayload now payload := by
  rw [verify, sealed, parts?_assembled hpayload (dot_notMem_signature secret _)]
  simp only [hheader, ne_eq, not_true_eq_false, ↓reduceIte]

theorem verify_encode (secret : String) (now : Instant) (c : Claims) :
    verify secret now (encode secret c) = acceptPayload now (encodePart c.toJson.chars) :=
  verify_sealed (dot_notMem_encodePart _) algorithm?_header secret now

/-- A signed token is accepted for its claims until they expire. -/
theorem verify_encode_fits {c : Claims} (hfits : c.Fits) (hvalid : 0 ≤ c.expiresAt)
    {now : Instant} (hnow : now.seconds ≤ c.expiresAt) (secret : String) :
    verify secret now (encode secret c) = .ok c := by
  rw [verify_encode, acceptPayload_written hfits, judged, if_neg (by omega), if_neg (by omega)]

/-- What a signed token is accepted for is what was signed. -/
theorem of_verify_encode {secret : String} {now : Instant} {c d : Claims}
    (h : verify secret now (encode secret c) = .ok d) :
    d = c ∧ 0 ≤ c.expiresAt ∧ now.seconds ≤ c.expiresAt := by
  rw [verify_encode] at h
  have hfits := fits_of_acceptPayload h
  rw [acceptPayload_written hfits, judged] at h
  split at h
  · simp at h
  split at h
  · simp at h
  · exact ⟨(Except.ok.inj h).symm, by omega, by omega⟩

theorem whole_injective : Function.Injective Numeral.whole := by
  intro m n h
  simp only [Numeral.whole, Numeral.mk.injEq, decide_eq_decide] at h
  omega

theorem written_injective : Function.Injective Json.Literal.written := by
  intro s t h
  have hs := Json.text_written s
  rw [h, Json.text_written] at hs
  exact (Except.ok.inj hs).symm

/-- Different claims have different tokens, whatever they are signed with. -/
theorem encode_injective {secret other : String} {c d : Claims}
    (h : encode secret c = encode other d) : c = d := by
  have hparts := parts?_encode secret c
  rw [h, parts?_encode] at hparts
  have hpayload : encodePart d.toJson.chars = encodePart c.toJson.chars := by
    simp only [Option.some.injEq, Prod.mk.injEq] at hparts
    exact hparts.2.1
  have hbytes : Text.Utf8.encode d.toJson.chars = Text.Utf8.encode c.toJson.chars := by
    have hdecode := decodePart_encodePart d.toJson.chars
    rw [hpayload, decodePart_encodePart] at hdecode
    exact (Option.some.inj hdecode).symm
  have hread := Json.readBytes_leaves d.leaves
  rw [← Claims.toJson_eq, hbytes, Claims.toJson_eq, Json.readBytes_leaves] at hread
  simp only [Json.Document.mk.injEq, Node.map.injEq, Claims.leaves, Leaves.nodes, List.map_cons,
    List.map_nil, Json.Leaf.node, List.cons.injEq, Prod.mk.injEq, Node.number.injEq,
    Node.text.injEq, true_and, and_true] at hread
  obtain ⟨hu, hi, he, hj⟩ := hread
  have := whole_injective hu
  have := whole_injective hi
  have := whole_injective he
  have := written_injective hj
  cases c
  cases d
  simp_all

/-- A signed token that has expired is refused for that. -/
theorem verify_encode_expired {c : Claims} (hfits : c.Fits) (hvalid : 0 ≤ c.expiresAt)
    {now : Instant} (hlate : c.expiresAt < now.seconds) (secret : String) :
    verify secret now (encode secret c) = .error .expired := by
  rw [verify_encode, acceptPayload_written hfits, judged, if_neg (by omega), if_pos hlate]

/-- Whatever claims of 64 bits are signed, their token reads back as these claims, at every time
after 1970 at which they have not expired; afterwards it is refused as expired. So no two claims
have one token. Time is in whole seconds. -/
theorem signed_claims_are_read_back (secret : String) :
    (∀ c : Claims, c.Fits → ∀ now : Instant,
      (0 ≤ now.seconds → now.seconds ≤ c.expiresAt →
        verify secret now (encode secret c) = .ok c) ∧
      (0 ≤ c.expiresAt → c.expiresAt < now.seconds →
        verify secret now (encode secret c) = .error .expired)) ∧
    Function.Injective (encode secret) := by
  refine ⟨fun c hfits now => ⟨fun hpast hnow => ?_, fun hvalid hlate => ?_⟩, ?_⟩
  · exact verify_encode_fits hfits (by omega) hnow secret
  · exact verify_encode_expired hfits hvalid hlate secret
  · exact fun _ _ => encode_injective

def oddClaims : Claims :=
  ⟨-0x8000000000000000, -1, 4102444800, "\x00\x1f\"\\\u2028"⟩

theorem odd_claims_are_read_back :
    oddClaims.Fits ∧
    verify "secret" ⟨4102444799, 999999999⟩ (encode "secret" oddClaims) = .ok oddClaims ∧
    verify "secret" ⟨4102444801, 0⟩ (encode "secret" oddClaims) = .error .expired := by
  have hfits : oddClaims.Fits := ⟨⟨by decide, by decide⟩, ⟨by decide, by decide⟩,
    ⟨by decide, by decide⟩⟩
  have hread := (signed_claims_are_read_back "secret").1 oddClaims hfits
  exact ⟨hfits, (hread ⟨4102444799, 999999999⟩).1 (by decide) (by decide),
    (hread ⟨4102444801, 0⟩).2 (by decide) (by decide)⟩

end Jwt

end ParcelDesk
