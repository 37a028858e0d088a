import ParcelDesk.Proofs.SignedTokens

/-!
What stands behind a token that is accepted, whoever has made it. Its signature is the one that the
secret gives for its header and its payload, the header names the desk's own algorithm, and the
payload states the claims. Nothing is assumed of the hash: the theorems say which texts are
accepted, not that no other party can write them.
-/

namespace ParcelDesk

open Json (Holds Names Node Literal Record Tells membersNamed)

namespace Claims

/-- The members of an object are these claims: each number stands there once, and the id at most
once. -/
structure StatedBy (c : Claims) (ms : List (Literal × Node)) : Prop where
  userId : Tells ms "user_id" (.int c.userId)
  issuedAt : Tells ms "iat" (.int c.issuedAt)
  expiresAt : Tells ms "exp" (.int c.expiresAt)
  tokenId : Tells ms "jti" (.str c.tokenId) ∨ (membersNamed ms "jti" = [] ∧ c.tokenId = "")
  fits : c.Fits

theorem careful_decode : Json.Careful decode :=
  Record.Careful.decode <| .seq (.seq (.seq (.map (.required .int64)) (.required .int64))
    (.required .int64)) (.defaulted .string)

theorem statedBy_of_decode {ms : List (Literal × Node)} {c : Claims}
    (h : decode (.map ms .closed) = .ok c) : c.StatedBy ms := by
  obtain ⟨kept, hkept, -, hbuild⟩ := Record.of_decode_map h
  have hnamed {name : String} {n : Option Node} (hknown : name ∈ _)
      (hn : kept.lookup name = n) : membersNamed ms name = n.toList :=
    Record.membersNamed_of_lookup hkept hknown hn
  obtain ⟨_, id, hthree, hid, rfl⟩ := Record.of_build_seq hbuild
  obtain ⟨_, exp, htwo, hexp, rfl⟩ := Record.of_build_seq hthree
  obtain ⟨_, iat, hone, hiat, rfl⟩ := Record.of_build_seq htwo
  obtain ⟨user, huser, rfl⟩ := Record.of_build_map hone
  obtain ⟨u, hu, huser⟩ := Record.of_build_required huser
  obtain ⟨i, hi, hiat⟩ := Record.of_build_required hiat
  obtain ⟨e, he, hexp⟩ := Record.of_build_required hexp
  obtain ⟨huser, hfitsUser⟩ := Json.of_int64 huser
  obtain ⟨hiat, hfitsIat⟩ := Json.of_int64 hiat
  obtain ⟨hexp, hfitsExp⟩ := Json.of_int64 hexp
  refine ⟨⟨u, hnamed (by decide) hu, huser⟩, ⟨i, hnamed (by decide) hi, hiat⟩,
    ⟨e, hnamed (by decide) he, hexp⟩, ?_, hfitsUser, hfitsIat, hfitsExp⟩
  obtain ⟨hj, rfl⟩ | ⟨j, hj, hid⟩ := Record.of_build_defaulted hid
  · exact .inr ⟨hnamed (by decide) hj, rfl⟩
  · exact .inl ⟨j, hnamed (by decide) hj, Json.value_of_string hid⟩

end Claims

namespace Jwt

/-- The header is an object whose one member "alg" names the algorithm, or a list that has the name
in second place among all ten parts of a header. -/
inductive Heads (algorithm : String) : Node → Prop where
  | members {ms : List (Literal × Node)} {v : Json} (tells : Tells ms "alg" v)
    (names : Names algorithm v) : Heads algorithm (.map ms .closed)
  | items {ns : List Node} {n : Node} {v : Json} (length : ns.length = 10)
    (second : ns[1]? = some n) (holds : Json.value n = .ok v) (names : Names algorithm v) :
    Heads algorithm (.list ns .closed)

theorem careful_keyDecoder : Json.Careful keyDecoder := by
  intro n u h
  obtain ⟨v, hv, -⟩ := of_bind_ok h
  exact Json.passedFlaw?_of_value hv

theorem careful_headerDecoder : Json.Careful headerDecoder :=
  Record.Careful.decode <| .seq (.seq (.seq (.seq (.seq (.seq (.seq (.seq (.seq
    (.map (.nullable .string)) (.required (.oneNamed _))) (.nullable .string)) (.nullable .string))
    (.nullable careful_keyDecoder)) (.nullable .string)) (.nullable .string))
    (.nullable (.list .string))) (.nullable .string)) (.nullable .string)

theorem eq_of_lookup_algorithms {name a : String} (h : algorithms.lookup name = some a) :
    name = a := by
  have hsame : ∀ p ∈ algorithms, p.1 = p.2 := by decide
  obtain ⟨pre, post, hsplit, -⟩ := List.lookup_eq_some_iff.mp h
  exact hsame (name, a) (by simp [hsplit])

/-- What a header names, in either of its forms. -/
theorem heads_of_headerDecoder {n : Node} {a : String} (h : headerDecoder n = .ok a) :
    Heads a n := by
  obtain ⟨given, hstands, hbuild⟩ := Record.of_decode h
  -- of the ten parts only the second is of interest, and the others are taken off from the end
  obtain ⟨_, _, h9, -, rfl⟩ := Record.of_build_seq hbuild
  obtain ⟨_, _, h8, -, rfl⟩ := Record.of_build_seq h9
  obtain ⟨_, _, h7, -, rfl⟩ := Record.of_build_seq h8
  obtain ⟨_, _, h6, -, rfl⟩ := Record.of_build_seq h7
  obtain ⟨_, _, h5, -, rfl⟩ := Record.of_build_seq h6
  obtain ⟨_, _, h4, -, rfl⟩ := Record.of_build_seq h5
  obtain ⟨_, _, h3, -, rfl⟩ := Record.of_build_seq h4
  obtain ⟨_, _, h2, -, rfl⟩ := Record.of_build_seq h3
  obtain ⟨_, _, h1, halg, rfl⟩ := Record.of_build_seq h2
  obtain ⟨_, -, rfl⟩ := Record.of_build_map h1
  obtain ⟨m, hm, halg⟩ := Record.of_build_required halg
  obtain ⟨name, v, hlookup, hvalue, hnames⟩ := Json.of_oneNamed halg
  obtain rfl := eq_of_lookup_algorithms hlookup
  cases hstands with
  | members hnamed =>
    have halone := hnamed "alg" (by decide)
    rw [hm] at halone
    exact .members ⟨m, halone, hvalue⟩ hnames
  | items hplaced =>
    rename_i ns
    have hlength : ns.length = 10 := Record.length_of_decode_list (by decide) h
    have hsecond := (hplaced "alg").symm.trans hm
    match ns with
    | _ :: n :: _ =>
      obtain rfl : n = m := Option.some.inj hsecond
      exact .items hlength rfl hvalue hnames

theorem of_algorithm? {part : List Char} {a : String} (h : algorithm? part = some a) :
    ∃ bytes root, decodePart part = some bytes ∧ Holds bytes root ∧ Heads a root := by
  obtain ⟨bytes, hbytes, h⟩ := Option.bind_eq_some_iff.mp h
  have hparse : Json.parseBytes headerDecoder bytes = .ok a := by
    cases hresult : Json.parseBytes headerDecoder bytes with
    | error e => simp [hresult, Except.toOption] at h
    | ok b =>
      rw [hresult] at h
      exact congrArg Except.ok (Option.some.inj h)
  obtain ⟨root, hholds, hroot⟩ := Json.holds_of_parseBytes careful_headerDecoder hparse
  exact ⟨bytes, root, hbytes, hholds, heads_of_headerDecoder hroot⟩

/-- A registered time of expiry is the number of the one member that states it. -/
theorem expiresAt_of_registeredDecoder {ms : List (Literal × Node)} {r : Registered} {i : Int}
    (h : registeredDecoder (.map ms .closed) = .ok r) (hexp : Tells ms "exp" (.int i)) :
    r.expiresAt = if 0 ≤ i then some i.toNat else none := by
  obtain ⟨n, hone, hvalue⟩ := hexp
  obtain ⟨given, hstands, hbuild⟩ := Record.of_decode h
  obtain ⟨_, _, hfour, -, rfl⟩ := Record.of_build_seq hbuild
  obtain ⟨_, _, hthree, -, rfl⟩ := Record.of_build_seq hfour
  obtain ⟨_, _, htwo, -, rfl⟩ := Record.of_build_seq hthree
  obtain ⟨_, _, hfirst, -, rfl⟩ := Record.of_build_seq htwo
  obtain ⟨time, htime, rfl⟩ := Record.of_build_map hfirst
  cases hstands with
  | members hnamed =>
    have hgiven : given "exp" = some n :=
      Option.toList_eq_singleton_iff.mp ((hnamed "exp" (by decide)).symm.trans hone)
    rw [Record.build_defaulted hgiven] at htime
    obtain ⟨x, rfl, hnumber⟩ := Json.of_value_int hvalue
    simp only [time?, hnumber] at htime
    exact (Except.ok.inj htime).symm

/-- A payload is an object that states the claims, and it is judged by their time of expiry. A list
cannot have both the length of the claims and that of the registered ones. -/
theorem of_readClaims {bytes : List UInt8} {c : Claims} {r : Registered}
    (h : readClaims bytes = .ok (c, r)) :
    ∃ ms, Holds bytes (.map ms .closed) ∧ c.StatedBy ms ∧
      r.expiresAt = if 0 ≤ c.expiresAt then some c.expiresAt.toNat else none := by
  obtain ⟨c, hclaims, h⟩ := of_bind_ok h
  obtain ⟨r, hregistered, h⟩ := of_bind_ok h
  obtain ⟨rfl, rfl⟩ := Prod.mk.inj (Except.ok.inj h)
  obtain ⟨root, hholds, hclaims⟩ := Json.holds_of_parseBytes Claims.careful_decode hclaims
  have hroot := (Json.of_parseBytes hregistered).1
  rw [hholds.read] at hroot
  obtain ⟨ms, rfl⟩ | ⟨ns, rfl⟩ := Record.node_of_decode hclaims
  · have hstated := Claims.statedBy_of_decode hclaims
    exact ⟨ms, hholds, hstated, expiresAt_of_registeredDecoder hroot hstated.expiresAt⟩
  · have hfour : ns.length ≤ 4 := (Record.of_decode_list hclaims).2.1
    have hfive : ns.length = 5 := Record.length_of_decode_list (by decide) hroot
    omega

theorem of_acceptPayload {now : Instant} {payload : List Char} {c : Claims}
    (h : acceptPayload now payload = .ok c) :
    ∃ bytes r exp, decodePart payload = some bytes ∧ readClaims bytes = .ok (c, r) ∧
      r.expiresAt = some exp ∧ now.seconds ≤ exp := by
  unfold acceptPayload at h
  split at h
  · cases h
  rename_i bytes hbytes
  split at h
  · cases h
  rename_i d r hread
  split at h
  · cases h
  rename_i exp hexp
  split at h
  · cases h
  rename_i hnow
  split at h
  · cases h
  obtain rfl := Except.ok.inj h
  exact ⟨bytes, r, exp, hbytes, hread, hexp, by omega⟩

theorem of_parts? {token header payload given : List Char}
    (h : parts? token = some (header, payload, given)) :
    token = header ++ '.' :: payload ++ '.' :: given ∧ '.' ∉ payload ∧ '.' ∉ given := by
  obtain ⟨⟨message, last⟩, hlast, h⟩ := Option.bind_eq_some_iff.mp h
  obtain ⟨⟨front, middle⟩, hmiddle, h⟩ := Option.bind_eq_some_iff.mp h
  obtain ⟨rfl, hrest⟩ := Prod.mk.inj (Option.some.inj h)
  obtain ⟨rfl, rfl⟩ := Prod.mk.inj hrest
  obtain ⟨rfl, hgiven⟩ := Text.of_splitLast? hlast
  obtain ⟨rfl, hpayload⟩ := Text.of_splitLast? hmiddle
  exact ⟨rfl, hpayload, hgiven⟩

/-- The way to acceptance: every other exit is an error. -/
theorem of_verify {secret token : String} {now : Instant} {c : Claims}
    (h : verify secret now token = .ok c) :
    ∃ header payload, token = sealed secret header payload ∧
      algorithm? header = some ownAlgorithm ∧ acceptPayload now payload = .ok c := by
  unfold verify at h
  split at h
  · cases h
  rename_i header payload given hparts
  split at h
  · cases h
  rename_i algorithm halgorithm
  split at h
  · cases h
  rename_i hown
  split at h
  · cases h
  rename_i hsigned
  obtain rfl := of_not_not hown
  obtain rfl := of_not_not hsigned
  refine ⟨header, payload, ?_, halgorithm, h⟩
  rw [sealed, assembled, ← (of_parts? hparts).1, String.ofList_toList]

theorem dot_notMem_of_decodePart {part : List Char} {bytes : List UInt8}
    (h : decodePart part = some bytes) : '.' ∉ part :=
  Digest.Base64.dot_notMem_of_decode h

/-- A text of three parts is put together in one way only. -/
theorem assembled_inj {header payload given header' payload' given' : List Char}
    (hheader : '.' ∉ header) (hpayload : '.' ∉ payload) (hgiven : '.' ∉ given)
    (h : assembled header payload given = assembled header' payload' given') :
    header = header' ∧ payload = payload' ∧ given = given' := by
  -- two dots separate the parts, so there is none left for the other parts to have
  have hdots := congrArg (fun s => s.toList.count '.') h
  simp only [assembled, String.toList_ofList, List.count_append, List.count_cons_self,
    List.count_eq_zero_of_not_mem hheader, List.count_eq_zero_of_not_mem hpayload,
    List.count_eq_zero_of_not_mem hgiven] at hdots
  have hpayload' : '.' ∉ payload' := List.count_eq_zero.mp (by omega)
  have hgiven' : '.' ∉ given' := List.count_eq_zero.mp (by omega)
  have hparts := parts?_assembled hpayload hgiven header
  rw [h, parts?_assembled hpayload' hgiven'] at hparts
  simp only [Option.some.injEq, Prod.mk.injEq] at hparts
  exact ⟨hparts.1.symm, hparts.2.1.symm, hparts.2.2.symm⟩

/-- Of an accepted token, as it is written, the last part is the signature of the others. -/
theorem signature_of_verify {secret : String} {now : Instant} {header payload given : List Char}
    {c : Claims} (h : verify secret now (assembled header payload given) = .ok c) :
    given = signature secret (header ++ '.' :: payload) ∧ acceptPayload now payload = .ok c := by
  obtain ⟨front, middle, hsealed, halgorithm, haccept⟩ := of_verify h
  obtain ⟨_, _, hheader, _⟩ := of_algorithm? halgorithm
  obtain ⟨_, _, _, hpayload, _⟩ := of_acceptPayload haccept
  obtain ⟨rfl, rfl, rfl⟩ := assembled_inj (dot_notMem_of_decodePart hheader)
    (dot_notMem_of_decodePart hpayload) (dot_notMem_signature secret _) hsealed.symm
  exact ⟨rfl, haccept⟩

/-- The claims of a token are the same at all times at which it is verified. -/
theorem eq_of_verify {secret token : String} {now later : Instant} {c d : Claims}
    (hc : verify secret now token = .ok c) (hd : verify secret later token = .ok d) : c = d := by
  obtain ⟨header, payload, rfl, -, hnow⟩ := of_verify hc
  obtain ⟨-, hlater⟩ := signature_of_verify hd
  obtain ⟨bytes, r, _, hbytes, hread, -⟩ := of_acceptPayload hnow
  obtain ⟨_, _, _, hsame, hagain, -⟩ := of_acceptPayload hlater
  obtain rfl := Option.some.inj (hbytes.symm.trans hsame)
  exact (Prod.mk.inj (Except.ok.inj (hread.symm.trans hagain))).1

/-- A token with a header for another algorithm is refused for that, before its signature and its
payload are looked at. -/
theorem verify_assembled_of_other {header payload given : List Char} {algorithm : String}
    (hpayload : '.' ∉ payload) (hgiven : '.' ∉ given) (hheader : algorithm? header = some algorithm)
    (hother : algorithm ≠ ownAlgorithm) (secret : String) (now : Instant) :
    verify secret now (assembled header payload given) = .error .wrongAlgorithm := by
  rw [verify, parts?_assembled hpayload hgiven]
  simp only [hheader, if_pos hother]

/-- What is known of a token that is accepted, whatever text it is: it is its header and payload,
signed under the secret; the header is well-formed JSON that names the desk's own algorithm, and the
payload is an object that states the claims, which have not expired. So for one header and payload
one signature is accepted at most, and no token with a header for another algorithm is. Time is in
whole seconds. -/
theorem accepted_tokens_are_signed (secret : String) :
    (∀ now token c, verify secret now token = .ok c →
      ∃ header payload, token = sealed secret header payload ∧ '.' ∉ header ∧ '.' ∉ payload ∧
        (∃ bytes root, decodePart header = some bytes ∧ Holds bytes root ∧ Heads "HS256" root) ∧
        (∃ bytes ms, decodePart payload = some bytes ∧ Holds bytes (.map ms .closed) ∧
          c.StatedBy ms) ∧
        now.seconds ≤ c.expiresAt) ∧
    (∀ header payload s t now later c d,
      verify secret now (assembled header payload s) = .ok c →
      verify secret later (assembled header payload t) = .ok d → s = t) ∧
    (∀ now header payload given algorithm, '.' ∉ payload → '.' ∉ given →
      algorithm? header = some algorithm → algorithm ≠ "HS256" →
      verify secret now (assembled header payload given) = .error .wrongAlgorithm) := by
  refine ⟨fun now token c h => ?_, fun header payload s t now later c d hs ht => ?_,
    fun now header payload given algorithm hpayload hgiven hheader hother => ?_⟩
  · obtain ⟨header, payload, htoken, halgorithm, haccept⟩ := of_verify h
    obtain ⟨front, root, hfront, hroot, hheads⟩ := of_algorithm? halgorithm
    obtain ⟨bytes, r, exp, hbytes, hread, hexp, hnow⟩ := of_acceptPayload haccept
    obtain ⟨ms, hms, hstated, hjudged⟩ := of_readClaims hread
    refine ⟨header, payload, htoken, dot_notMem_of_decodePart hfront,
      dot_notMem_of_decodePart hbytes, ⟨front, root, hfront, hroot, hheads⟩,
      ⟨bytes, ms, hbytes, hms, hstated⟩, ?_⟩
    rw [hexp] at hjudged
    split at hjudged
    · obtain rfl := Option.some.inj hjudged
      omega
    · cases hjudged
  · exact (signature_of_verify hs).1.trans (signature_of_verify ht).1.symm
  · exact verify_assembled_of_other hpayload hgiven hheader hother secret now

def plainClaims : Claims := ⟨5, 1700000000, 4000000000, "j-1"⟩

theorem plainClaims_fits : plainClaims.Fits :=
  ⟨⟨by decide, by decide⟩, ⟨by decide, by decide⟩, ⟨by decide, by decide⟩⟩

theorem plain_token_is_signed :
    verify "secret" ⟨1700000000, 0⟩ (encode "secret" plainClaims) = .ok plainClaims ∧
    (∃ header payload, encode "secret" plainClaims = sealed "secret" header payload ∧
      '.' ∉ header ∧ '.' ∉ payload ∧
      (∃ bytes root, decodePart header = some bytes ∧ Holds bytes root ∧ Heads "HS256" root) ∧
      (∃ bytes ms, decodePart payload = some bytes ∧ Holds bytes (.map ms .closed) ∧
        plainClaims.StatedBy ms) ∧
      1700000000 ≤ plainClaims.expiresAt) ∧
    (∃! given, ∃ c, verify "secret" ⟨1700000000, 0⟩
      (assembled header (encodePart plainClaims.toJson.chars) given) = .ok c) ∧
    verify "secret" ⟨1700000000, 0⟩
      (assembled (encodePart (Json.obj [("typ", .str "JWT"), ("alg", .str "HS384")]).chars)
        (encodePart plainClaims.toJson.chars) []) = .error .wrongAlgorithm := by
  have haccepted : verify "secret" ⟨1700000000, 0⟩ (encode "secret" plainClaims) =
      .ok plainClaims := verify_encode_fits plainClaims_fits (by decide) (by decide) "secret"
  obtain ⟨hsigned, hunique, hother⟩ := accepted_tokens_are_signed "secret"
  refine ⟨haccepted, hsigned _ _ _ haccepted, ⟨_, ⟨plainClaims, haccepted⟩, ?_⟩, ?_⟩
  · rintro given ⟨c, hgiven⟩
    exact hunique _ _ _ _ _ _ _ _ hgiven haccepted
  · exact hother _ _ _ _ "HS384" (dot_notMem_encodePart _) List.not_mem_nil (by decide +kernel)
      (by decide)

def listedHeader : Json :=
  .arr [.str "JWT", .str "HS256", .null, .null, .null, .null, .null, .null, .null, .null]

def nestedHeader : Json := .obj [("typ", .str "JWT"), ("alg", .obj [("HS256", .null)])]

def headedToken (header : Json) : String :=
  sealed "secret" (encodePart header.chars) (encodePart plainClaims.toJson.chars)

theorem verify_headedToken {header : Json}
    (h : algorithm? (encodePart header.chars) = some ownAlgorithm) :
    verify "secret" ⟨1700000000, 0⟩ (headedToken header) = .ok plainClaims := by
  rw [headedToken, verify_sealed (dot_notMem_encodePart _) h,
    acceptPayload_written plainClaims_fits]
  rfl

/-- Whatever part in front of a dot of such a token is decoded, it is the header. -/
theorem bytes_of_headedToken {header : Json} {part rest : List Char} {bytes : List UInt8}
    (htoken : (headedToken header).toList = part ++ '.' :: rest)
    (hbytes : decodePart part = some bytes) : bytes = Text.Utf8.encode header.chars := by
  rw [headedToken, sealed, assembled, String.toList_ofList, List.append_assoc] at htoken
  have hpart := congrArg (List.takeWhile (· ≠ '.')) htoken
  rw [List.cons_append, Text.takeWhile_ne_append (dot_notMem_encodePart _),
    Text.takeWhile_ne_append (dot_notMem_of_decodePart hbytes)] at hpart
  rw [← hpart, decodePart_encodePart] at hbytes
  exact (Option.some.inj hbytes).symm

/-- The header of an accepted token does not have to be an object, and its algorithm does not have
to be a text. -/
theorem odd_headers_are_accepted :
    (verify "secret" ⟨1700000000, 0⟩ (headedToken listedHeader) = .ok plainClaims ∧
      ∀ header rest bytes ms ending, (headedToken listedHeader).toList = header ++ '.' :: rest →
        decodePart header = some bytes → (Json.readBytes bytes).root ≠ .map ms ending) ∧
    verify "secret" ⟨1700000000, 0⟩ (headedToken nestedHeader) = .ok plainClaims ∧
      ∀ header rest bytes ms ending, (headedToken nestedHeader).toList = header ++ '.' :: rest →
        decodePart header = some bytes → (Json.readBytes bytes).root = .map ms ending →
          ¬ Tells ms "alg" (.str "HS256") := by
  refine ⟨⟨verify_headedToken (by decide +kernel), ?_⟩, verify_headedToken (by decide +kernel), ?_⟩
  · intro header rest bytes ms ending htoken hbytes hroot
    obtain rfl := bytes_of_headedToken htoken hbytes
    cases hroot
  · intro header rest bytes ms ending htoken hbytes hroot
    obtain rfl := bytes_of_headedToken htoken hbytes
    obtain ⟨rfl, rfl⟩ := Node.map.inj hroot
    rintro ⟨n, hone, hvalue⟩
    obtain rfl := List.singleton_inj.mp hone
    cases hvalue

end Jwt

end ParcelDesk
