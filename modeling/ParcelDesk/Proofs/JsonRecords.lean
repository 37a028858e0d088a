import ParcelDesk.Json.Decode
import ParcelDesk.Proofs.JsonLiterals
import ParcelDesk.Proofs.Utf8

/-!
Objects whose members are texts and whole numbers, written and read again. A reader of such a
document sees every member under its name, in the order of writing, and nothing after the closing
brace. The induction is on the members; each takes one unit of the reader's depth.
-/

namespace ParcelDesk.Json

inductive Leaf where
  | whole (n : Int)
  | text (s : String)

namespace Leaf

def json : Leaf → Json
  | whole n => .int n
  | text s => .str s

def node : Leaf → Node
  | whole n => .number (Numeral.whole n)
  | text s => .text (Literal.written s)

end Leaf

abbrev Leaves := List (String × Leaf)

def Leaves.json (ms : Leaves) : Json := .obj (ms.map fun m => (m.1, m.2.json))

def Leaves.nodes (ms : Leaves) : List (Literal × Node) :=
  ms.map fun m => (Literal.written m.1, m.2.node)

theorem isSpace_digit {c : Char} (h : c.isDigit = true) : isSpace (some c) = false := by
  by_contra hs
  simp only [isSpace, Bool.not_eq_false, Bool.or_eq_true, beq_iff_eq, Option.some.injEq] at hs
  rcases hs with ((rfl | rfl) | rfl) | rfl <;> simp at h

theorem skipSpace_cons {c : Option Char} {rest : Symbols} (h : isSpace c = false) :
    skipSpace (c :: rest) = c :: rest := by
  simp [skipSpace, h]

theorem readValue_text (fuel : Nat) (s : String) (rest : Symbols) :
    readValue (fuel + 1) ((quote s).map some ++ rest) =
      (.text (Literal.written s), some rest) := by
  have hread := readLiteral_written s.toList rest
  have hq : (quote s).map some ++ rest =
      some '"' :: ((s.toList.flatMap escapeChar).map some ++ some '"' :: rest) := by
    simp [quote]
  rw [hq, readValue, skipSpace_cons rfl]
  simp only [readText, hread, ↓reduceIte, Literal.written]

/-- A digit begins nothing but a number. -/
theorem readValue_digit (fuel : Nat) {d : Char} (hd : d.isDigit = true) (rest : Symbols) :
    readValue (fuel + 1) (some d :: rest) = readNumber false (some d :: rest) := by
  have hs := isSpace_digit hd
  rw [readValue, skipSpace_cons hs]
  split
  case h_1 =>
    rename_i h
    cases h
  case h_9 =>
    rename_i h
    cases h
    simp [isDigitSymbol, hd]
  all_goals
    rename_i h
    cases h
    simp at hd

theorem readValue_whole (fuel : Nat) (n : Int) {rest : Symbols} (hr : Ends rest) :
    readValue (fuel + 1) ((Decimal.integerDigits n).map some ++ rest) =
      (.number (Numeral.whole n), some rest) := by
  unfold Decimal.integerDigits
  split
  · rename_i hn
    rw [List.map_cons, List.cons_append, readValue, skipSpace_cons rfl]
    change readNumber true _ = _
    rw [readNumber_naturalDigits true n.natAbs hr, Numeral.whole]
    simp [hn]
  · rename_i hn
    have hread := readNumber_naturalDigits false n.natAbs hr
    cases hds : Decimal.naturalDigits n.natAbs with
    | nil => exact absurd hds (Decimal.naturalDigits_ne_nil _)
    | cons d ds =>
      have hd : d.isDigit = true :=
        Decimal.isDigit_of_mem_naturalDigits (n := n.natAbs) (by rw [hds]; exact List.mem_cons_self)
      rw [hds] at hread
      rw [List.map_cons, List.cons_append] at hread ⊢
      rw [readValue_digit fuel hd, hread, Numeral.whole]
      simp [hn]

theorem readValue_leaf (fuel : Nat) (l : Leaf) {rest : Symbols} (hr : Ends rest) :
    readValue (fuel + 1) (l.json.chars.map some ++ rest) = (l.node, some rest) := by
  cases l with
  | whole n =>
    simp only [Leaf.json, Leaf.node, chars]
    exact readValue_whole fuel n hr
  | text s =>
    simp only [Leaf.json, Leaf.node, chars]
    exact readValue_text fuel s rest

theorem readValue_object {fuel : Nat} {s : Symbols} {members : List (Literal × Node)}
    {ending : Ending} {rest : Option Symbols}
    (h : readMembers fuel true s = (members, ending, rest)) :
    readValue (fuel + 1) (some '\x7b' :: s) = (.map members ending, rest) := by
  rw [readValue, skipSpace_cons rfl]
  simp only [h]

/-- Members after the first are separated by commas. -/
theorem readMembers_comma (fuel : Nat) (rest : Symbols) :
    readMembers (fuel + 1) false (some ',' :: some '"' :: rest) =
      readMembers (fuel + 1) true (some '"' :: rest) := by
  simp only [readMembers, skipSpace_cons (show isSpace (some ',') = false from rfl),
    skipSpace_cons (show isSpace (some '"') = false from rfl)]
  rfl

/-- A name in quotes, a colon and a value are one member, and reading goes on behind them. -/
theorem readMembers_name {fuel : Nat} {s after rest : Symbols} {k : Literal} {n : Node}
    (hk : readLiteral s = (k, some ':' :: after)) (hc : k.ending = .closed)
    (hn : readValue fuel after = (n, some rest)) :
    readMembers (fuel + 1) true (some '"' :: s) =
      ((k, n) :: (readMembers fuel false rest).1, (readMembers fuel false rest).2) := by
  rw [readMembers, skipSpace_cons rfl]
  change (if (readLiteral s).1.ending ≠ .closed then _ else _) = _
  rw [hk]
  simp only [hc, ne_eq, not_true_eq_false, ↓reduceIte,
    skipSpace_cons (show isSpace (some ':') = false from rfl), hn]

theorem ends_memberChars (ms : List (String × Json)) (rest : Symbols) :
    Ends ((memberChars ms).map some ++ rest) := by
  intro c hc
  cases ms with
  | nil =>
    simp only [memberChars, List.map_cons, List.cons_append, List.head?_cons, Option.mem_def,
      Option.some.injEq] at hc
    exact Or.inr (Or.inr hc.symm)
  | cons m ms =>
    simp only [memberChars, List.map_cons, List.cons_append, List.head?_cons, Option.mem_def,
      Option.some.injEq] at hc
    exact Or.inl hc.symm

/-- The written form of one member, as its reader meets it. -/
theorem member_symbols (k : String) (cs : List Char) (rest : Symbols) :
    (quote k ++ ':' :: cs).map some ++ rest =
      some '"' :: ((k.toList.flatMap escapeChar).map some ++
        some '"' :: some ':' :: (cs.map some ++ rest)) := by
  simp [quote]

theorem readMembers_leaf (fuel : Nat) (k : String) (l : Leaf) {rest : Symbols} (hr : Ends rest) :
    readMembers (fuel + 2) true ((quote k ++ ':' :: l.json.chars).map some ++ rest) =
      ((Literal.written k, l.node) :: (readMembers (fuel + 1) false rest).1,
        (readMembers (fuel + 1) false rest).2) := by
  rw [member_symbols]
  exact readMembers_name (readLiteral_written k.toList _) rfl (readValue_leaf fuel l hr)

/-- The rest of an object after a member, from the separator on. -/
theorem readMembers_leaves (ms : Leaves) (fuel : Nat) (h : ms.length < fuel) (rest : Symbols) :
    readMembers fuel false
        ((memberChars (ms.map fun m => (m.1, m.2.json))).map some ++ rest) =
      (ms.nodes, .closed, some rest) := by
  induction ms generalizing fuel with
  | nil =>
    obtain ⟨fuel, rfl⟩ := Nat.exists_eq_succ_of_ne_zero (by omega : fuel ≠ 0)
    rfl
  | cons m ms ih =>
    simp only [List.length_cons] at h
    obtain ⟨fuel, rfl⟩ := Nat.exists_eq_add_of_le' (by omega : 2 ≤ fuel)
    have hends := ends_memberChars (ms.map fun m => (m.1, m.2.json)) rest
    have hleaf := readMembers_leaf fuel m.1 m.2 hends
    have hmore := ih (fuel + 1) (by omega)
    have hsplit : (memberChars ((m :: ms).map fun m => (m.1, m.2.json))).map some ++ rest =
        some ',' :: ((quote m.1 ++ ':' :: m.2.json.chars).map some ++
          ((memberChars (ms.map fun m => (m.1, m.2.json))).map some ++ rest)) := by
      simp [memberChars]
    rw [hsplit]
    rw [member_symbols] at hleaf ⊢
    rw [readMembers_comma, hleaf, hmore]
    rfl

theorem length_lt_memberChars (ms : List (String × Json)) :
    ms.length < (memberChars ms).length := by
  induction ms with
  | nil => simp [memberChars]
  | cons m ms ih =>
    simp only [memberChars, List.length_cons, List.length_append]
    omega

/-- An object of texts and numbers is read as its members, and nothing is left over. -/
theorem readSymbols_leaves (ms : Leaves) :
    readSymbols (ms.json.chars.map some) = ⟨.map ms.nodes .closed, false⟩ := by
  cases ms with
  | nil => rfl
  | cons m ms =>
    have hlen := length_lt_memberChars (ms.map fun m => (m.1, m.2.json))
    have hends := ends_memberChars (ms.map fun m => (m.1, m.2.json)) []
    have hchars : (Leaves.json (m :: ms)).chars.map some = some '\x7b' ::
        ((quote m.1 ++ ':' :: m.2.json.chars).map some ++
          ((memberChars (ms.map fun m => (m.1, m.2.json))).map some ++ [])) := by
      simp [Leaves.json, chars]
    rw [hchars, readSymbols]
    generalize hdepth : 2 * _ + 2 = depth
    have hdeep : ms.length + 5 ≤ depth := by
      simp only [List.length_cons, List.length_append, List.length_map] at hdepth hlen
      omega
    obtain ⟨fuel, rfl⟩ := Nat.exists_eq_add_of_le' (by omega : 3 ≤ depth)
    have hread : readValue (fuel + 3) (some '\x7b' ::
        ((quote m.1 ++ ':' :: m.2.json.chars).map some ++
          ((memberChars (ms.map fun m => (m.1, m.2.json))).map some ++ []))) =
        (.map (Leaves.nodes (m :: ms)) .closed, some []) := by
      apply readValue_object
      rw [readMembers_leaf fuel m.1 m.2 hends, readMembers_leaves ms (fuel + 1) (by omega) []]
      rfl
    rw [hread]
    rfl

/-- The bytes of such an object are read the same way. -/
theorem readBytes_leaves (ms : Leaves) :
    readBytes (Text.Utf8.encode ms.json.chars) = ⟨.map ms.nodes .closed, false⟩ := by
  rw [readBytes, Text.Utf8.symbols_encode, readSymbols_leaves]

/-- A decoder gets to see the members, and nothing is left over behind them. -/
theorem parseBytes_leaves {α : Type} (decoder : Decoder α) (ms : Leaves) :
    parseBytes decoder (Text.Utf8.encode ms.json.chars) = decoder (.map ms.nodes .closed) := by
  rw [parseBytes, readBytes_leaves, Document.decode]
  cases decoder (.map ms.nodes .closed) <;> rfl

namespace Record

variable {α β : Type} {given : String → Option Node} {name : String} {n : Node}

theorem build_seq (f : Record (α → β)) (x : Record α) :
    (f <*> x).build given = (do
      let g ← f.build given
      let a ← x.build given
      pure (g a)) := rfl

theorem build_map (f : α → β) (x : Record α) :
    (f <$> x).build given = (do
      let a ← x.build given
      pure (f a)) := rfl

theorem build_required {decode : Decoder α} (h : given name = some n) :
    (required name decode).build given = decode n := by
  simp only [required, h]

theorem build_defaulted {value : α} {decode : Decoder α} (h : given name = some n) :
    (defaulted name value decode).build given = decode n := by
  simp only [defaulted, h]

theorem build_nullable {decode : Decoder α} (h : given name = some n) :
    (nullable name decode).build given = option decode n := by
  simp only [nullable, h]

/-- A record is built from the members that were kept. -/
theorem decode_map {title : String} {r : Record α} {ms : List (Literal × Node)}
    (kept : List (String × Node)) (h : collect r.fields [] ms = .ok kept) :
    decode title r (.map ms .closed) = r.build fun name => kept.lookup name := by
  simp only [decode, h]
  rfl

/-- A member with a known name that has not been met is checked and kept. -/
theorem collect_known {fields : List Field} {given : List (String × Node)} {k : String} {n : Node}
    {ms : List (Literal × Node)} {f : Field}
    (hf : fields.find? (fun f => f.name == k) = some f) (hnew : given.lookup k = none) :
    collect fields given ((Literal.written k, n) :: ms) = (do
      f.check n
      collect fields ((k, n) :: given) ms) := by
  rw [collect, text_written]
  simp only [lift, Except.mapError, bind, Except.bind, hf, hnew, Option.isSome_none,
    Bool.false_eq_true, ↓reduceIte]

/-- A member with an unknown name is passed over. -/
theorem collect_unknown {fields : List Field} {given : List (String × Node)} {k : String}
    {n : Node} {ms : List (Literal × Node)} (hf : fields.find? (fun f => f.name == k) = none)
    (hn : n.passedFlaw? = none) :
    collect fields given ((Literal.written k, n) :: ms) = collect fields given ms := by
  rw [collect, text_written]
  simp only [lift, Except.mapError, bind, Except.bind, hf, hn, flawless]

end Record

end ParcelDesk.Json
