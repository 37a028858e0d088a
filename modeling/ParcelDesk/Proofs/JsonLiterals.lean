import ParcelDesk.Json.Reader
import ParcelDesk.Json.Value
import ParcelDesk.Proofs.Decimals

/-!
String literals and whole numbers of JSON, written and read again. Written text is always well
formed: every character of a literal is read as one piece, a control character through its hex
escape, and the digits of a number are read up to the separator that follows it.
-/

namespace ParcelDesk.Json

def Piece.written (c : Char) : Piece :=
  if c.toNat < 0x20 && ['\n', '\r', '\t', '\x08', '\x0c'].all (c ≠ ·) then .unit c.toNat
  else .char c

theorem written_cases (c : Char) :
    c.toNat < 0x20 ∧ Piece.written c = .unit c.toNat ∨ Piece.written c = .char c := by
  unfold Piece.written
  split
  · rename_i h
    exact Or.inl ⟨by simp_all, rfl⟩
  · exact Or.inr rfl

def Literal.written (s : String) : Literal := ⟨s.toList.map Piece.written, .closed⟩

theorem hexValue?_digit : ∀ n, n < 16 → hexValue? (Decimal.digit n) = some n := by decide

/-- A hex escape of four digits is read as its number. -/
theorem readLiteral_hex {n : Nat} (hn : n < 65536) (rest : Symbols) :
    readLiteral (('\\' :: 'u' :: Decimal.hexDigits 4 n).map some ++ rest) =
      withPiece (.unit n) (readLiteral rest) := by
  have h1 := hexValue?_digit (n / 16 / 16 / 16 % 16) (by omega)
  have h2 := hexValue?_digit (n / 16 / 16 % 16) (by omega)
  have h3 := hexValue?_digit (n / 16 % 16) (by omega)
  have h4 := hexValue?_digit (n % 16) (by omega)
  simp only [Decimal.hexDigits, List.nil_append, List.cons_append, List.map_cons, List.map_nil,
    readLiteral, h1, h2, h3, h4]
  congr 2
  omega

theorem readLiteral_escapeChar (c : Char) (rest : Symbols) :
    readLiteral ((escapeChar c).map some ++ rest) =
      withPiece (Piece.written c) (readLiteral rest) := by
  unfold escapeChar
  split
  · subst c; rfl
  split
  · subst c; rfl
  split
  · subst c; rfl
  split
  · subst c; rfl
  split
  · subst c; rfl
  split
  · subst c; rfl
  split
  · subst c; rfl
  split
  · rename_i hn hr ht hb hf hc
    have hw : Piece.written c = .unit c.toNat := by simp [Piece.written, hn, hr, ht, hb, hf, hc]
    rw [hw]
    exact readLiteral_hex (by omega) rest
  · rename_i hq hs hn hr ht hb hf hc
    have hw : Piece.written c = .char c := by simp [Piece.written, hc]
    rw [hw]
    simp only [List.map_cons, List.map_nil, List.cons_append, List.nil_append]
    rw [readLiteral.eq_def]
    split
    case h_9 heq =>
      obtain ⟨hsame, hrest⟩ := List.cons.inj heq
      rw [← Option.some.inj hsame, ← hrest, if_neg hc]
    all_goals simp_all

theorem readLiteral_written (cs : List Char) (rest : Symbols) :
    readLiteral ((cs.flatMap escapeChar).map some ++ some '"' :: rest) =
      (⟨cs.map Piece.written, .closed⟩, rest) := by
  induction cs with
  | nil => rfl
  | cons c cs ih =>
    rw [List.flatMap_cons, List.map_append, List.append_assoc, readLiteral_escapeChar, ih]
    rfl

theorem piecesText_written (cs : List Char) :
    piecesText .closed (cs.map Piece.written) = .ok (cs.map some) := by
  induction cs with
  | nil => rfl
  | cons c cs ih =>
    rw [List.map_cons]
    rcases written_cases c with ⟨hc, hw⟩ | hw
    · have ht : isTrailing c.toNat = false := by simp [isTrailing]; omega
      have hl : isLeading c.toNat = false := by simp [isLeading]; omega
      rw [hw, piecesText.eq_def]
      simp only [ht, hl, Bool.false_eq_true, ↓reduceIte, ih, Except.map, Char.ofNat_toNat,
        List.map_cons]
    · rw [hw]
      simp only [piecesText, ih, Except.map, List.map_cons]

/-- A text is read back from its literal. -/
theorem text_written (s : String) : (Literal.written s).text = .ok s := by
  have hm : (s.toList.map some).mapM id = some s.toList := by
    induction s.toList with
    | nil => rfl
    | cons c cs ih => simp [List.mapM_cons, ih]
  simp only [Literal.text, Literal.written, piecesText_written, bind, Except.bind, hm,
    String.ofList_toList]

/-- Where a written value ends: at the end of the text or at a separator of JSON. -/
def Ends (rest : Symbols) : Prop :=
  ∀ c ∈ rest.head?, c = some ',' ∨ c = some ']' ∨ c = some '\x7d'

theorem spanDigits_append {ds : List Char} {rest : Symbols}
    (hd : ∀ c ∈ ds, c.isDigit = true) (hr : Ends rest) :
    spanDigits (ds.map some ++ rest) = (ds, rest) := by
  induction ds with
  | nil =>
    match rest, hr with
    | [], _ => rfl
    | c :: rest, hr =>
      rcases hr c rfl with rfl | rfl | rfl <;> rfl
  | cons d ds ih =>
    have h1 := hd d List.mem_cons_self
    have h2 := ih fun c hc => hd c (List.mem_cons_of_mem d hc)
    simp only [List.map_cons, List.cons_append, spanDigits, h1, ↓reduceIte, h2]

theorem digitsValue_naturalDigits (n : Nat) : digitsValue (Decimal.naturalDigits n) = n := by
  have h := Decimal.ofDigitChars_naturalDigits n
  rw [Nat.ofDigitChars_eq_foldl] at h
  simpa only [digitsValue, digitValue, Nat.mul_comm] using h

def Numeral.whole (n : Int) : Numeral := ⟨n < 0, n.natAbs, 0, true⟩

theorem Ends.not_dot {rest more : Symbols} (hr : Ends rest) : rest ≠ some '.' :: more := by
  intro h
  subst rest
  have := hr _ rfl
  simp at this

/-- A separator is no exponent. -/
theorem readExponent_of_ends (negative : Bool) (mantissa : Nat) (scale : Int) (plain : Bool)
    {rest : Symbols} (hr : Ends rest) :
    readExponent negative mantissa scale plain rest =
      (.number ⟨negative, mantissa, scale + 0, plain⟩, some rest) := by
  match rest, hr with
  | [], _ => rfl
  | c :: rest, hr =>
    rcases hr c rfl with rfl | rfl | rfl <;> rfl

theorem readNumber_naturalDigits (negative : Bool) (n : Nat) {rest : Symbols} (hr : Ends rest) :
    readNumber negative ((Decimal.naturalDigits n).map some ++ rest) =
      (.number ⟨negative, n, 0, true⟩, some rest) := by
  have hspan := spanDigits_append
    (fun c hc => Decimal.isDigit_of_mem_naturalDigits (n := n) hc) hr
  unfold readNumber
  rw [hspan]
  split
  · rename_i heq
    exact absurd (Prod.mk.inj heq).1 (Decimal.naturalDigits_ne_nil n)
  · rename_i heq
    have hnil := (Decimal.naturalDigits_zero_head (Prod.mk.inj heq).1).2
    simp at hnil
  · rename_i heq
    exact absurd (Prod.mk.inj heq).2 hr.not_dot
  · rename_i heq
    obtain ⟨rfl, rfl⟩ := Prod.mk.inj heq
    rw [readExponent_of_ends _ _ _ _ hr, digitsValue_naturalDigits]
    rfl

end ParcelDesk.Json
