import Mathlib.Algebra.Group.Nat.Defs
import Mathlib.Data.List.Basic
import ParcelDesk.Order.Consignment
import ParcelDesk.Proofs.CivilDates
import ParcelDesk.Proofs.Decimals

/-!
Consignment ids as they come from a stream of random words. A word picks one symbol of the alphabet
or is thrown away, and the suffix of an id is what the first six words pick that are not. Before it
stand the lead and six digits, which tell the day up to its century. So two ids with one lead are
the same only if they have the same digits and the same suffix, and ids of different days within a
century are never the same.
-/

namespace ParcelDesk

namespace Consignment

open Time (Date)

/-! ### Symbols -/

def symbols (words : List UInt64) : List Char := words.filterMap symbol?

theorem index_lt (w : UInt64) : 36 * w.toNat / 2 ^ 64 < alphabet.length := by
  have hlt := w.toNat_lt
  have hlength : alphabet.length = 36 := by decide
  omega

/-- A word is thrown away for its low part alone: its high part always leads to a symbol. -/
theorem symbol?_eq (w : UInt64) : symbol? w =
    if 36 * w.toNat % 2 ^ 64 < 36 * 2 ^ 58 then
      some (alphabet.get ⟨36 * w.toNat / 2 ^ 64, index_lt w⟩)
    else none := by
  rw [List.get_eq_getElem, ← List.getElem?_eq_getElem (index_lt w)]
  rfl

theorem mem_of_symbol? {w : UInt64} {c : Char} (h : symbol? w = some c) : c ∈ alphabet := by
  rw [symbol?_eq] at h
  split at h
  · exact Option.some.inj h ▸ List.get_mem _ _
  · cases h

theorem mem_of_mem_symbols {words : List UInt64} {c : Char} (h : c ∈ symbols words) :
    c ∈ alphabet := by
  obtain ⟨w, -, hw⟩ := List.mem_filterMap.mp h
  exact mem_of_symbol? hw

/-- The symbols that are drawn are the first that the words pick, if they pick as many. -/
theorem map_draw (n : Nat) (words : List UInt64) : (draw n words).map Prod.fst =
    if n ≤ (symbols words).length then some ((symbols words).take n) else none := by
  fun_induction draw n words with
  | case1 words => rfl
  | case2 n => rfl
  | case3 n w words hthrown ih =>
    have hsymbols : symbols (w :: words) = symbols words := List.filterMap_cons_none hthrown
    rw [hsymbols]
    exact ih
  | case4 n w words c hpicked ih =>
    have hsymbols : symbols (w :: words) = c :: symbols words := List.filterMap_cons_some hpicked
    rw [hsymbols, List.length_cons, List.take_succ_cons, Option.map_map]
    change (draw n words).map ((c :: ·) ∘ Prod.fst) = _
    rw [← Option.map_map, ih]
    by_cases henough : n ≤ (symbols words).length
    · rw [if_pos henough, if_pos (Nat.succ_le_succ henough), Option.map_some]
    · rw [if_neg henough, if_neg fun h => henough (Nat.le_of_succ_le_succ h), Option.map_none]

/-! ### Streams of words -/

def firstWords (words : Nat → UInt64) (n : Nat) : List UInt64 := (List.range n).map words

def Offers (words : Nat → UInt64) (count : Nat) : Prop :=
  ∃ n, count ≤ (symbols (firstWords words n)).length

/-- The suffix that is drawn from a stream, however many words that takes. -/
def Draws (words : Nat → UInt64) (suffix : List Char) : Prop :=
  ∃ n, (draw suffixLength (firstWords words n)).map Prod.fst = some suffix

def Generates (lead : String) (now : Instant) (words : Nat → UInt64) (id : String) : Prop :=
  ∃ n, (generate lead now (firstWords words n)).map Prod.fst = some id

theorem symbols_prefix (words : Nat → UInt64) {m n : Nat} (h : m ≤ n) :
    symbols (firstWords words m) <+: symbols (firstWords words n) := by
  have hrange : List.range m <+: List.range n := by
    obtain ⟨k, rfl⟩ := Nat.exists_eq_add_of_le h
    rw [List.range_add]
    exact List.prefix_append _ _
  exact (hrange.map words).filterMap symbol?

variable {words : Nat → UInt64} {suffix : List Char}

theorem draws_iff : Draws words suffix ↔ ∃ n,
    suffixLength ≤ (symbols (firstWords words n)).length ∧
      (symbols (firstWords words n)).take suffixLength = suffix := by
  refine exists_congr fun n => ?_
  rw [map_draw]
  split
  · rename_i h
    rw [Option.some_inj]
    exact (and_iff_right h).symm
  · rename_i h
    exact iff_of_false nofun fun hboth => h hboth.1

theorem Draws.length (h : Draws words suffix) : suffix.length = suffixLength := by
  obtain ⟨n, henough, rfl⟩ := draws_iff.mp h
  rw [List.length_take, Nat.min_eq_left henough]

theorem Draws.mem_alphabet (h : Draws words suffix) {c : Char} (hc : c ∈ suffix) :
    c ∈ alphabet := by
  obtain ⟨n, -, rfl⟩ := draws_iff.mp h
  exact mem_of_mem_symbols (List.mem_of_mem_take hc)

/-- Words that were not needed change nothing. -/
theorem Draws.take_eq (h : Draws words suffix) {n : Nat}
    (hn : suffixLength ≤ (symbols (firstWords words n)).length) :
    (symbols (firstWords words n)).take suffixLength = suffix := by
  obtain ⟨m, hm, rfl⟩ := draws_iff.mp h
  rcases Nat.le_total m n with hle | hle
  · obtain ⟨rest, hrest⟩ := symbols_prefix words hle
    rw [← hrest, List.take_append_of_le_length hm]
  · obtain ⟨rest, hrest⟩ := symbols_prefix words hle
    rw [← hrest, List.take_append_of_le_length hn]

theorem Draws.unique {suffix' : List Char} (h : Draws words suffix) (h' : Draws words suffix') :
    suffix = suffix' := by
  obtain ⟨n, hn, heq⟩ := draws_iff.mp h
  rw [← heq, h'.take_eq hn]

theorem exists_draws_iff : (∃ suffix, Draws words suffix) ↔ Offers words suffixLength := by
  constructor
  · rintro ⟨suffix, h⟩
    obtain ⟨n, hn, -⟩ := draws_iff.mp h
    exact ⟨n, hn⟩
  · rintro ⟨n, hn⟩
    exact ⟨_, draws_iff.mpr ⟨n, hn, rfl⟩⟩

theorem generates_iff {lead : String} {now : Instant} {id : String} :
    Generates lead now words id ↔ ∃ suffix, Draws words suffix ∧ idOf lead now suffix = id := by
  have hmap (n : Nat) : (generate lead now (firstWords words n)).map Prod.fst =
      ((draw suffixLength (firstWords words n)).map Prod.fst).map (idOf lead now) := by
    rw [generate, Option.map_map, Option.map_map]
    rfl
  simp only [Generates, hmap, Option.map_eq_some_iff, Draws]
  exact ⟨fun ⟨n, suffix, hdraw, hid⟩ => ⟨suffix, ⟨n, hdraw⟩, hid⟩,
    fun ⟨suffix, ⟨n, hdraw⟩, hid⟩ => ⟨n, suffix, hdraw, hid⟩⟩

/-! ### Digits of a day -/

/-- Six digits that tell a date up to its century. -/
structure Tells (digits : List Char) (d : Date) : Prop where
  length : digits.length = 6
  isDigit : ∀ c ∈ digits, c.isDigit = true
  year : (Nat.ofDigitChars 10 (digits.take 2) 0 : Int) = d.year % 100
  month : Nat.ofDigitChars 10 ((digits.drop 2).take 2) 0 = d.month
  day : Nat.ofDigitChars 10 (digits.drop 4) 0 = d.day

theorem daysInMonth_le (year : Int) (month : Nat) : Time.daysInMonth year month ≤ 31 := by
  unfold Time.daysInMonth
  split
  · split <;> omega
  · split <;> omega

/-- Three pairs of digits are told apart by their places. -/
theorem of_pairs {xs ys : List Char} (hx : xs.length = 2) (hy : ys.length = 2) (zs : List Char) :
    (xs ++ ys ++ zs).take 2 = xs ∧ ((xs ++ ys ++ zs).drop 2).take 2 = ys ∧
      (xs ++ ys ++ zs).drop 4 = zs := by
  obtain ⟨a, b, rfl⟩ := List.length_eq_two.mp hx
  obtain ⟨c, d, rfl⟩ := List.length_eq_two.mp hy
  exact ⟨rfl, rfl, rfl⟩

theorem length_two {n : Nat} (h : n < 100) : (Instant.two n).length = 2 :=
  Decimal.length_paddedDigits (by decide) h

theorem tells_dayText (now : Instant) : Tells (dayText now) now.date := by
  have hvalid := Date.valid_ofDays (now.seconds / 86400)
  obtain ⟨-, hmonths, -, hdays⟩ := (Date.valid_iff now.date).mp hvalid
  have hlongest := daysInMonth_le now.date.year now.date.month
  have hyear := length_two (n := (now.date.year % 100).toNat) (by omega)
  have hmonth := length_two (n := now.date.month) (by omega)
  have hday := length_two (n := now.date.day) (by omega)
  obtain ⟨hfirst, hsecond, hthird⟩ := of_pairs hyear hmonth (Instant.two now.date.day)
  constructor
  case length => simp only [dayText, List.length_append, hyear, hmonth, hday]
  case isDigit =>
    intro c hc
    simp only [dayText, List.mem_append] at hc
    rcases hc with (hc | hc) | hc <;> exact Decimal.isDigit_of_mem_paddedDigits hc
  case year =>
    rw [dayText, hfirst, Instant.two, Decimal.ofDigitChars_paddedDigits]
    omega
  case month => rw [dayText, hsecond, Instant.two, Decimal.ofDigitChars_paddedDigits]
  case day => rw [dayText, hthird, Instant.two, Decimal.ofDigitChars_paddedDigits]

theorem Tells.agree {digits : List Char} {d e : Date} (hd : Tells digits d) (he : Tells digits e) :
    d.year % 100 = e.year % 100 ∧ d.month = e.month ∧ d.day = e.day :=
  ⟨hd.year.symm.trans he.year, hd.month.symm.trans he.month, hd.day.symm.trans he.day⟩

/-- Within a century, the digits of a date tell all of it. -/
theorem Tells.date_eq {digits : List Char} {d e : Date} (hd : Tells digits d) (he : Tells digits e)
    (hcentury : d.year / 100 = e.year / 100) : d = e := by
  obtain ⟨hyear, hmonth, hday⟩ := hd.agree he
  have hyears : d.year = e.year := by
    rw [← Int.mul_ediv_add_emod d.year 100, hcentury, hyear, Int.mul_ediv_add_emod]
  cases d
  cases e
  cases hyears
  cases hmonth
  cases hday
  rfl

/-! ### Ids -/

structure MadeOf (id lead : String) (digits suffix : List Char) : Prop where
  eq : id.toList = lead.toList ++ digits ++ suffix
  length : suffix.length = 6
  symbols : ∀ c ∈ suffix, c.isUpper = true ∨ c.isDigit = true

theorem isUpper_or_isDigit_of_mem {c : Char} (hc : c ∈ alphabet) :
    c.isUpper = true ∨ c.isDigit = true := by
  have hall : (alphabet.all fun c => c.isUpper || c.isDigit) = true := by decide
  rw [← Bool.or_eq_true]
  exact List.all_eq_true.mp hall c hc

theorem Draws.madeOf_idOf (h : Draws words suffix) (lead : String) (now : Instant) :
    MadeOf (idOf lead now suffix) lead (dayText now) suffix := by
  refine ⟨?_, h.length, fun c hc => isUpper_or_isDigit_of_mem (h.mem_alphabet hc)⟩
  rw [idOf, String.toList_append, String.toList_ofList, List.append_assoc]

/-- The same id has the same digits and the same suffix. -/
theorem eq_of_idOf {words' : Nat → UInt64} {suffix' : List Char} (h : Draws words suffix)
    (h' : Draws words' suffix') {lead : String} {now now' : Instant}
    (hid : idOf lead now suffix = idOf lead now' suffix') :
    dayText now = dayText now' ∧ suffix = suffix' := by
  have heq := congrArg String.toList hid
  rw [(h.madeOf_idOf lead now).eq, (h'.madeOf_idOf lead now').eq, List.append_assoc,
    List.append_assoc] at heq
  have hlength : (dayText now).length = (dayText now').length :=
    (tells_dayText now).length.trans (tells_dayText now').length.symm
  exact List.append_inj (List.append_cancel_left heq) hlength

variable {lead id : String} {now now' : Instant} {words' : Nat → UInt64}

theorem exists_generates_iff (lead : String) (now : Instant) (words : Nat → UInt64) :
    (∃ id, Generates lead now words id) ↔ Offers words suffixLength := by
  rw [← exists_draws_iff]
  constructor
  · rintro ⟨id, h⟩
    obtain ⟨suffix, hdraws, -⟩ := generates_iff.mp h
    exact ⟨suffix, hdraws⟩
  · rintro ⟨suffix, hdraws⟩
    exact ⟨_, generates_iff.mpr ⟨suffix, hdraws, rfl⟩⟩

theorem Generates.unique {id' : String} (h : Generates lead now words id)
    (h' : Generates lead now words id') : id = id' := by
  obtain ⟨suffix, hdraws, rfl⟩ := generates_iff.mp h
  obtain ⟨suffix', hdraws', rfl⟩ := generates_iff.mp h'
  rw [hdraws.unique hdraws']

/-- An id that comes about twice has the same suffix and the same digits both times. -/
theorem Generates.agree (h : Generates lead now words id) (h' : Generates lead now' words' id) :
    ∃ digits suffix, (Draws words suffix ∧ Draws words' suffix) ∧
      Tells digits now.date ∧ Tells digits now'.date := by
  obtain ⟨suffix, hdraws, rfl⟩ := generates_iff.mp h
  obtain ⟨suffix', hdraws', hid⟩ := generates_iff.mp h'
  obtain ⟨hdigits, rfl⟩ := eq_of_idOf hdraws' hdraws hid
  exact ⟨dayText now, suffix', ⟨hdraws, hdraws'⟩, tells_dayText now, hdigits ▸ tells_dayText now'⟩

/-- Within a century, an id comes about on one day only. -/
theorem Generates.day_eq (h : Generates lead now words id) (h' : Generates lead now' words' id)
    (hcentury : now.date.year / 100 = now'.date.year / 100) :
    now.seconds / 86400 = now'.seconds / 86400 := by
  obtain ⟨digits, suffix, -, htells, htells'⟩ := h.agree h'
  have hdate : now.date = now'.date := htells.date_eq htells' hcentury
  rw [← Date.toDays_ofDays (now.seconds / 86400), ← Date.toDays_ofDays (now'.seconds / 86400)]
  exact congrArg Date.toDays hdate

/-- How an id comes about at any time from any stream of words. It comes about exactly if six of the
words are not thrown away, and then there is one such id: the lead, six digits that tell the day, and
the six symbols drawn. No word leads beyond the alphabet. The same id means the same digits and the
same symbols, so that ids with the same lead differ between the days of a century. -/
theorem ids_tell_their_day (lead : String) :
    (∀ w : UInt64, ∃ h : 36 * w.toNat / 2 ^ 64 < alphabet.length, symbol? w =
      if 36 * w.toNat % 2 ^ 64 < 36 * 2 ^ 58 then some (alphabet.get ⟨_, h⟩) else none) ∧
    (∀ (now : Instant) (words : Nat → UInt64),
      ((∃ id, Generates lead now words id) ↔ Offers words 6) ∧
      (∀ id id', Generates lead now words id → Generates lead now words id' → id = id') ∧
      ∀ id, Generates lead now words id → ∃ digits suffix, Draws words suffix ∧
        MadeOf id lead digits suffix ∧ Tells digits now.date) ∧
    (∀ now : Instant, now.date.valid = true ∧ now.date.toDays = now.seconds / 86400) ∧
    (∀ (now now' : Instant) (words words' : Nat → UInt64) (suffix suffix' : List Char) (id : String),
      Draws words suffix → Draws words' suffix' →
      Generates lead now words id → Generates lead now' words' id →
      now.date.year % 100 = now'.date.year % 100 ∧ now.date.month = now'.date.month ∧
        now.date.day = now'.date.day ∧ suffix = suffix') ∧
    ∀ (now now' : Instant) (words words' : Nat → UInt64) (id id' : String),
      now.date.year / 100 = now'.date.year / 100 → now.seconds / 86400 ≠ now'.seconds / 86400 →
      Generates lead now words id → Generates lead now' words' id' → id ≠ id' := by
  refine ⟨fun w => ⟨index_lt w, symbol?_eq w⟩,
    fun now words => ⟨exists_generates_iff lead now words, fun _ _ => Generates.unique, ?made⟩,
    fun now => ⟨Date.valid_ofDays _, Date.toDays_ofDays _⟩, ?same, ?days⟩
  case made =>
    intro id h
    obtain ⟨suffix, hdraws, rfl⟩ := generates_iff.mp h
    exact ⟨_, suffix, hdraws, hdraws.madeOf_idOf lead now, tells_dayText now⟩
  case same =>
    intro now now' words words' suffix suffix' id hsuffix hsuffix' h h'
    obtain ⟨digits, drawn, ⟨hdraws, hdraws'⟩, htells, htells'⟩ := h.agree h'
    obtain ⟨hyear, hmonth, hday⟩ := htells.agree htells'
    exact ⟨hyear, hmonth, hday, (hsuffix.unique hdraws).trans (hdraws'.unique hsuffix')⟩
  case days =>
    rintro now now' words words' id id' hcentury hdays h h' rfl
    exact hdays (h.day_eq h' hcentury)

def wastefulWords (n : Nat) : UInt64 := if n % 2 = 0 then 0x400000000000000 else 0

/-- The ids of the last day of a year and the first of the next one differ; that of the same day ten
thousand years later does not. -/
theorem new_years_ids_differ :
    (Generates "CN" ⟨1704067199, 0⟩ wastefulWords "CN231231AAAAAA" ∧
      Generates "CN" ⟨1704067200, 0⟩ wastefulWords "CN240101AAAAAA" ∧
      "CN231231AAAAAA" ≠ "CN240101AAAAAA") ∧
    (∃ digits suffix, Draws wastefulWords suffix ∧
      MadeOf "CN231231AAAAAA" "CN" digits suffix ∧
      Tells digits (Instant.mk 1704067199 0).date) ∧
    (Generates "CN" ⟨317273587200, 0⟩ wastefulWords "CN240101AAAAAA" ∧
      (Instant.mk 1704067200 0).date.year % 100 = (Instant.mk 317273587200 0).date.year % 100) := by
  obtain ⟨-, hcomes, -, hsame, hdiffer⟩ := ids_tell_their_day "CN"
  have hdraws : Draws wastefulWords "AAAAAA".toList := ⟨12, by decide⟩
  have hlast : Generates "CN" ⟨1704067199, 0⟩ wastefulWords "CN231231AAAAAA" := ⟨12, by decide⟩
  have hfirst : Generates "CN" ⟨1704067200, 0⟩ wastefulWords "CN240101AAAAAA" := ⟨12, by decide⟩
  have hlater : Generates "CN" ⟨317273587200, 0⟩ wastefulWords "CN240101AAAAAA" :=
    ⟨12, by decide⟩
  exact ⟨⟨hlast, hfirst, hdiffer _ _ _ _ _ _ (by decide) (by decide) hlast hfirst⟩,
    (hcomes _ _).2.2 _ hlast, hlater, (hsame _ _ _ _ _ _ _ hdraws hdraws hfirst hlater).1⟩

end Consignment

end ParcelDesk
