import Mathlib.Algebra.Group.Nat.Defs
import Mathlib.Data.List.Basic
import ParcelDesk.Database.OrderTable
import ParcelDesk.Text.Basic

/-!
What queries ask for, and what a server may answer. The text of a statement is read word by word,
and every question mark takes the next bound value. A query that was put together from columns,
conditions and an order is read as just these; on the rows of a table, it keeps those on which the
conditions hold, arranges them and cuts a stretch out of them.
-/

namespace ParcelDesk.Database

def spaced (c : Char) : List Char := if c = ',' then [' ', ','] else [c]

def words (text : String) : List String :=
  (Text.splitOn ' ' (text.toList.flatMap spaced)).map String.ofList

def IsPlain (text : String) : Prop := ∀ c ∈ text.toList, c ≠ ' ' ∧ c ≠ ','

instance (text : String) : Decidable (IsPlain text) :=
  List.decidableBAll (fun c => c ≠ ' ' ∧ c ≠ ',') text.toList

theorem words_of_isPlain {text : String} (h : IsPlain text) : words text = [text] := by
  have hspaced : text.toList.flatMap spaced = text.toList := by
    calc text.toList.flatMap spaced = text.toList.flatMap fun c => [c] :=
          List.flatMap_congr fun c hc => if_neg (h c hc).2
      _ = text.toList := List.flatMap_singleton' _
  have hblank : ' ' ∉ text.toList := fun hc => (h ' ' hc).1 rfl
  rw [words, hspaced, Text.splitOn_of_notMem hblank, List.map_singleton, String.ofList_toList]

theorem words_blank (s t : String) : words (s ++ " " ++ t) = words s ++ words t := by
  have hblank : " ".toList.flatMap spaced = [' '] := rfl
  rw [words, String.toList_append, String.toList_append, List.flatMap_append, List.flatMap_append,
    hblank, List.append_assoc, List.singleton_append, Text.splitOn_append, List.map_append]
  rfl

theorem words_comma (s t : String) : words (s ++ ", " ++ t) = words s ++ "," :: words t := by
  have hcomma : ", ".toList.flatMap spaced = [' ', ',', ' '] := rfl
  have hword : [' ', ',', ' '] ++ t.toList.flatMap spaced =
      ' ' :: ([','] ++ ' ' :: t.toList.flatMap spaced) := rfl
  have hsplit : Text.splitOn ' ' [','] = [[',']] := rfl
  rw [words, String.toList_append, String.toList_append, List.flatMap_append, List.flatMap_append,
    hcomma, List.append_assoc, hword, Text.splitOn_append, Text.splitOn_append, hsplit,
    List.map_append]
  rfl

/-- Texts with a word between each two of them. -/
theorem words_intercalate {separator word : String}
    (h : ∀ s t, words (s ++ separator ++ t) = words s ++ word :: words t) :
    ∀ texts : List String, texts ≠ [] →
      words (separator.intercalate texts) = [word].intercalate (texts.map words)
  | [s], _ => by simp
  | s :: t :: texts, _ => by
    rw [String.intercalate_cons_cons, h, words_intercalate h (t :: texts) (by simp)]
    simp [List.intercalate]

def readNames : List String → Option (List String × List String)
  | name :: "," :: ws => (readNames ws).map fun (names, ws) => (name :: names, ws)
  | name :: ws => some ([name], ws)
  | [] => none

def readConditions : List String → List Param → Option (List Condition × List String × List Param)
  | column :: "=" :: "?" :: "AND" :: ws, value :: ps =>
    (readConditions ws ps).map fun (cs, left) => (.equals column value :: cs, left)
  | column :: "IS" :: "NULL" :: "AND" :: ws, ps =>
    (readConditions ws ps).map fun (cs, left) => (.isNull column :: cs, left)
  | column :: "=" :: "?" :: ws, value :: ps => some ([.equals column value], ws, ps)
  | column :: "IS" :: "NULL" :: ws, ps => some ([.isNull column], ws, ps)
  | _, _ => none

def readKeys : List String → Option (List String × List String)
  | key :: "DESC" :: "," :: ws => (readKeys ws).map fun (keys, ws) => (key :: keys, ws)
  | key :: "DESC" :: ws => some ([key], ws)
  | _ => none

theorem readNames_intercalate {rest : List String} (hrest : rest.head? ≠ some ",") :
    ∀ names : List String, names ≠ [] →
      readNames ([","].intercalate (names.map fun name => [name]) ++ rest) = some (names, rest)
  | [name], _ => by
    cases rest with
    | nil => rfl
    | cons w ws =>
      have hw : w ≠ "," := by simpa using hrest
      simp [readNames, hw]
  | name :: next :: names, _ => by
    have hmore := readNames_intercalate hrest (next :: names) (by simp)
    simpa [readNames, List.intercalate] using hmore

def Condition.column : Condition → String
  | equals column _ => column
  | isNull column => column

def Condition.spelled : Condition → List String
  | equals column _ => [column, "=", "?"]
  | isNull column => [column, "IS", "NULL"]

theorem readConditions_intercalate {rest : List String} (ps : List Param)
    (hrest : rest.head? ≠ some "AND") :
    ∀ cs : List Condition, cs ≠ [] →
      readConditions (["AND"].intercalate (cs.map Condition.spelled) ++ rest)
        (cs.flatMap Condition.params ++ ps) = some (cs, rest, ps)
  | [c], _ => by
    cases rest with
    | nil => cases c <;> rfl
    | cons w ws =>
      have hw : w ≠ "AND" := by simpa using hrest
      cases c <;> simp [readConditions, Condition.spelled, Condition.params, hw]
  | c :: next :: cs, _ => by
    have hmore := readConditions_intercalate ps hrest (next :: cs) (by simp)
    cases c <;>
      simpa [readConditions, Condition.spelled, Condition.params, List.intercalate] using hmore

/-- What a query asks for: columns of a table, on which rows, arranged by which columns, and which
stretch of them. -/
structure Select where
  names : List String
  table : String
  conditions : List Condition
  keys : List String
  stretch : Option (Nat × Nat)

namespace Select

def readStretch : List String → List Param → Option (Option (Nat × Nat))
  | [], [] => some none
  | ["LIMIT", "?", "OFFSET", "?"], [.int (.ofNat limit), .int (.ofNat offset)] =>
    some (some (limit, offset))
  | _, _ => none

def readOrder : List String → Option (List String × List String)
  | "ORDER" :: "BY" :: ws => readKeys ws
  | ws => some ([], ws)

def read (ws : List String) (ps : List Param) : Option Select := do
  let "SELECT" :: ws := ws | none
  let (names, ws) ← readNames ws
  let "FROM" :: table :: "WHERE" :: ws := ws | none
  let (conditions, ws, ps) ← readConditions ws ps
  let (keys, ws) ← readOrder ws
  let stretch ← readStretch ws ps
  pure { names, table, conditions, keys, stretch }

def ofStatement? (s : Statement) : Option Select := read (words s.sql) s.params

def spelled (q : Select) : List String :=
  "SELECT" :: [","].intercalate (q.names.map fun name => [name]) ++ ["FROM", q.table] ++
    "WHERE" :: ["AND"].intercalate (q.conditions.map Condition.spelled)

theorem read_spelled {q : Select} {ws left : List String} {ps : List Param} (hnames : q.names ≠ [])
    (hconditions : q.conditions ≠ []) (hws : ws.head? ≠ some "AND")
    (horder : readOrder ws = some (q.keys, left))
    (hstretch : readStretch left ps = some q.stretch) :
    read (q.spelled ++ ws) (q.conditions.flatMap Condition.params ++ ps) = some q := by
  let rest := "FROM" :: q.table :: "WHERE" ::
    (["AND"].intercalate (q.conditions.map Condition.spelled) ++ ws)
  have hrest : rest.head? ≠ some "," := by simp [rest]
  have hname := readNames_intercalate hrest q.names hnames
  have hcondition := readConditions_intercalate ps hws q.conditions hconditions
  simp only [rest, spelled, List.append_assoc, List.cons_append, List.nil_append] at hname ⊢
  simp [read, hname, hcondition, horder, hstretch]

end Select

theorem words_append (s : String) {t u : String} (h : t = " " ++ u) :
    words (s ++ t) = words s ++ words u := by
  rw [h, ← String.append_assoc, words_blank]

theorem words_listed {names : List String} (hnames : names ≠ [])
    (hplain : ∀ name ∈ names, IsPlain name) :
    words (Table.listed names) = [","].intercalate (names.map fun name => [name]) := by
  have hwords : names.map words = names.map fun name => [name] :=
    List.map_congr_left fun name hname => words_of_isPlain (hplain name hname)
  rw [Table.listed, words_intercalate words_comma names hnames, hwords]

theorem words_condition {c : Condition} (h : IsPlain c.column) : words c.text = c.spelled := by
  cases c with
  | equals column value =>
    have hcolumn : words column = [column] := words_of_isPlain h
    have htext : " = ?" = " " ++ "= ?" := rfl
    rw [Condition.text, words_append column htext, hcolumn]
    rfl
  | isNull column =>
    have hcolumn : words column = [column] := words_of_isPlain h
    have htext : " IS NULL" = " " ++ "IS NULL" := rfl
    rw [Condition.text, words_append column htext, hcolumn]
    rfl

theorem words_clause {cs : List Condition} (text : String) (hcs : cs ≠ [])
    (hplain : ∀ c ∈ cs, IsPlain c.column) :
    words (text ++ Condition.clause cs) =
      words text ++ "WHERE" :: ["AND"].intercalate (cs.map Condition.spelled) := by
  have hand (s t : String) : words (s ++ " AND " ++ t) = words s ++ "AND" :: words t := by
    have htext : " AND " ++ t = " " ++ ("AND" ++ " " ++ t) := by
      rw [String.append_assoc, ← String.append_assoc]
      rfl
    rw [String.append_assoc, words_append s htext, words_blank]
    rfl
  have hclause : Condition.clause cs =
      " " ++ ("WHERE" ++ " " ++ " AND ".intercalate (cs.map Condition.text)) := by
    rw [Condition.clause, String.append_assoc, ← String.append_assoc]
    rfl
  have hspelled : cs.map (words ∘ Condition.text) = cs.map Condition.spelled :=
    List.map_congr_left fun c hc => words_condition (hplain c hc)
  rw [words_append text hclause, words_blank, words_intercalate hand _ (by simpa using hcs),
    List.map_map, hspelled]
  rfl

def ClockReading.parts (r : ClockReading) : List Nat :=
  [r.year, r.month, r.day, r.hour, r.minute, r.second, r.micros]

namespace Cell

def isNull : Cell → Bool
  | null => true
  | _ => false

/-- Whether a cell has a value. Nothing can be said of a missing value, and values of different
kinds are not compared. -/
def equals? (same : String → String → Bool) : Cell → Param → Option Bool
  | .int m, .int n => some (m = n)
  | .real x, .real y => some (x == y)
  | .text s, .text t => some (same s t)
  | .time r, .time a => some (r = .ofInstant a)
  | _, _ => none

/-- The cell stands below the other. A missing value stands below all others. -/
def below : Cell → Cell → Bool
  | .null, .null => false
  | .null, _ => true
  | .int m, .int n => m < n
  | .real x, .real y => x < y
  | .time r, .time s => r.parts < s.parts
  | _, _ => false

end Cell

namespace Row

def cell (row : Row) (name : String) : Cell := ((row.find? name).map Prod.snd).getD .null

def above (row other : Row) : List String → Bool
  | [] => false
  | key :: keys =>
    (other.cell key).below (row.cell key) ||
      (!(row.cell key).below (other.cell key) && above row other keys)

end Row

/-- Whether a condition holds on a row, if texts may be the same that are not spelled the same. -/
def Condition.test (same : String → String → Bool) (row : Row) : Condition → Option Bool
  | equals column value => (row.cell column).equals? same value
  | isNull column => some (row.cell column).isNull

namespace Select

def mentioned (q : Select) : List String :=
  (if q.names = ["COUNT(*)"] then [] else q.names) ++ q.conditions.map Condition.column ++ q.keys

def Fits (q : Select) (table : List Row) : Prop :=
  ∀ row ∈ table, ∀ name ∈ q.mentioned, (row.find? name).isSome

def keeps (same : String → String → Bool) (q : Select) (row : Row) : Bool :=
  q.conditions.all fun c => c.test same row == some true

def cut (q : Select) (rows : List Row) : List Row :=
  match q.stretch with
  | none => rows
  | some (limit, offset) => (rows.drop offset).take limit

/-- What a server may answer to a query on a table. Rows that are not arranged by the query come as
they like. -/
inductive Answers (same : String → String → Bool) (q : Select) (table : List Row) : Reply → Prop
  | count (h : q.names = ["COUNT(*)"]) (hkeys : q.keys = []) (hstretch : q.stretch = none)
      (hsize : table.countP (q.keeps same) < 2 ^ 63) :
      Answers same q table (.rows [⟨"COUNT(*)", .bigint⟩] [[.int (table.countP (q.keeps same))]])
  | list {arranged : List Row} (h : q.names ≠ ["COUNT(*)"])
      (hperm : arranged.Perm (table.filter (q.keeps same)))
      (harranged : arranged.Pairwise fun row other => other.above row q.keys = false) :
      Answers same q table (.rows (q.names.map fun name => ⟨name, columnType name⟩)
        ((q.cut arranged).map fun row => q.names.map row.cell))

end Select

def Statement.Answers (same : String → String → Bool) (tables : String → List Row) (s : Statement)
    (reply : Reply) : Prop :=
  ∃ q, Select.ofStatement? s = some q ∧ q.Fits (tables q.table) ∧
    q.Answers same (tables q.table) reply

end ParcelDesk.Database
