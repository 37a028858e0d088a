import Mathlib.Data.List.Lex
import Mathlib.Data.List.Perm.Basic
import ParcelDesk.Proofs.OrderRows
import ParcelDesk.Proofs.Queries
import ParcelDesk.Proofs.StoredOrders

/-!
The queries of a listing. Both keep the same rows of the table, which are the rows that the filter
admits, and what a server may answer to them is read as the page and the number of orders that the
store in memory finds among the same orders.
-/

namespace ParcelDesk.Database

namespace ClockReading

variable {r s : ClockReading} {a b : Instant}

theorem Tells.lt_of_parts_lt (hr : r.Tells a) (hs : s.Tells b) (ha : a.IsStamp) (hb : b.IsStamp)
    (h : r.parts < s.parts) : a.lt b = true := by
  obtain ⟨hrvalid, hrhour, hrminute, hrsecond, hrseconds⟩ := hr.seconds
  obtain ⟨hsvalid, hshour, hsminute, hssecond, hsseconds⟩ := hs.seconds
  have hrmicros := hr.micros
  have hsmicros := hs.micros
  have hawhole := ha.whole
  have hbwhole := hb.whole
  rw [Instant.lt_iff]
  have hdates : r.date.Before s.date ∨ r.date = s.date ∧
      (r.hour < s.hour ∨ r.hour = s.hour ∧ (r.minute < s.minute ∨ r.minute = s.minute ∧
        (r.second < s.second ∨ r.second = s.second ∧ r.micros < s.micros))) := by
    simp only [parts, List.cons_lt_cons_iff, List.not_lt_nil, and_false, or_false] at h
    simp only [Time.Date.Before, ClockReading.date, Time.Date.mk.injEq]
    omega
  rcases hdates with hbefore | ⟨hsame, hclock⟩
  · have hdays := Time.Date.toDays_lt hrvalid hsvalid hbefore
    omega
  · rw [hsame] at hrseconds
    omega

/-- Readings of stamps stand in the order of their instants. -/
theorem Tells.parts_lt_iff (hr : r.Tells a) (hs : s.Tells b) (ha : a.IsStamp) (hb : b.IsStamp) :
    r.parts < s.parts ↔ a.lt b = true := by
  refine ⟨hr.lt_of_parts_lt hs ha hb, fun h => ?_⟩
  rcases lt_trichotomy r.parts s.parts with hlt | heq | hgt
  · exact hlt
  · have hreading : r = s := by
      simp only [parts, List.cons.injEq] at heq
      cases r
      cases s
      simp_all
    have hinstant : (.ok a : Except CellFlaw Instant) = .ok b := by
      rw [← hr.instant ha, hreading, hs.instant hb]
    rw [Except.ok.inj hinstant, Instant.lt_iff] at h
    omega
  · have hother := hs.lt_of_parts_lt hr hb ha hgt
    rw [Instant.lt_iff] at h hother
    omega

end ClockReading

theorem Row.Keeps.cell {row : Row} {name : String} {p : Param} (h : row.Keeps name p) :
    (row.cell name).Keeps p := by
  obtain ⟨c, hfind, hc⟩ := h
  rwa [Row.cell, hfind]

namespace OrderTable

def counting (f : OrderFilter) : Select where
  names := ["COUNT(*)"]
  table := "orders"
  conditions := conditions f
  keys := []
  stretch := none

def paging (f : OrderFilter) : Select where
  names := columns
  table := "orders"
  conditions := conditions f
  keys := ["created_at", "id"]
  stretch := some (f.paging.limit, f.paging.offset)

theorem conditions_ne_nil (f : OrderFilter) : conditions f ≠ [] := by simp [conditions]

theorem isPlain_columns : ∀ name ∈ columns, IsPlain name := by decide +kernel

theorem names_paging_ne (f : OrderFilter) : (paging f).names ≠ ["COUNT(*)"] := by
  simp [paging, columns]

theorem column_mem_columns {f : OrderFilter} {c : Condition} (h : c ∈ conditions f) :
    c.column ∈ columns := by
  simp only [conditions, List.mem_append, List.mem_cons, Option.mem_toList,
    Option.map_eq_some_iff, List.not_mem_nil, or_false] at h
  obtain ((rfl | rfl) | ⟨_, -, rfl⟩) | ⟨_, -, rfl⟩ := h <;>
    simp [Condition.column, columns, insertColumns]

theorem isPlain_conditions (f : OrderFilter) : ∀ c ∈ conditions f, IsPlain c.column :=
  fun c hc => isPlain_columns c.column (column_mem_columns hc)

theorem ofStatement?_countQuery (f : OrderFilter) :
    Select.ofStatement? (countQuery f) = some (counting f) := by
  have hhead : words "SELECT COUNT(*) FROM orders" = ["SELECT", "COUNT(*)", "FROM", "orders"] := by
    decide +kernel
  have hsql : (countQuery f).sql =
      "SELECT COUNT(*) FROM orders" ++ Condition.clause (conditions f) := rfl
  have hspelled : words (countQuery f).sql = (counting f).spelled := by
    rw [hsql, words_clause _ (conditions_ne_nil f) (isPlain_conditions f), hhead]
    rfl
  have horder : Select.readOrder [] = some ((counting f).keys, []) := rfl
  have hstretch : Select.readStretch [] [] = some (counting f).stretch := rfl
  have hread := Select.read_spelled (by simp [counting]) (conditions_ne_nil f) (by simp) horder
    hstretch
  rw [List.append_nil, List.append_nil] at hread
  rw [Select.ofStatement?, hspelled]
  exact hread

theorem ofStatement?_pageQuery (f : OrderFilter) :
    Select.ofStatement? (pageQuery f) = some (paging f) := by
  have hselect : "SELECT " = "SELECT" ++ " " := rfl
  have hfrom : " FROM orders" = " " ++ "FROM orders" := rfl
  have horders : words "FROM orders" = ["FROM", "orders"] := by decide +kernel
  have htail : " ORDER BY created_at DESC, id DESC LIMIT ? OFFSET ?" =
      " " ++ "ORDER BY created_at DESC, id DESC LIMIT ? OFFSET ?" := rfl
  have hkeys : words "ORDER BY created_at DESC, id DESC LIMIT ? OFFSET ?" =
      ["ORDER", "BY", "created_at", "DESC", ",", "id", "DESC", "LIMIT", "?", "OFFSET", "?"] := by
    decide +kernel
  have hspelled : words (pageQuery f).sql = (paging f).spelled ++
      ["ORDER", "BY", "created_at", "DESC", ",", "id", "DESC", "LIMIT", "?", "OFFSET", "?"] := by
    rw [pageQuery, words_append _ htail,
      words_clause _ (conditions_ne_nil f) (isPlain_conditions f), words_append _ hfrom, hselect,
      words_blank, words_listed (by simp [columns]) isPlain_columns, horders, hkeys]
    rfl
  have horder : Select.readOrder
      ["ORDER", "BY", "created_at", "DESC", ",", "id", "DESC", "LIMIT", "?", "OFFSET", "?"] =
        some ((paging f).keys, ["LIMIT", "?", "OFFSET", "?"]) := rfl
  have hstretch : Select.readStretch ["LIMIT", "?", "OFFSET", "?"]
      [.int f.paging.limit, .int f.paging.offset] = some (paging f).stretch := rfl
  have hread := Select.read_spelled (by simp [paging, columns]) (conditions_ne_nil f) (by simp)
    horder hstretch
  rw [Select.ofStatement?, hspelled]
  exact hread

/-- What the queries of a listing see of a row is what the order says. -/
structure Shows (row : Row) (o : Order) : Prop where
  id : row.cell "id" = .int o.id
  userId : row.cell "user_id" = .int o.userId
  status : row.cell "order_status" = .text o.status.label
  archived : row.cell "archived" = .int (if o.archived then 1 else 0)
  createdAt : ∃ r, row.cell "created_at" = .time r ∧ r.Tells o.createdAt
  deletedAt : (row.cell "deleted_at").isNull = !o.isDeleted

/-- The value at a place of an order's values is in the column at that place. -/
theorem Stores.cell {row : Row} {o : Order} {n : Nat} {name : String} {p : Param}
    (h : Stores row o) (hname : columns[n]? = some name) (hvalue : (values o)[n]? = some p) :
    (row.cell name).Keeps p := by
  obtain ⟨hn, rfl⟩ := List.getElem?_eq_some_iff.mp hname
  obtain ⟨hn', rfl⟩ := List.getElem?_eq_some_iff.mp hvalue
  exact (h.get hn hn').cell

theorem Stores.shows {row : Row} {o : Order} (h : Stores row o) : Shows row o where
  id := (h.cell (n := 0) rfl rfl).eq_int
  userId := (h.cell (n := 24) rfl rfl).eq_int
  status := (h.cell (n := 22) rfl rfl).eq_text
  archived := (h.cell (n := 23) rfl rfl).eq_int
  createdAt := (h.cell (n := 25) rfl rfl).eq_time
  deletedAt := by
    have hcell := h.cell (n := 27) rfl rfl
    rw [Order.isDeleted]
    cases hdeleted : o.deletedAt with
    | none =>
      rw [hdeleted] at hcell
      rw [hcell.eq_null]
      rfl
    | some a =>
      rw [hdeleted] at hcell
      obtain ⟨r, hr, -⟩ := hcell.eq_time
      rw [hr]
      rfl

variable {same : String → String → Bool}

/-- The conditions of a filter hold on the rows of the orders that it admits, if labels are told
apart. -/
theorem keeps_eq_admits (hsame : ∀ s t : OrderStatus, same s.label t.label = true ↔ s = t)
    {q : Select} {f : OrderFilter} (hq : q.conditions = conditions f) {row : Row} {o : Order}
    (h : Shows row o) : q.keeps same row = f.admits o := by
  have huser : (Condition.equals "user_id" (.int f.userId)).test same row =
      some (o.userId == f.userId) := by
    rw [Condition.test, h.userId]
    rfl
  have hlive : (Condition.isNull "deleted_at").test same row = some (!o.isDeleted) := by
    rw [Condition.test, h.deletedAt]
  have hstatus (s : OrderStatus) : (Condition.equals "order_status" (.text s.label)).test same row =
      some (s == o.status) := by
    rw [Condition.test, h.status, Cell.equals?, Option.some_inj, Bool.eq_iff_iff, hsame, beq_iff_eq]
    exact eq_comm
  have harchived (b : Bool) : (Condition.equals "archived" (.bool b)).test same row =
      some (b == o.archived) := by
    rw [Condition.test, h.archived, Param.bool, Cell.equals?]
    cases b <;> cases o.archived <;> rfl
  rw [Select.keeps, hq, conditions, OrderFilter.admits]
  cases f.status <;> cases f.archived <;>
    simp [huser, hlive, hstatus, harchived, Bool.and_assoc]

/-- The query puts a row before another if the listing puts its order before the other. -/
theorem above_iff {row other : Row} {a b : Order} (hrow : Shows row a) (hother : Shows other b)
    (ha : a.createdAt.IsStamp) (hb : b.createdAt.IsStamp) :
    row.above other ["created_at", "id"] = true ↔ a.Before b := by
  obtain ⟨r, hr, hra⟩ := hrow.createdAt
  obtain ⟨s, hs, hsb⟩ := hother.createdAt
  have hlater := hsb.parts_lt_iff hra hb ha
  have hearlier := hra.parts_lt_iff hsb ha hb
  simp only [Row.above, hr, hs, hrow.id, hother.id, Cell.below, Bool.or_eq_true, Bool.and_eq_true,
    decide_eq_true_eq, Bool.not_eq_true', decide_eq_false_iff_not, hlater, hearlier, Order.Before,
    Instant.lt_iff, Instant.eq_iff, Bool.false_eq_true, and_false, or_false]
  omega

theorem above_eq_false_iff {row other : Row} {a b : Order} (hrow : Stores row a ∧ Storable a)
    (hother : Stores other b ∧ Storable b) :
    other.above row ["created_at", "id"] = false ↔ a.precedes b = true := by
  rw [← Bool.not_eq_true, above_iff hother.1.shows hrow.1.shows hother.2.createdAt hrow.2.createdAt,
    Order.Before, Order.precedes_iff, Instant.lt_iff, Instant.lt_iff, Instant.eq_iff,
    Instant.eq_iff]
  omega

def Tabulates (table : List Row) (os : List Order) : Prop :=
  List.Forall₂ (fun row o => Stores row o ∧ Storable o) table os

variable {table : List Row} {os : List Order}

theorem Tabulates.isSome_find? (h : Tabulates table os) {row : Row} (hrow : row ∈ table)
    {name : String} (hname : name ∈ columns) : (row.find? name).isSome := by
  obtain ⟨m, hm, rfl⟩ := List.getElem_of_mem hrow
  obtain ⟨n, hn, rfl⟩ := List.getElem_of_mem hname
  have hm' : m < os.length := h.length_eq ▸ hm
  have hstores : Stores table[m] os[m] := (h.get hm hm').1
  have hn' : n < (values os[m]).length := hstores.length_eq ▸ hn
  obtain ⟨c, hc, -⟩ := hstores.get hn hn'
  exact Option.isSome_iff_exists.mpr ⟨_, hc⟩

/-- The table has the columns that the queries name. -/
theorem Tabulates.fits (h : Tabulates table os) (f : OrderFilter) :
    (counting f).Fits table ∧ (paging f).Fits table := by
  have hcolumns (name : String) (hname : name ∈ (conditions f).map Condition.column) :
      name ∈ columns := by
    obtain ⟨c, hc, rfl⟩ := List.mem_map.mp hname
    exact column_mem_columns hc
  refine ⟨fun row hrow name hname => h.isSome_find? hrow (hcolumns name ?_),
    fun row hrow name hname => h.isSome_find? hrow ?_⟩
  · simpa [Select.mentioned, counting] using hname
  · rw [Select.mentioned, if_neg (names_paging_ne f), List.mem_append, List.mem_append] at hname
    rcases hname with (hname | hname) | hname
    · exact hname
    · exact hcolumns name hname
    · have hkeys : ∀ key ∈ (paging f).keys, key ∈ columns := by
        simp [paging, columns, insertColumns]
      exact hkeys name hname

theorem Tabulates.pairwise_iff (h : Tabulates table os) :
    (table.Pairwise fun row other => other.above row ["created_at", "id"] = false) ↔
      os.Pairwise fun a b => a.precedes b = true := by
  have hat (m n : Nat) (hm : m < table.length) (hn : n < table.length) (hm' : m < os.length)
      (hn' : n < os.length) :
      table[n].above table[m] ["created_at", "id"] = false ↔ os[m].precedes os[n] = true :=
    above_eq_false_iff (h.get hm hm') (h.get hn hn')
  have hlength := h.length_eq
  rw [List.pairwise_iff_getElem, List.pairwise_iff_getElem]
  constructor
  · intro harranged m n hm hn hmn
    exact (hat m n (by omega) (by omega) hm hn).mp (harranged m n _ _ hmn)
  · intro hsorted m n hm hn hmn
    exact (hat m n hm hn (by omega) (by omega)).mpr (hsorted m n _ _ hmn)

variable {s : OrderStore} {f : OrderFilter} {keep : Row → Bool}

theorem Tabulates.filter (h : Tabulates table os)
    (hkeep : ∀ row o, Stores row o → keep row = f.admits o) :
    Tabulates (table.filter keep) (os.filter f.admits) :=
  List.rel_filter (fun row o hrow => Bool.eq_iff_iff.mp (hkeep row o hrow.1)) h

/-- However the kept rows are arranged by the query, they are those of the listing. -/
theorem tabulates_listing {arranged : List Row} (hrows : Tabulates table s.rows)
    (hids : (s.rows.map Order.id).Nodup) (hkeep : ∀ row o, Stores row o → keep row = f.admits o)
    (hperm : arranged.Perm (table.filter keep))
    (harranged : arranged.Pairwise fun row other => other.above row ["created_at", "id"] = false) :
    Tabulates arranged (s.listing f) := by
  obtain ⟨os, hos, hosperm⟩ := List.perm_comp_forall₂ hperm (hrows.filter hkeep)
  have hlisting : (s.listing f).Perm (s.rows.filter f.admits) := List.mergeSort_perm _ _
  have hsame : os = s.listing f := by
    refine List.Perm.eq_of_pairwise ?_ ((Tabulates.pairwise_iff hos).mp harranged)
      (List.pairwise_mergeSort Order.precedes_trans Order.precedes_total _)
      (hosperm.trans hlisting.symm)
    intro a b ha hb hab hba
    rw [Order.precedes_iff, Instant.lt_iff, Instant.eq_iff] at hab hba
    have ha' := List.mem_of_mem_filter (hosperm.mem_iff.mp ha)
    have hb' := List.mem_of_mem_filter (hlisting.mem_iff.mp hb)
    exact List.inj_on_of_nodup_map hids ha' hb' (by omega)
  rwa [hsame] at hos

/-- The kept rows can be arranged so. -/
theorem exists_arranged (hrows : Tabulates table s.rows)
    (hkeep : ∀ row o, Stores row o → keep row = f.admits o) :
    ∃ arranged : List Row, arranged.Perm (table.filter keep) ∧
      arranged.Pairwise fun row other => other.above row ["created_at", "id"] = false := by
  have hlisting : (s.listing f).Perm (s.rows.filter f.admits) := List.mergeSort_perm _ _
  obtain ⟨arranged, hflip, hperm⟩ := List.perm_comp_forall₂ hlisting (hrows.filter hkeep).flip
  have harranged : Tabulates arranged (s.listing f) := hflip.flip
  exact ⟨arranged, hperm, harranged.pairwise_iff.mpr
    (List.pairwise_mergeSort Order.precedes_trans Order.precedes_total _)⟩

/-- The columns of a query hold the order as the whole row does. -/
theorem Stores.projected {row : Row} {o : Order} (h : Stores row o) :
    Stores (.ofCells columns (columns.map row.cell)) o := by
  have hcells : List.Forall₂ Cell.Keeps (columns.map row.cell) (values o) :=
    List.forall₂_map_left_iff.mpr (h.imp fun _ _ hc => hc.cell)
  exact Row.keeps_ofCells nodup_columns (by simp) hcells

/-- What a server counts. -/
theorem counted_eq {counted : Reply} (h : (counting f).Answers same table counted) :
    ∃ n, n = table.countP ((counting f).keeps same) ∧ n < 2 ^ 63 ∧
      counted = .rows [⟨"COUNT(*)", .bigint⟩] [[.int n]] := by
  cases h with
  | count hnames hkeys hstretch hsize => exact ⟨_, rfl, hsize, rfl⟩
  | list hnames => exact absurd rfl hnames

/-- What a server lists is read as the page of the listing. -/
theorem read_listed {listed : Reply} (hrows : Tabulates table s.rows)
    (hids : (s.rows.map Order.id).Nodup)
    (hkeep : ∀ row o, Stores row o → (paging f).keeps same row = f.admits o)
    (h : (paging f).Answers same table listed) :
    listed.rowList.mapM ofRow = .ok (f.paging.slice (s.listing f)) := by
  cases h with
  | count hnames => exact absurd hnames (names_paging_ne f)
  | @list arranged hnames hperm harranged =>
    have hlisting : Tabulates arranged (s.listing f) :=
      tabulates_listing hrows hids hkeep hperm harranged
    have hpage : Tabulates ((paging f).cut arranged) (f.paging.slice (s.listing f)) :=
      List.forall₂_take _ (List.forall₂_drop _ hlisting)
    rw [Reply.rowList, List.map_map, mapM_eq_ok_iff, List.forall₂_map_left_iff]
    exact hpage.imp fun row o ho => ofRow_of_stores ho.1.projected ho.2

/-- A conversation in which both queries are answered. -/
theorem run_find {p : Pool} {n : Nat} {listed : Reply} (hopen : p.isOpen = true) (hn : n < 2 ^ 63)
    (hcounted : p.answer 0 = .ok (.rows [⟨"COUNT(*)", .bigint⟩] [[.int n]]))
    (hlisted : p.answer 1 = .ok listed) (hread : listed.rowList.mapM ofRow = .ok os) :
    (find f).run Pool.serve p = (.ok (os, n), (p.after (countQuery f)).after (pageQuery f)) := by
  have htotal : (Row.mk [⟨"COUNT(*)", .bigint⟩] [.int n]).first Reading.int64 = .ok (n : Int) := by
    have htakes : Reading.int64.Takes .bigint (.int n) n :=
      Reading.takes_int64 rfl ⟨by omega, by omega⟩
    rw [Row.first]
    simp only [htakes _ (.int n)]
    rfl
  have hstill : (p.after (countQuery f)).isOpen = true := (Pool.isOpen_after _ _).trans hopen
  rw [find, Attempt.run_bind, Attempt.run_mapError, Talk.run_fetchOne hopen hcounted rfl]
  simp only [Except.mapError, Except.map, Attempt.run_bind, Attempt.run_ofExcept,
    Attempt.run_mapError, Attempt.run_pure, Talk.run_fetchAll hstill, Pool.answer_after, htotal,
    hlisted, hread, Int.toNat_natCast]

/-- Both queries of a listing have the same condition, with the same values bound to it, and keep
just the rows whose orders the filter admits. Whatever a server may answer to them is read as the
page and the total that the store finds, and there are such answers, unless there are too many rows
to be counted. -/
theorem listing_queries_find_the_listing
    (hsame : ∀ s t : OrderStatus, same s.label t.label = true ↔ s = t) (tables : String → List Row)
    (hrows : Tabulates (tables "orders") s.rows)
    (hids : (s.rows.map Order.id).Nodup) (hup : s.isDown = false) (f : OrderFilter) :
    (∃ clause params, countQuery f = ⟨"SELECT COUNT(*) FROM orders" ++ clause, params⟩ ∧
        pageQuery f = ⟨"SELECT " ++ Table.listed columns ++ " FROM orders" ++ clause ++
          " ORDER BY created_at DESC, id DESC LIMIT ? OFFSET ?",
          params ++ [.int f.paging.limit, .int f.paging.offset]⟩) ∧
      (∃ count page, Select.ofStatement? (countQuery f) = some count ∧
        Select.ofStatement? (pageQuery f) = some page ∧
        List.Forall₂ (fun row o => count.keeps same row = f.admits o ∧
          page.keeps same row = f.admits o) (tables "orders") s.rows) ∧
      (∀ counted listed p, (countQuery f).Answers same tables counted →
        (pageQuery f).Answers same tables listed → p.isOpen = true →
        p.answer 0 = .ok counted → p.answer 1 = .ok listed →
          (find f).run Pool.serve p = (s.find f, (p.after (countQuery f)).after (pageQuery f))) ∧
      (s.rows.length < 2 ^ 63 → ∃ counted, (countQuery f).Answers same tables counted) ∧
      ∃ listed, (pageQuery f).Answers same tables listed := by
  have hcounting (row : Row) (o : Order) (h : Stores row o) :
      (counting f).keeps same row = f.admits o := keeps_eq_admits hsame rfl h.shows
  have hpaging (row : Row) (o : Order) (h : Stores row o) :
      (paging f).keeps same row = f.admits o := keeps_eq_admits hsame rfl h.shows
  have htotal : (tables "orders").countP ((counting f).keeps same) = (s.listing f).length := by
    rw [List.countP_eq_length_filter, (hrows.filter hcounting).length_eq, OrderStore.listing,
      List.length_mergeSort]
  obtain ⟨hcountingFits, hpagingFits⟩ := hrows.fits f
  refine ⟨⟨_, _, rfl, rfl⟩, ⟨_, _, ofStatement?_countQuery f, ofStatement?_pageQuery f, ?_⟩,
    ?_, fun hlength => ⟨_, _, ofStatement?_countQuery f, hcountingFits, .count rfl rfl rfl ?_⟩, ?_⟩
  · exact hrows.imp fun row o h => ⟨hcounting row o h.1, hpaging row o h.1⟩
  · rintro counted listed p ⟨q, hq, -, hcounted⟩ ⟨q', hq', -, hlisted⟩ hopen h₀ h₁
    obtain rfl := Option.some.inj ((ofStatement?_countQuery f).symm.trans hq)
    obtain rfl := Option.some.inj ((ofStatement?_pageQuery f).symm.trans hq')
    obtain ⟨n, hn, hsize, rfl⟩ := counted_eq hcounted
    have hcount : n = (s.listing f).length := hn.trans htotal
    rw [run_find hopen hsize h₀ h₁ (read_listed hrows hids hpaging hlisted), hcount,
      OrderStore.find, if_neg (by simp [hup])]
  · calc (tables "orders").countP ((counting f).keeps same) ≤ (tables "orders").length :=
          List.countP_le_length
      _ = s.rows.length := hrows.length_eq
      _ < 2 ^ 63 := hlength
  · obtain ⟨arranged, hperm, harranged⟩ := exists_arranged hrows hpaging
    exact ⟨_, _, ofStatement?_pageQuery f, hpagingFits,
      .list (names_paging_ne f) hperm harranged⟩

def oddParcels : List Order :=
  [{ oddParcel with id := 41 }, { oddParcel with id := 42, userId := 4 }]

def oddFilter : OrderFilter := ⟨3, some .completed, some true, .first⟩

theorem odd_parcel_is_found :
    ∃ counted listed, (find oddFilter).run Pool.serve { script := [.ok counted, .ok listed] } =
      (.ok ([{ oddParcel with id := 41 }], 1),
        { sent := [countQuery oddFilter, pageQuery oddFilter] }) := by
  have hsame (s t : OrderStatus) :
      Text.sameIgnoringAsciiCase s.label t.label = true ↔ s = t := by
    cases s <;> cases t <;> decide
  have hrows : Tabulates (oddParcels.map rowOf) oddParcels :=
    .cons ⟨stores_oddParcel 41 3, { storable_oddParcel with id := by decide }⟩ <|
      .cons ⟨stores_oddParcel 42 4, { storable_oddParcel with
        id := by decide, userId := by decide }⟩ .nil
  obtain ⟨-, -, hfind, hcount, listed, hlisted⟩ :=
    listing_queries_find_the_listing (s := { rows := oddParcels }) hsame
      (fun _ => oddParcels.map rowOf) hrows (by decide) rfl oddFilter
  obtain ⟨counted, hcounted⟩ := hcount (by decide)
  have hfound : OrderStore.find { rows := oddParcels } oddFilter =
      .ok ([{ oddParcel with id := 41 }], 1) := by
    have hadmitted : oddParcels.filter oddFilter.admits = [{ oddParcel with id := 41 }] := rfl
    rw [OrderStore.find, OrderStore.listing, hadmitted, List.mergeSort_singleton]
    rfl
  have hrun := hfind counted listed { script := [.ok counted, .ok listed] } hcounted hlisted rfl rfl
    rfl
  rw [hfound] at hrun
  exact ⟨counted, listed, hrun⟩

end OrderTable

end ParcelDesk.Database
