import ParcelDesk.Proofs.AcceptedTokens
import ParcelDesk.Proofs.JsonMembers
import ParcelDesk.Proofs.OrderHistory
import ParcelDesk.Proofs.Requests

/-!
On whose terms orders are taken in. Orders come over the counter and over the web, but the fees, the
discounts, the status and the owner of a row are never the caller's to choose: they follow from the
shipment, from the settings and from the token. Members of a body that a draft does not have are
without any effect.
-/

namespace ParcelDesk

def Draft.memberNames : List String :=
  ["store_id", "merchant_order_id", "recipient_name", "recipient_phone", "recipient_address",
    "recipient_city", "recipient_zone", "recipient_area", "delivery_type", "item_type",
    "special_instruction", "item_description", "item_quantity", "item_weight",
    "amount_to_collect"]

open Json (Node Literal Ending member? readBytes) in
/-- Objects that agree in the members of a draft are not read as different drafts. -/
theorem Draft.eq_of_decode {ms ns : List (Literal × Node)} {e f : Ending} {a b : Draft}
    (hagree : ∀ name ∈ memberNames, member? ms name = member? ns name)
    (ha : decode (.map ms e) = .ok a) (hb : decode (.map ns f) = .ok b) : a = b := by
  unfold decode decodeWith at ha hb
  refine Json.Record.eq_of_decode_map ?_ ha hb
  intro name hname
  exact hagree name hname

/-- The row is on the service's own terms: its fees are those of its shipment, nothing is taken off,
and nobody has touched it. -/
structure Order.OnTerms (homeCity : Int) (o : Order) : Prop where
  fees : o.fees = Fee.fees (decide (o.shipment.recipient.city = homeCity)) o.shipment.weight
    o.shipment.amount
  promoDiscount : o.promoDiscount = 0
  discount : o.discount = 0
  status : o.status = .pending
  label : o.status.label = "Pending"
  archived : o.archived = false

theorem Order.Ages.onTerms {o v : Order} (h : o.Ages v) {homeCity : Int}
    (hterms : o.OnTerms homeCity) : v.OnTerms homeCity := by
  rw [h.same]
  exact ⟨hterms.fees, hterms.promoDiscount, hterms.discount, hterms.status, hterms.label,
    hterms.archived⟩

def Order.confirmation (o : Order) : Json :=
  .obj [("consignment_id", .str o.consignmentId),
    ("merchant_order_id", match o.shipment.merchantOrderId with
      | some merchantOrderId => .str merchantOrderId
      | none => .null),
    ("order_status", .str o.status.label), ("delivery_fee", .float o.fees.delivery)]

theorem Order.toJson_receipt (o : Order) : o.receipt.toJson = o.confirmation := by
  unfold Receipt.toJson receipt confirmation
  cases o.shipment.merchantOrderId <;> rfl

def OrderStore.Stays (s t : OrderStore) : Prop := s.Ages t ∧ t.rows.length = s.rows.length

theorem OrderStore.stays_of_rows_eq {s t : OrderStore} (h : t.rows = s.rows) : s.Stays t :=
  ⟨RowsAge.of_eq h, by rw [h]⟩

namespace Desk

def World.rowFor (s : OrderSettings) (d : Draft) (userId : Int) (draw : Nat) (w : World) : Order :=
  { Order.ofDraft d s.homeCity userId
      (Consignment.idOf s.lead w.clock (w.chance.suffix draw)) w.clock with
    id := w.orders.lastId + 1 }

theorem onTerms_rowFor (s : OrderSettings) (d : Draft) (userId : Int) (draw : Nat) (w : World) :
    (w.rowFor s d userId draw).OnTerms s.homeCity := ⟨rfl, rfl, rfl, rfl, rfl, rfl⟩

/-- A draft that is taken in becomes one row, and the receipt is about this row. -/
theorem rows_createOrder (s : OrderSettings) (d : Draft) (userId : Int) (w : World) :
    (∃ e, w.answer (createOrder s d userId) = .error e ∧
        (w.after (createOrder s d userId)).orders.rows = w.orders.rows) ∨
      ∃ draw, w.answer (createOrder s d userId) = .ok (w.rowFor s d userId draw).receipt ∧
        (w.after (createOrder s d userId)).orders.rows =
          w.orders.rows ++ [w.rowFor s d userId draw] := by
  have htakes := takes_createOrder s d userId w
  unfold World.answer World.after
  generalize w.perform (createOrder s d userId) = r at htakes
  cases htakes with
  | refused e suffixes collisions => exact .inl ⟨e, rfl, rfl⟩
  | taken draw suffixes collisions hdrawn hvalid hup hfree =>
    subst hdrawn
    exact .inr ⟨draw, rfl, rfl⟩

theorem stays_cancelOrder (consignmentId : String) (userId : Int) (w : World) :
    w.orders.Stays (w.after (cancelOrder consignmentId userId)).orders := by
  obtain ⟨-, hafter⟩ | ⟨-, hafter⟩ := after_cancelOrder_cases consignmentId userId w
  · rw [hafter]
    exact OrderStore.stays_of_rows_eq rfl
  · rw [hafter]
    exact ⟨w.orders.ages_map_deletedFor w.clock consignmentId userId, List.length_map _⟩

end Desk

namespace Web

open Desk (World)

structure Creates (s : Settings) (w : World) (q : Request) (c : Claims) (d : Draft)
    (draw : Nat) : Prop where
  admits : Admits s w q c
  draft : q.read Draft.decode = .ok d
  rows : (exchange s w q).2.orders.rows = w.orders.rows ++ [w.rowFor s.orders d c.userId draw]
  status : (exchange s w q).1.status = 201
  data : (exchange s w q).1.data? = some (w.rowFor s.orders d c.userId draw).confirmation

/-- A place behind the gate either leaves the rows where they are, or takes in a draft. -/
theorem orders_inside (s : Settings) (q : Request) (userId : Int) (place : Inside) (w : World) :
    (((inside s q userId place).run World.serve w).1.status ≠ 201 ∧
        w.orders.Stays ((inside s q userId place).run World.serve w).2.orders) ∨
      ∃ d draw, q.read Draft.decode = .ok d ∧
        ((inside s q userId place).run World.serve w).1 =
          .success 201 "Order Created Successfully"
            (w.rowFor s.orders d userId draw).confirmation ∧
        ((inside s q userId place).run World.serve w).2.orders.rows =
          w.orders.rows ++ [w.rowFor s.orders d userId draw] := by
  have hdoes := does_inside s q userId place w
  generalize (inside s q userId place).run World.serve w = result at hdoes ⊢
  cases hdoes with
  | aside hplain => exact .inl ⟨hplain.status, OrderStore.stays_of_rows_eq rfl⟩
  | logsOut hplain =>
    exact .inl ⟨hplain.status, OrderStore.stays_of_rows_eq (by rw [Desk.orders_after_logout])⟩
  | cancels consignmentId hplain =>
    exact .inl ⟨hplain.status, Desk.stays_cancelOrder consignmentId userId w⟩
  | lists r =>
    left
    rw [Desk.after_listOrders]
    refine ⟨?_, OrderStore.stays_of_rows_eq rfl⟩
    cases w.answer (Desk.listOrders s.orders userId r) with
    | ok p => simp [outcome, Response.success, Response.ofJson]
    | error f => exact (isPlain_ofError (le_status_ofFailure f)).status
  | orders d hread =>
    obtain ⟨f, hanswer, hrows⟩ | ⟨draw, hanswer, hrows⟩ :=
      Desk.rows_createOrder s.orders d userId w
    · left
      rw [hanswer]
      exact ⟨(isPlain_ofError (le_status_ofFailure f)).status, OrderStore.stays_of_rows_eq hrows⟩
    · right
      rw [hanswer]
      refine ⟨d, draw, hread, ?_, hrows⟩
      rw [← Order.toJson_receipt]
      rfl

/-- A request either leaves the rows where they are, or takes in a draft and says so. -/
theorem orders_exchange (s : Settings) (w : World) (q : Request) :
    ((exchange s w q).1.status ≠ 201 ∧ w.orders.Stays (exchange s w q).2.orders) ∨
      ∃ c d draw, Creates s w q c d draw := by
  have hserves := serves_exchange s w q
  generalize hresult : exchange s w q = result at hserves
  cases hserves with
  | aside hplain => exact .inl ⟨hplain.status, OrderStore.stays_of_rows_eq rfl⟩
  | signsIn f hroute hplain =>
    left
    exact ⟨hplain.status, OrderStore.stays_of_rows_eq (by rw [Desk.orders_after_login])⟩
  | @admitted place token c r v hroute hbears haccepted hinside =>
    obtain ⟨cache, hafter⟩ := Desk.cache_after_authenticate w (rules s) token
    rw [hafter] at hinside
    obtain ⟨hstatus, hstays⟩ | ⟨d, draw, hread, htold, hrows⟩ :=
      orders_inside s q c.userId place { w with cache }
    · left
      rw [hinside] at hstatus hstays
      exact ⟨hstatus, hstays⟩
    · right
      rw [hinside] at htold hrows
      subst htold
      refine ⟨c, d, draw, ⟨token, hbears, haccepted⟩, hread, ?_, ?_, ?_⟩
      · rw [hresult]
        exact hrows
      · rw [hresult]
        rfl
      · rw [hresult]
        rfl

inductive Occurrence where
  | event (e : Desk.Event)
  | request (q : Request)

def setup (s : Settings) : Desk.Setup := ⟨rules s, s.orders⟩

def occur (s : Settings) (w : World) : Occurrence → World
  | .event e => (setup s).step w e
  | .request q => (exchange s w q).2

def history (s : Settings) (w : World) (xs : List Occurrence) : World := xs.foldl (occur s) w

theorem history_concat (s : Settings) (w : World) (xs : List Occurrence) (x : Occurrence) :
    history s w (xs ++ [x]) = occur s (history s w xs) x := List.foldl_append

theorem history_request (s : Settings) (w : World) (q : Request) :
    history s w [.request q] = (exchange s w q).2 := rfl

/-- The occurrence takes in a draft for the owner of the order, and tells the owner about it. -/
def TakesIn (s : Settings) (w : World) (o : Order) : Occurrence → Prop
  | .event (.createOrder d userId) => o.userId = userId ∧
      w.answer (Desk.createOrder s.orders d userId) = .ok
        ⟨o.consignmentId, o.shipment.merchantOrderId, o.status.label, o.fees.delivery⟩
  | .request q => (∃ c, Admits s w q c ∧ o.userId = c.userId) ∧
      (exchange s w q).1.status = 201 ∧
      (exchange s w q).1.data? = some o.confirmation
  | _ => False

theorem TakesIn.ages {s : Settings} {w : World} {o v : Order} {x : Occurrence}
    (h : TakesIn s w o x) (hages : o.Ages v) : TakesIn s w v x := by
  rw [hages.same]
  cases x with
  | request q => exact h
  | event e =>
    cases e with
    | createOrder d userId => exact h
    | _ => exact h.elim

/-- One occurrence leaves the rows where they are, or adds one on the service's own terms. -/
theorem orders_occur (s : Settings) (w : World) (x : Occurrence) :
    w.orders.Stays (occur s w x).orders ∨
      ∃ o, (occur s w x).orders.rows = w.orders.rows ++ [o] ∧ o.OnTerms s.orders.homeCity ∧
        TakesIn s w o x := by
  cases x with
  | request q =>
    obtain ⟨-, hstays⟩ | ⟨c, d, draw, h⟩ := orders_exchange s w q
    · exact .inl hstays
    · exact .inr ⟨_, h.rows, Desk.onTerms_rowFor _ _ _ _ _, ⟨c, h.admits, rfl⟩, h.status, h.data⟩
  | event e =>
    cases e with
    | createOrder d userId =>
      obtain ⟨f, -, hrows⟩ | ⟨draw, hanswer, hrows⟩ := Desk.rows_createOrder s.orders d userId w
      · exact .inl (OrderStore.stays_of_rows_eq hrows)
      · exact .inr ⟨_, hrows, Desk.onTerms_rowFor _ _ _ _ _, rfl, hanswer⟩
    | cancelOrder consignmentId userId =>
      exact .inl (Desk.stays_cancelOrder consignmentId userId w)
    | login single f =>
      exact .inl (OrderStore.stays_of_rows_eq (congrArg _ (Desk.orders_after_login _ w f)))
    | logout userId =>
      exact .inl (OrderStore.stays_of_rows_eq (congrArg _ (Desk.orders_after_logout userId w)))
    | authenticate token =>
      exact .inl (OrderStore.stays_of_rows_eq
        (congrArg _ (Desk.orders_after_authenticate _ w token)))
    | listOrders userId r =>
      refine .inl (OrderStore.stays_of_rows_eq ?_)
      rw [occur, Desk.Setup.step, Desk.after_listOrders]
    | _ => exact .inl (OrderStore.stays_of_rows_eq rfl)

/-- Every row of a history was once taken in, on the service's own terms, and has only aged since.
The induction goes back from the last occurrence. -/
theorem taken_in_of_history {s : Settings} {w : World} (hnew : w.orders.rows = [])
    (xs : List Occurrence) {i : Nat} {o : Order}
    (h : (history s w xs).orders.rows[i]? = some o) :
    o.OnTerms s.orders.homeCity ∧ ∃ before x after first, xs = before ++ x :: after ∧
      (history s w before).orders.rows.length = i ∧
      (history s w (before ++ [x])).orders.rows =
        (history s w before).orders.rows ++ [first] ∧
      first.Ages o ∧ TakesIn s (history s w before) o x := by
  induction xs using List.reverseRecOn generalizing i o with
  | nil =>
    change w.orders.rows[i]? = some o at h
    rw [hnew] at h
    cases h
  | append_singleton xs x ih =>
    rw [history_concat] at h
    -- a row that has been there before was taken in earlier
    have hearlier {row : Order} (hrow : (history s w xs).orders.rows[i]? = some row)
        (hages : row.Ages o) :
        o.OnTerms s.orders.homeCity ∧ ∃ before y after first,
          xs ++ [x] = before ++ y :: after ∧ (history s w before).orders.rows.length = i ∧
          (history s w (before ++ [y])).orders.rows =
            (history s w before).orders.rows ++ [first] ∧
          first.Ages o ∧ TakesIn s (history s w before) o y := by
      obtain ⟨hterms, before, y, after, first, rfl, hlength, hrows, hfirst, htaken⟩ := ih hrow
      exact ⟨hages.onTerms hterms, before, y, after ++ [x], first, by simp, hlength, hrows,
        trans_of Order.Ages hfirst hages, htaken.ages hages⟩
    obtain ⟨hages, hlength⟩ | ⟨first, hrows, hterms, htaken⟩ := orders_occur s (history s w xs) x
    · have hi : i < (history s w xs).orders.rows.length := by
        rw [← hlength]
        exact (List.getElem?_eq_some_iff.mp h).1
      obtain ⟨later, hlater, hrow⟩ := hages i _ (List.getElem?_eq_getElem hi)
      obtain rfl := Option.some.inj (hlater.symm.trans h)
      exact hearlier (List.getElem?_eq_getElem hi) hrow
    · rw [hrows] at h
      by_cases hi : i < (history s w xs).orders.rows.length
      · rw [List.getElem?_append_left hi] at h
        exact hearlier h (refl o)
      · have hbound := (List.getElem?_eq_some_iff.mp h).1
        rw [List.length_append, List.length_singleton] at hbound
        obtain rfl : i = (history s w xs).orders.rows.length := by omega
        rw [List.getElem?_concat_length] at h
        obtain rfl := Option.some.inj h
        refine ⟨hterms, xs, x, [], first, rfl, rfl, ?_, refl first, htaken⟩
        rw [history_concat, hrows]

/-- The row was numbered by the store of the world, its consignment id was drawn there, and its
times are the world's. -/
structure StampedIn (s : Settings) (w : World) (o : Order) : Prop where
  id : o.id = w.orders.lastId + 1
  consignmentId : ∃ draw, o.consignmentId =
    Consignment.idOf s.orders.lead w.clock (w.chance.suffix draw)
  createdAt : o.createdAt = w.clock
  updatedAt : o.updatedAt = w.clock

def Request.withBody (q : Request) (body : List UInt8) : Request := { q with body }

theorem parse_of_read {α : Type} {q : Request} {decode : Json.Decoder α} {a : α}
    (h : q.read decode = .ok a) : Json.parseBytes decode q.body = .ok a := by
  unfold Request.read at h
  split at h
  · cases h
  · split at h
    · cases h
    · cases hparse : Json.parseBytes decode q.body with
      | error e =>
        rw [hparse] at h
        cases h
      | ok b =>
        rw [hparse] at h
        exact congrArg Except.ok (Except.ok.inj h)

open Json (Node Literal Ending member? readBytes) in
/-- Bodies that agree in the members of a draft make the same row, but for what the world stamps on
it. -/
theorem created_alike {s : Settings} {q : Request} {body other : List UInt8}
    {ms ns : List (Literal × Node)} {e f : Ending} {w v : World}
    (hbody : (readBytes body).root = .map ms e) (hother : (readBytes other).root = .map ns f)
    (hagree : ∀ name ∈ Draft.memberNames, member? ms name = member? ns name)
    (hw : (exchange s w (q.withBody body)).1.status = 201)
    (hv : (exchange s v (q.withBody other)).1.status = 201) :
    ∃ a b, (exchange s w (q.withBody body)).2.orders.rows = w.orders.rows ++ [a] ∧
      (exchange s v (q.withBody other)).2.orders.rows = v.orders.rows ++ [b] ∧
      StampedIn s w a ∧ StampedIn s v b ∧
      b = { a with
        id := b.id, consignmentId := b.consignmentId, createdAt := b.createdAt,
        updatedAt := b.updatedAt } := by
  obtain ⟨hstatus, -⟩ | ⟨c, d, draw, h⟩ := orders_exchange s w (q.withBody body)
  · exact absurd hw hstatus
  obtain ⟨hstatus, -⟩ | ⟨c', d', draw', h'⟩ := orders_exchange s v (q.withBody other)
  · exact absurd hv hstatus
  -- the headers are the same, so it is one token, and its claims do not depend on the world
  have hclaims : c = c' := by
    obtain ⟨token, hbears, haccepted⟩ := h.admits
    obtain ⟨token', hbears', haccepted'⟩ := h'.admits
    obtain rfl : token = token' := Request.Bears.unique (q := q) hbears hbears'
    rw [Desk.authenticate_iff] at haccepted haccepted'
    exact Jwt.eq_of_verify haccepted.1 haccepted'.1
  have hdraft : d = d' := by
    have hd := (Json.of_parseBytes (parse_of_read h.draft)).1
    have hd' := (Json.of_parseBytes (parse_of_read h'.draft)).1
    simp only [Request.withBody, hbody] at hd
    simp only [Request.withBody, hother] at hd'
    exact Draft.eq_of_decode hagree hd hd'
  subst hclaims
  subst hdraft
  exact ⟨_, _, h.rows, h'.rows, ⟨rfl, ⟨draw, rfl⟩, rfl, rfl⟩, ⟨rfl, ⟨draw', rfl⟩, rfl, rfl⟩, rfl⟩

open Json (Node Literal Ending member? readBytes) in
/-- From a store without orders on, whatever happens over the counter and over the web: every row is
on the service's own terms, and some occurrence has put it there for its owner, who was told its
consignment id, its merchant order id, its status and its delivery fee. Two bodies that are accepted
and agree in the members of a draft make rows that differ in nothing but their stamps. -/
theorem house_sets_terms (s : Settings) {w : World} (hnew : w.orders.rows = []) :
    (∀ (xs : List Occurrence) (i : Nat) (o : Order),
      (history s w xs).orders.rows[i]? = some o →
        o.OnTerms s.orders.homeCity ∧ ∃ before x after first, xs = before ++ x :: after ∧
          (history s w before).orders.rows.length = i ∧
          (history s w (before ++ [x])).orders.rows =
            (history s w before).orders.rows ++ [first] ∧
          first.Ages o ∧ TakesIn s (history s w before) o x) ∧
    ∀ (q : Request) (body other : List UInt8) (ms ns : List (Literal × Node)) (e f : Ending)
      (v u : World), (readBytes body).root = .map ms e → (readBytes other).root = .map ns f →
      (∀ name ∈ Draft.memberNames, member? ms name = member? ns name) →
      (exchange s v (q.withBody body)).1.status = 201 →
      (exchange s u (q.withBody other)).1.status = 201 →
        ∃ a b, (exchange s v (q.withBody body)).2.orders.rows = v.orders.rows ++ [a] ∧
          (exchange s u (q.withBody other)).2.orders.rows = u.orders.rows ++ [b] ∧
          StampedIn s v a ∧ StampedIn s u b ∧
          b = { a with
            id := b.id, consignmentId := b.consignmentId, createdAt := b.createdAt,
            updatedAt := b.updatedAt } := by
  constructor
  · intro xs i o hrow
    exact taken_in_of_history hnew xs hrow
  · intro q body other ms ns e f v u hbody hother hagree hv hu
    exact created_alike hbody hother hagree hv hu

def crateMembers : Json.Leaves :=
  [("store_id", .whole 1), ("recipient_name", .text "Rahim"),
    ("recipient_phone", .text "01712345678"), ("recipient_address", .text "Mirpur"),
    ("item_quantity", .whole 1), ("item_weight", .whole 2), ("amount_to_collect", .whole 300)]

def wishes : Json.Leaves :=
  [("delivery_fee", .whole 0), ("total_fee", .whole 0), ("discount", .whole 50),
    ("user_id", .whole 9), ("order_status", .text "Completed"), ("consignment_id", .text "CN1"),
    ("id", .whole 7)]

def crate : Draft where
  shipment :=
    { storeId := 1, recipient := { name := "Rahim", phone := "01712345678", address := "Mirpur" },
      quantity := 1, weight := 2, amount := 300 }

def bodyOf (ms : Json.Leaves) : List UInt8 := Text.Utf8.encode ms.json.chars

def karimsOrder : Request where
  method := "POST"
  path := "/api/v1/orders"
  headers := [("Authorization", "Bearer " ++ Desk.karimsToken.text),
    ("Content-Type", "application/json")]

theorem read_crate {ms : Json.Leaves} (hshort : (bodyOf ms).length ≤ bodyLimit)
    (hcrate : Draft.decode (.map ms.nodes .closed) = .ok crate) :
    (karimsOrder.withBody (bodyOf ms)).read Draft.decode = .ok crate := by
  have hparse : Json.parseBytes Draft.decode (bodyOf ms) = .ok crate :=
    (Json.parseBytes_leaves Draft.decode ms).trans hcrate
  have htype : (karimsOrder.withBody (bodyOf ms)).plainHeader? "content-type" =
      some "application/json" := rfl
  have hbody : (karimsOrder.withBody (bodyOf ms)).body = bodyOf ms := rfl
  unfold Request.read
  rw [htype, hbody, if_neg (by decide), if_neg (Nat.not_lt.mpr hshort), hparse]
  rfl

/-- The crate is taken in, whatever else the body says. -/
theorem status_karimsOrder (ms : Json.Leaves) (hshort : (bodyOf ms).length ≤ bodyLimit)
    (hcrate : Draft.decode (.map ms.nodes .closed) = .ok crate) :
    (exchange {} (Desk.karimsSession {}) (karimsOrder.withBody (bodyOf ms))).1.status = 201 := by
  have hblank : Route.ofRequest karimsOrder = .gated .createOrder := by decide
  have hroute : Route.ofRequest (karimsOrder.withBody (bodyOf ms)) = .gated .createOrder := by
    have hsegments : (karimsOrder.withBody (bodyOf ms)).segments = karimsOrder.segments := rfl
    unfold Route.ofRequest
    rw [hsegments]
    exact hblank
  obtain ⟨v, ⟨cache, hv⟩, hexchange⟩ := exchange_karim {} rfl hroute rfl
  have hanswer : ∃ receipt, v.answer (Desk.createOrder {} crate Desk.karim.id) = .ok receipt := by
    rw [hv]
    exact ⟨_, rfl⟩
  obtain ⟨receipt, hreceipt⟩ := hanswer
  have hverdict : crate.lengthComplaints.verdict = .ok () := rfl
  rw [hexchange, inside, createOrder, withForm, read_crate hshort hcrate]
  simp only [hverdict, run_told]
  change (outcome _ (v.answer (Desk.createOrder {} crate Desk.karim.id))).status = 201
  rw [hreceipt]
  rfl

/-- The wishes change nothing: the row is that of the crate alone, and its fees are the usual
ones. -/
theorem wishes_are_passed_over :
    (Desk.karimsSession {}).orders.rows = [] ∧
    (∀ name ∈ Draft.memberNames, Json.member? crateMembers.nodes name =
      Json.member? (crateMembers ++ wishes).nodes name) ∧
    (∃ a b,
      (exchange {} (Desk.karimsSession {})
        (karimsOrder.withBody (bodyOf crateMembers))).2.orders.rows = [a] ∧
      (exchange {} (Desk.karimsSession {})
        (karimsOrder.withBody (bodyOf (crateMembers ++ wishes)))).2.orders.rows = [b] ∧
      b = { a with
        id := b.id, consignmentId := b.consignmentId, createdAt := b.createdAt,
        updatedAt := b.updatedAt }) ∧
    ∃ o, (history {} (Desk.karimsSession {}) [.request
        (karimsOrder.withBody (bodyOf (crateMembers ++ wishes)))]).orders.rows[0]? = some o ∧
      o.OnTerms 1 ∧ TakesIn {} (Desk.karimsSession {}) o
        (.request (karimsOrder.withBody (bodyOf (crateMembers ++ wishes)))) := by
  have hroot (ms : Json.Leaves) : (Json.readBytes (bodyOf ms)).root = .map ms.nodes .closed := by
    rw [bodyOf, Json.readBytes_leaves]
  have hagree : ∀ name ∈ Draft.memberNames, Json.member? crateMembers.nodes name =
      Json.member? (crateMembers ++ wishes).nodes name := by
    have hnone : ∀ name ∈ Draft.memberNames, (Json.member? wishes.nodes name).isNone = true := by
      decide
    intro name hname
    have hsplit : (crateMembers ++ wishes).nodes = crateMembers.nodes ++ wishes.nodes :=
      List.map_append
    rw [hsplit, Json.member?_append, Option.isNone_iff_eq_none.mp (hnone name hname),
      Option.or_none]
  have hplain := status_karimsOrder crateMembers (by decide +kernel) rfl
  have hwished := status_karimsOrder (crateMembers ++ wishes) (by decide +kernel) rfl
  have hnew : (Desk.karimsSession {}).orders.rows = [] := rfl
  obtain ⟨hterms, halike⟩ := house_sets_terms {} hnew
  obtain ⟨a, b, ha, hb, -, -, hsame⟩ := halike karimsOrder (bodyOf crateMembers)
    (bodyOf (crateMembers ++ wishes)) _ _ _ _ (Desk.karimsSession {}) (Desk.karimsSession {})
    (hroot crateMembers) (hroot (crateMembers ++ wishes)) hagree hplain hwished
  rw [hnew, List.nil_append] at ha hb
  have hrow : (history {} (Desk.karimsSession {}) [.request
      (karimsOrder.withBody (bodyOf (crateMembers ++ wishes)))]).orders.rows[0]? = some b := by
    rw [history_request, hb]
    rfl
  obtain ⟨honTerms, before, x, after, -, hsplit, -, -, -, htaken⟩ := hterms _ 0 b hrow
  obtain ⟨rfl, hone⟩ | ⟨-, hnone⟩ := List.append_eq_singleton_iff.mp hsplit.symm
  · obtain rfl := (List.cons.inj hone).1
    exact ⟨hnew, hagree, ⟨a, b, ha, hb, hsame⟩, b, hrow, honTerms, htaken⟩
  · cases hnone

end Web

end ParcelDesk
