import Mathlib.Data.List.Forall2
import ParcelDesk.Proofs.Labels
import ParcelDesk.Proofs.OrderCalls
import ParcelDesk.Proofs.Pages

/-!
Listings page by page. What a request asks for is said without the store: whose orders, with which
status, put away or not. A caller who goes through the pages from the first to the last is shown
each of these orders once, the latest first, and every page tells the same numbers.
-/

namespace ParcelDesk

namespace ListingRequest

/-- The request asks for orders with the status: it names none, or this one. -/
def wants (r : ListingRequest) (status : OrderStatus) : Bool :=
  match r.status with
  | none => true
  | some label =>
    !Text.notBlank label || Text.sameIgnoringAsciiCase (Text.trim label) status.label

def asksFor (r : ListingRequest) (userId : Int) (o : Order) : Bool :=
  o.userId == userId && !o.isDeleted && r.wants o.status &&
    r.archive.all fun flag => decide (flag ≠ 0) == o.archived

end ListingRequest

namespace Order

/-- The order is shown with all that a merchant may know of it, and with words for its kinds and
its status. -/
structure ShownAs (o : Order) (x : OrderSummary) : Prop where
  consignmentId : x.consignmentId = o.consignmentId
  shipment : x.shipment = o.shipment
  deliveryType : (o.deliveryType, x.deliveryType) ∈
    [(DeliveryType.unknown, "Unknown"), (.pickup, "Pickup"), (.delivery, "Delivery")]
  itemType : (o.itemType, x.itemType) ∈
    [(ItemType.unknown, "Unknown"), (.document, "Document"), (.parcel, "Parcel"), (.other, "Other")]
  status : (o.status, x.status) ∈
    [(OrderStatus.pending, "Pending"), (.processing, "Processing"), (.completed, "Completed")]
  archived : x.archived = o.archived
  fees : x.fees = o.fees
  promoDiscount : x.promoDiscount = o.promoDiscount
  discount : x.discount = o.discount
  createdAt : x.createdAt = o.createdAt
  updatedAt : x.updatedAt = o.updatedAt

theorem shownAs_summary (o : Order) : o.ShownAs o.summary where
  consignmentId := rfl
  shipment := rfl
  deliveryType := by
    change (o.deliveryType, o.deliveryType.label) ∈ _
    cases o.deliveryType <;> decide
  itemType := by
    change (o.itemType, o.itemType.label) ∈ _
    cases o.itemType <;> decide
  status := by
    change (o.status, o.status.label) ∈ _
    cases o.status <;> decide
  archived := rfl
  fees := rfl
  promoDiscount := rfl
  discount := rfl
  createdAt := rfl
  updatedAt := rfl

theorem forall₂_shownAs (os : List Order) : List.Forall₂ ShownAs os (os.map summary) :=
  List.forall₂_map_right_iff.mpr (List.forall₂_same.mpr fun o _ => o.shownAs_summary)

/-- A field that is shown as it is, is so all down a listing. -/
theorem map_of_shownAs {α : Type} {told : OrderSummary → α} {field : Order → α}
    (hfield : ∀ {o x}, ShownAs o x → told x = field o) {os : List Order} {xs : List OrderSummary}
    (h : List.Forall₂ ShownAs os xs) : xs.map told = os.map field := by
  induction h with
  | nil => rfl
  | cons hshown _ ih => rw [List.map_cons, List.map_cons, hfield hshown, ih]

end Order

structure OrderPage.IsPart (p : OrderPage) (page : Option UInt32) (perPage last : UInt32)
    (whole : List OrderSummary) : Prop where
  total : p.total = whole.length
  lastPage : p.lastPage = last
  perPage : p.perPage = perPage
  currentPage : p.currentPage = max (page.getD 1) 1
  orders : p.orders =
    (whole.drop ((p.currentPage.toNat - 1) * p.perPage.toNat)).take p.perPage.toNat
  totalInPage : p.totalInPage = p.orders.length
  isFull : p.currentPage < last → p.orders.length = p.perPage.toNat
  isEmpty : last < p.currentPage → p.orders = []

def OrderSettings.paging (s : OrderSettings) (r : ListingRequest) : Paging :=
  .within r.page r.limit (.ofNat s.defaultPageSize) (.ofNat s.maxPageSize)

namespace Desk

/-- What a caller sees who goes through the pages of a listing, from the first one to the last one
that it tells of. -/
def World.browse (s : OrderSettings) (userId : Int) (r : ListingRequest) (w : World) :
    Except Failure (List OrderSummary) := do
  let first ← w.answer (listOrders s userId { r with page := some 1 })
  let pages ← (List.range first.lastPage.toNat).mapM fun n =>
    w.answer (listOrders s userId { r with page := some (.ofNat (n + 1)) })
  pure (pages.flatMap OrderPage.orders)

def World.listed (userId : Int) (r : ListingRequest) (w : World) : List Order :=
  (w.orders.rows.filter (r.asksFor userId)).mergeSort Order.precedes

/-- A status that a request asks for is understood if there is one that fits. -/
theorem statusOf_of_wants {r : ListingRequest} (h : ∃ status, r.wants status = true) :
    ∃ wanted, statusOf r = .ok wanted ∧
      ∀ status, wanted.all (· == status) = r.wants status := by
  unfold ListingRequest.wants at *
  unfold statusOf Text.named
  cases hlabel : r.status with
  | none => exact ⟨none, rfl, fun status => rfl⟩
  | some label =>
    cases hblank : Text.notBlank label with
    | false => exact ⟨none, by simp [hblank], fun status => by simp [hblank]⟩
    | true =>
      simp only [hlabel, hblank, Bool.not_true, Bool.false_or] at h
      obtain ⟨wanted, hwanted⟩ := h
      have hread (status : OrderStatus) :=
        OrderStatus.ofLabel?_eq_some_iff (Text.trim label) status
      simp only [Text.trim_trim] at hread
      have hfound := (hread wanted).mpr hwanted
      refine ⟨some wanted, by simp [hblank, hfound], fun status => ?_⟩
      rw [Bool.eq_iff_iff]
      simp [hblank, ← hread, hfound]

/-- A label that fits no status is refused. -/
theorem statusOf_of_not_wants {r : ListingRequest} (h : ∀ status, r.wants status = false) :
    statusOf r = .error (.invalid
      (FieldErrors.single "transfer_status" "The selected transfer status is invalid.")) := by
  unfold ListingRequest.wants at h
  unfold statusOf Text.named
  cases hlabel : r.status with
  | none => exact absurd (h .pending) (by simp [hlabel])
  | some label =>
    simp only [hlabel, Bool.or_eq_false_iff, Bool.not_eq_false'] at h
    have hunread : OrderStatus.ofLabel? (Text.trim label) = none := by
      rw [Option.eq_none_iff_forall_ne_some]
      intro status hfound
      rw [OrderStatus.ofLabel?_eq_some_iff, Text.trim_trim, (h status).2] at hfound
      exact absurd hfound (by simp)
    simp [(h .pending).1, hunread]

/-- The filter of a request admits what the request asks for. -/
theorem filterOf_of_wants {r : ListingRequest} (h : ∃ status, r.wants status = true)
    (s : OrderSettings) (userId : Int) :
    ∃ f, filterOf s userId r = .ok f ∧ f.admits = r.asksFor userId ∧ f.paging = s.paging r := by
  obtain ⟨wanted, hstatus, hall⟩ := statusOf_of_wants h
  refine ⟨⟨userId, wanted, r.archive.map fun flag => flag ≠ 0, s.paging r⟩, ?_, ?_, rfl⟩
  · rw [filterOf, hstatus]
    rfl
  · funext o
    cases harchive : r.archive <;> simp [OrderFilter.admits, ListingRequest.asksFor, hall, harchive]

variable {w : World} {r : ListingRequest} (s : OrderSettings) (userId : Int)

theorem answer_listOrders (hup : w.orders.isDown = false) (h : ∃ status, r.wants status = true) :
    w.answer (listOrders s userId r) =
      .ok (.ofOrders ((s.paging r).slice (w.listed userId r)) (w.listed userId r).length
        (s.paging r)) := by
  obtain ⟨f, hfilter, hadmits, hpaging⟩ := filterOf_of_wants h s userId
  have hlisting : w.orders.listing f = w.listed userId r := by
    rw [OrderStore.listing, World.listed, hadmits]
  rw [World.answer, perform_listOrders, hfilter]
  simp only [Except.bind, OrderStore.find, hup, Bool.false_eq_true, ↓reduceIte, hlisting, hpaging]
  rfl

theorem answer_listOrders_unknown (w : World) (h : ∀ status, r.wants status = false) :
    w.answer (listOrders s userId r) = .error (.invalid
      (FieldErrors.single "transfer_status" "The selected transfer status is invalid.")) := by
  rw [World.answer, perform_listOrders, filterOf, statusOf_of_not_wants h]
  rfl

theorem length_listed (w : World) (r : ListingRequest) :
    (w.listed userId r).length = w.orders.rows.countP (r.asksFor userId) := by
  rw [World.listed, List.length_mergeSort, List.countP_eq_length_filter]

/-- Going through all pages shows the whole listing. -/
theorem browse_eq (hup : w.orders.isDown = false) (h : ∃ status, r.wants status = true)
    (hfits : Paging.pageCount (s.paging r).limit (w.listed userId r).length < UInt32.size) :
    w.browse s userId r = .ok ((w.listed userId r).map Order.summary) := by
  let os := w.listed userId r
  have hanswer (page : Option UInt32) :
      w.answer (listOrders s userId { r with page }) =
        .ok (.ofOrders ((s.paging { r with page }).slice os) os.length
          (s.paging { r with page })) :=
    answer_listOrders s userId hup h
  have hlast : ((s.paging { r with page := some 1 }).lastPage os.length).toNat =
      Paging.pageCount (s.paging r).limit os.length := Paging.toNat_lastPage hfits
  -- no page is refused, so the pages are read one after another without a failure
  have hpages (ns : List Nat) (page : Nat → OrderPage) :
      ns.mapM (fun n => (.ok (page n) : Except Failure OrderPage)) = .ok (ns.map page) :=
    List.mapM_pure
  have hwhole : ((List.range (Paging.pageCount (s.paging r).limit os.length)).flatMap fun n =>
      (s.paging { r with page := some (.ofNat (n + 1)) }).slice os) = os :=
    Paging.flatMap_slice r.limit _ _ rfl hfits
  simp only [World.browse, hanswer, bind, Except.bind, pure, Except.pure, hpages, List.flatMap_map,
    OrderPage.ofOrders, hlast, ← List.map_flatMap, hwhole]
  rfl

/-- The page that answers a request is its part of the listing. -/
theorem isPart_ofOrders (r : ListingRequest) (os : List Order)
    (hfits : Paging.pageCount (s.paging r).limit os.length < UInt32.size) :
    (OrderPage.ofOrders ((s.paging r).slice os) os.length (s.paging r)).IsPart r.page
      (s.paging r).perPage ((s.paging r).lastPage os.length) (os.map Order.summary) := by
  have hpage : 1 ≤ (s.paging r).page.toNat := Paging.one_le_page _ _ _ _
  have hlimit : 1 ≤ (s.paging r).limit := Paging.one_le_limit _ _ _ _
  have hcurrent : (s.paging r).currentPage = (s.paging r).page :=
    Paging.currentPage_eq hpage hlimit
  have hlast := Paging.toNat_lastPage hfits
  refine ⟨(List.length_map _).symm, rfl, rfl, hcurrent, ?_, rfl, ?_, ?_⟩
  · change ((s.paging r).slice os).map Order.summary =
      (List.drop (((s.paging r).currentPage.toNat - 1) * _) _).take _
    rw [hcurrent]
    exact Paging.map_slice Order.summary (s.paging r) os
  · intro hbefore
    change (s.paging r).currentPage < _ at hbefore
    rw [hcurrent, UInt32.lt_iff_toNat_lt, hlast] at hbefore
    exact (List.length_map _).trans (Paging.length_slice_of_lt hpage hlimit hbefore)
  · intro hpast
    change _ < (s.paging r).currentPage at hpast
    rw [hcurrent, UInt32.lt_iff_toNat_lt, hlast] at hpast
    exact List.map_eq_nil_iff.mpr (Paging.slice_of_pageCount_lt hlimit hpast)

/-- Whatever orders were inserted and deleted, the pages of a listing show those that the request
asks for, each once and the latest first. All pages tell the same numbers; those before the last
are full, and those behind it are empty. That is so if the request names a status that there is, or
none; with any other it is refused, whichever page it asks for. The pages can be numbered in 32
bits. -/
theorem pages_cover_listing (hstore : OrderStore.Leads {} w.orders)
    (hup : w.orders.isDown = false)
    (hfits : Paging.pageCount (s.paging r).limit
      (w.orders.rows.countP (r.asksFor userId)) < UInt32.size) :
    ((∃ status, r.wants status = true) →
      ∃ (os : List Order) (xs : List OrderSummary),
        os.Perm (w.orders.rows.filter (r.asksFor userId)) ∧ os.Pairwise Order.Before ∧
        List.Forall₂ Order.ShownAs os xs ∧ (xs.map OrderSummary.consignmentId).Nodup ∧
        w.browse s userId r = .ok xs ∧
        ∃ last : UInt32, ∀ page : Option UInt32, ∃ p : OrderPage,
          w.answer (listOrders s userId { r with page }) = .ok p ∧
            p.IsPart page (s.paging r).perPage last xs) ∧
    ((∀ status, r.wants status = false) → ∀ page : Option UInt32,
      w.answer (listOrders s userId { r with page }) = .error (.invalid
        (FieldErrors.single "transfer_status" "The selected transfer status is invalid."))) := by
  rw [← length_listed] at hfits
  have hsound := OrderStore.Sound.empty.leads hstore
  refine ⟨fun h => ?_, fun h page => answer_listOrders_unknown s userId w h⟩
  refine ⟨w.listed userId r, (w.listed userId r).map Order.summary, List.mergeSort_perm _ _,
    OrderStore.pairwise_before hsound (r.asksFor userId), Order.forall₂_shownAs _, ?_,
    browse_eq s userId hup h hfits, (s.paging r).lastPage (w.listed userId r).length,
    fun page => ?_⟩
  · rw [Order.map_of_shownAs Order.ShownAs.consignmentId (Order.forall₂_shownAs _)]
    exact OrderStore.nodup_map_listing hsound.consignments (r.asksFor userId)
  · exact ⟨_, answer_listOrders s userId hup h, isPart_ofOrders s { r with page } _ hfits⟩

def parcel (userId : Int) (consignmentId : String) (seconds : Int) : Order :=
  .ofDraft {} 1 userId consignmentId ⟨seconds, 0⟩

/-- Three parcels of one user and one of another; the second one was cancelled. -/
def shelf : OrderStore :=
  let s := (({} : OrderStore).insert (parcel 7 "CN1" 20)).2
  let s := (s.insert (parcel 7 "CN2" 20)).2
  let s := (s.insert (parcel 8 "CN3" 10)).2
  let s := (s.insert (parcel 7 "CN4" 10)).2
  (s.delete ⟨30, 0⟩ "CN2" 7).2

theorem leads_shelf : OrderStore.Leads {} shelf :=
  .delete _ _ _ (.insert _ (.insert _ (.insert _ (.insert _ .refl))))

def shelfDesk : World :=
  { orders := shelf, clock := ⟨40, 0⟩, chance := ⟨fun _ => [], fun _ => "", 0, 0⟩ }

def pendingRequest : ListingRequest := ⟨some " pending", none, none, some 1⟩

def lostRequest : ListingRequest := ⟨some "lost", none, none, some 1⟩

/-- With one order to a page, two pages show the two parcels that are left, and the page behind them
is empty. Lost parcels are not shown, as there is no such status. -/
theorem pages_cover_shelf :
    OrderStore.Leads {} shelfDesk.orders ∧ shelfDesk.orders.isDown = false ∧
    (∃ (os : List Order) (xs : List OrderSummary),
      os.Perm (shelfDesk.orders.rows.filter (pendingRequest.asksFor 7)) ∧
      os.Pairwise Order.Before ∧ List.Forall₂ Order.ShownAs os xs ∧
      xs.map OrderSummary.consignmentId = ["CN1", "CN4"] ∧
      xs.map OrderSummary.createdAt = [⟨20, 0⟩, ⟨10, 0⟩] ∧
      shelfDesk.browse {} 7 pendingRequest = .ok xs ∧
      ∃ p : OrderPage,
        shelfDesk.answer (listOrders {} 7 { pendingRequest with page := some 3 }) = .ok p ∧
          p.total = 2 ∧ p.orders = [] ∧ p.totalInPage = 0) ∧
    shelfDesk.answer (listOrders {} 7 lostRequest) = .error (.invalid
      (FieldErrors.single "transfer_status" "The selected transfer status is invalid.")) := by
  obtain ⟨hpages, -⟩ := pages_cover_listing (w := shelfDesk) (r := pendingRequest) {} 7 leads_shelf
    (by decide) (by decide)
  obtain ⟨-, hrefused⟩ := pages_cover_listing (w := shelfDesk) (r := lostRequest) {} 7 leads_shelf
    (by decide) (by decide)
  obtain ⟨os, xs, hperm, hbefore, hshown, -, hbrowse, last, hpages⟩ :=
    hpages ⟨.pending, by decide⟩
  -- two orders can stand one before the other in one way only
  have hos : os = shelfDesk.orders.rows.filter (pendingRequest.asksFor 7) :=
    hperm.eq_of_pairwise (fun _ _ _ _ hab hba => absurd hba hab.asymm) hbefore
      (List.pairwise_pair.mpr (.inl rfl))
  have hlength : xs.length = 2 := by
    rw [← hshown.length_eq, hos]
    rfl
  obtain ⟨p, hanswer, hpart⟩ := hpages (some 3)
  have hempty : p.orders = [] := by
    rw [hpart.orders, hpart.currentPage, hpart.perPage,
      List.drop_eq_nil_of_le (hlength.trans_le (by decide)), List.take_nil]
  refine ⟨leads_shelf, by decide, ⟨os, xs, hperm, hbefore, hshown, ?_, ?_, hbrowse, p, hanswer,
    hpart.total.trans hlength, hempty, ?_⟩, hrefused (fun status => ?_) none⟩
  · rw [Order.map_of_shownAs Order.ShownAs.consignmentId hshown, hos]
    rfl
  · rw [Order.map_of_shownAs Order.ShownAs.createdAt hshown, hos]
    rfl
  · rw [hpart.totalInPage, hempty, List.length_nil]
  · cases status <;> decide

end Desk

end ParcelDesk
