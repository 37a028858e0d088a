import ParcelDesk.FieldErrors
import ParcelDesk.Order.Basic

/-!
Rules for drafts. Every broken rule is reported, so that a merchant sees all problems at once. A
mobile number is 01, a digit from 3 to 9 and eight more digits, with or without the country code
+88; all characters but digits and plus signs are left out of account.
-/

namespace ParcelDesk.Phone

def keeps (c : Char) : Bool := c.isDigit || c = '+'

/-- The digits and plus signs of a number. -/
def normalize (s : String) : List Char := s.toList.filter keeps

/-- The number without one leading country code. -/
def domestic : List Char → List Char
  | '+' :: '8' :: '8' :: rest => rest
  | cs => cs

def isMobile (s : String) : Bool :=
  match domestic (normalize s) with
  | '0' :: '1' :: c :: rest =>
    '3' ≤ c && c ≤ '9' && rest.length = 8 && rest.all Char.isDigit
  | _ => false

/-- The first three and the last four characters of a number of at least seven. -/
def mask (s : String) : String :=
  let n := normalize s
  if 7 ≤ n.length then String.ofList (n.take 3 ++ "****".toList ++ n.drop (n.length - 4)) else "****"

end ParcelDesk.Phone

namespace ParcelDesk.Draft

def storeComplaints (s : Shipment) : Complaints :=
  if s.storeId ≤ 0 then
    [("store_id", "The store field is required."), ("store_id", "Wrong Store selected.")]
  else []

def complaint (broken : Bool) (field message : String) : Complaints :=
  if broken then [(field, message)] else []

def phoneComplaints (phone : String) : Complaints :=
  if !Text.notBlank phone then [("recipient_phone", "The recipient phone field is required.")]
  else complaint (!Phone.isMobile phone) "recipient_phone"
    "The recipient phone must be a valid mobile number."

/-- The complaints about a draft, rule by rule. Absent codes are no problem. -/
def complaints (d : Draft) : Complaints :=
  let s := d.shipment
  storeComplaints s ++
    complaint (!Text.notBlank s.recipient.name) "recipient_name"
      "The recipient name field is required." ++
    phoneComplaints s.recipient.phone ++
    complaint (!Text.notBlank s.recipient.address) "recipient_address"
      "The recipient address field is required." ++
    complaint (s.amount ≤ 0) "amount_to_collect" "The amount to collect field is required." ++
    complaint (s.quantity ≤ 0) "item_quantity" "The item quantity field is required." ++
    complaint (s.weight ≤ 0) "item_weight" "The item weight field is required." ++
    complaint (d.deliveryCode.any fun c => (DeliveryType.ofCode? c).isNone) "delivery_type"
      "The selected delivery type is invalid." ++
    complaint (d.itemCode.any fun c => (ItemType.ofCode? c).isNone) "item_type"
      "The selected item type is invalid."

/-- Nothing, or the messages about every field with a broken rule. -/
def validate (d : Draft) : Except FieldErrors Unit := d.complaints.verdict

/-- More characters than a field may have. -/
def tooLong (most : Nat) (s : String) : Bool := most < s.length

def lengthComplaint (most : Nat) (field title : String) (value : Option String) : Complaints :=
  complaint (value.any (tooLong most)) field s!"The {title} may not be greater than {most} characters."

/-- The complaints about texts that no form may carry. -/
def lengthComplaints (d : Draft) : Complaints :=
  let s := d.shipment
  lengthComplaint 100 "merchant_order_id" "merchant order id" s.merchantOrderId ++
    lengthComplaint 255 "recipient_name" "recipient name" s.recipient.name ++
    lengthComplaint 20 "recipient_phone" "recipient phone" s.recipient.phone ++
    lengthComplaint 500 "recipient_address" "recipient address" s.recipient.address ++
    lengthComplaint 500 "special_instruction" "special instruction" s.specialInstruction ++
    lengthComplaint 500 "item_description" "item description" s.itemDescription

end ParcelDesk.Draft
