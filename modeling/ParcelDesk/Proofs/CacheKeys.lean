import ParcelDesk.Cache.Memory
import ParcelDesk.Proofs.Decimals
import ParcelDesk.Text.Basic

/-!
The keys of the cache share one flat space of texts, and an id or a token is put into a key as it
is, with all the colons and leads of other families that it may have. Still every key belongs to
one slot: no lead has a colon, so a key is read by cutting it at the first one.
-/

namespace ParcelDesk.Cache

open Text (takeWhile_ne_append)

/-- The families of keys, of which the index of orders is one by itself. -/
inductive Family where
  | index
  | order
  | token (kind : TokenKind)
  | session
deriving DecidableEq, Repr

def Family.lead : Family → String
  | index => "orders"
  | order => "order"
  | token kind => kind.family
  | session => "session"

theorem Family.lead_injective : Function.Injective Family.lead := by
  intro f g h
  rcases f with _ | _ | (_ | _) | _ <;> rcases g with _ | _ | (_ | _) | _ <;>
    simp [lead, TokenKind.family] at h ⊢

theorem Family.colon_notMem_lead (f : Family) : ':' ∉ f.lead.toList := by
  rcases f with _ | _ | (_ | _) | _ <;> decide

inductive Slot where
  | index
  | order (consignmentId : String)
  | token (kind : TokenKind) (token : String)
  | session (userId : Int)
deriving DecidableEq, Repr

namespace Slot

def key : Slot → String
  | index => orderIndex
  | order consignmentId => orderKey consignmentId
  | token kind text => tokenKey kind text
  | session userId => sessionKey userId

def family : Slot → Family
  | index => .index
  | order _ => .order
  | token kind _ => .token kind
  | session _ => .session

def tail : Slot → List Char
  | index => []
  | order consignmentId => ':' :: consignmentId.toList
  | token _ text => ':' :: text.toList
  | session userId => ':' :: Decimal.integerDigits userId

theorem toList_key (s : Slot) : s.key.toList = s.family.lead.toList ++ s.tail := by
  cases s with
  | index => exact (List.append_nil _).symm
  | order consignmentId => simp [key, orderKey, family, Family.lead, tail]
  | token kind text => simp [key, tokenKey, family, Family.lead, tail]
  | session userId => simp [key, sessionKey, family, Family.lead, tail]

/-- A key up to its first colon is the lead of its family. -/
theorem takeWhile_key (s : Slot) :
    s.key.toList.takeWhile (· ≠ ':') = s.family.lead.toList := by
  rw [toList_key]
  cases s with
  | index => decide
  | _ => exact takeWhile_ne_append (Family.colon_notMem_lead _) _

theorem family_eq_of_key_eq {s t : Slot} (h : s.key = t.key) : s.family = t.family := by
  apply Family.lead_injective
  apply String.toList_inj.mp
  rw [← takeWhile_key, ← takeWhile_key, h]

theorem eq_of_tail_eq {s t : Slot} (hfamily : s.family = t.family) (htail : s.tail = t.tail) :
    s = t := by
  cases s <;> cases t <;> cases hfamily
  case index.index => rfl
  case order.order => exact congrArg order (String.toList_inj.mp (List.cons.inj htail).2)
  case token.token => exact congrArg (token _) (String.toList_inj.mp (List.cons.inj htail).2)
  case session.session =>
    exact congrArg session (Decimal.integerDigits_injective (List.cons.inj htail).2)

theorem key_injective : Function.Injective key := by
  intro s t h
  have hfamily := family_eq_of_key_eq h
  have hlist := congrArg String.toList h
  rw [toList_key, toList_key, hfamily] at hlist
  exact eq_of_tail_eq hfamily (List.append_cancel_left hlist)

end Slot

/-- A key of the cache belongs to one token of one kind. -/
theorem tokenKey_inj {kind kind' : TokenKind} {token token' : String}
    (h : tokenKey kind token = tokenKey kind' token') : kind = kind' ∧ token = token' :=
  Slot.token.inj (@Slot.key_injective (.token kind token) (.token kind' token') h)

theorem sessionKey_ne_tokenKey (userId : Int) (kind : TokenKind) (token : String) :
    sessionKey userId ≠ tokenKey kind token := fun h => by
  cases @Slot.key_injective (.session userId) (.token kind token) h

theorem orderKey_injective : Function.Injective orderKey := fun consignmentId other h =>
  Slot.order.inj (@Slot.key_injective (.order consignmentId) (.order other) h)

structure NotOfOrders (key : String) : Prop where
  ne_index : key ≠ orderIndex
  ne_order : ∀ consignmentId, orderKey consignmentId ≠ key

theorem notOfOrders_tokenKey (kind : TokenKind) (token : String) :
    NotOfOrders (tokenKey kind token) where
  ne_index h := by cases @Slot.key_injective (.token kind token) .index h
  ne_order consignmentId h := by
    cases @Slot.key_injective (.order consignmentId) (.token kind token) h

theorem notOfOrders_sessionKey (userId : Int) : NotOfOrders (sessionKey userId) where
  ne_index h := by cases @Slot.key_injective (.session userId) .index h
  ne_order consignmentId h := by
    cases @Slot.key_injective (.order consignmentId) (.session userId) h

end ParcelDesk.Cache
