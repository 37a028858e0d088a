import ParcelDesk.Proofs.CacheEntries

/-!
Deletions from the cache. A deletion takes out whatever is kept under a key, be it a text, a mirror
or the index. As no two slots share a key, it empties one slot, and if that is the slot of a token
or of a session, then nothing that is kept of orders goes with it, and no text of another token.
-/

namespace ParcelDesk.Cache

def Slot.OfSessions : Slot → Prop
  | token _ _ | session _ => True
  | index | order _ => False

theorem Slot.OfSessions.ne_index {s : Slot} (h : s.OfSessions) : .index ≠ s := by
  rintro rfl
  exact h

theorem Slot.OfSessions.ne_order {s : Slot} (h : s.OfSessions) (consignmentId : String) :
    .order consignmentId ≠ s := by
  rintro rfl
  exact h

namespace Memory

structure SameBut (s : Slot) (m m' : Memory) : Prop where
  texts (t : Slot) (h : t ≠ s) : m'.texts.lookup t.key = m.texts.lookup t.key
  mirrors (consignmentId : String) (h : .order consignmentId ≠ s) :
    m'.mirrors.lookup (orderKey consignmentId) = m.mirrors.lookup (orderKey consignmentId)
  index (h : .index ≠ s) : m'.index = m.index

theorem sameBut_delete (m : Memory) (s : Slot) : m.SameBut s (m.delete s.key).2 where
  texts t h := lookup_delete_of_ne (Slot.key_injective.ne h)
  mirrors consignmentId h := by
    unfold delete change
    split
    · rfl
    · exact Entries.lookup_erase_of_ne (Slot.key_injective.ne h) _
  index h := by
    unfold delete change
    split
    · rfl
    · exact if_neg (Slot.key_injective.ne h.symm)

/-- Whatever texts the ids and tokens are, every slot of the cache has a key of its own: no two
tokens, orders or sessions share a key, none of them has that of another family, and the index is
apart. So to delete the key of a token or a session takes out that text, and takes out no mirror,
nothing from the index, no text of another kind or token, no session of another user, and no token
that names another user than the deleted text does. -/
theorem deletions_empty_one_slot :
    Function.Injective Slot.key ∧
    ∀ (m : Memory) (s : Slot), s.OfSessions →
      (m.isDown = false → (m.delete s.key).2.texts.lookup s.key = none) ∧
      (∀ consignmentId, (m.delete s.key).2.mirrors.lookup (orderKey consignmentId) =
        m.mirrors.lookup (orderKey consignmentId)) ∧
      (m.delete s.key).2.index = m.index ∧
      (∀ kind token, .token kind token ≠ s →
        (m.delete s.key).2.texts.lookup (tokenKey kind token) =
          m.texts.lookup (tokenKey kind token)) ∧
      (∀ userId, .session userId ≠ s →
        (m.delete s.key).2.texts.lookup (sessionKey userId) =
          m.texts.lookup (sessionKey userId)) ∧
      ∀ kind token gone kept, m.texts.lookup s.key = some gone →
        m.texts.lookup (tokenKey kind token) = some kept → kept.value ≠ gone.value →
        (m.delete s.key).2.texts.lookup (tokenKey kind token) = some kept := by
  refine ⟨Slot.key_injective, fun m s hs => ?_⟩
  have hsame := m.sameBut_delete s
  refine ⟨fun hup => lookup_delete_self hup s.key, fun id => hsame.mirrors id (hs.ne_order id),
    hsame.index hs.ne_index, fun kind token => hsame.texts (.token kind token),
    fun userId => hsame.texts (.session userId), ?others⟩
  case others =>
    intro kind token gone kept hgone hkept hvalue
    have hother : .token kind token ≠ s := by
      rintro rfl
      exact hvalue (congrArg Expiring.value (Option.some.inj (hkept.symm.trans hgone)))
    exact (hsame.texts _ hother).trans hkept

def crowdedCache : Memory where
  texts := [("access_token:session:-7", ⟨"7", 600000⟩), ("refresh_token:session:-7", ⟨"7", 600000⟩),
    ("session:-7", ⟨"-7", 600000⟩), ("access_token:order:session:-7", ⟨"-7", 600000⟩)]
  mirrors := [("order:access_token:session:-7", [("order_status", "Pending")]),
    ("order:session:-7", [("order_status", "Delivered")])]
  index := [(1704067200, "access_token:session:-7"), (1704067200, "session:-7")]

/-- The token is gone, and all that is named like it is still there. -/
theorem namesakes_outlast_deletions : Slot.OfSessions (.token .access "session:-7") ∧
    ∃ m, crowdedCache.delete "access_token:session:-7" = (.ok (), m) ∧
      m.texts.lookup "access_token:session:-7" = none ∧
      m.mirrors.lookup "order:access_token:session:-7" = some [("order_status", "Pending")] ∧
      m.index = crowdedCache.index ∧
      m.texts.lookup "refresh_token:session:-7" = some ⟨"7", 600000⟩ ∧
      m.texts.lookup "session:-7" = some ⟨"-7", 600000⟩ ∧
      m.texts.lookup "access_token:order:session:-7" = some ⟨"-7", 600000⟩ := by
  obtain ⟨hgone, hmirrors, hindex, htokens, hsessions, hothers⟩ :=
    deletions_empty_one_slot.2 crowdedCache (.token .access "session:-7") trivial
  have hsession := hsessions (-7) (by decide)
  rw [show sessionKey (-7) = "session:-7" by decide] at hsession
  exact ⟨trivial, _, rfl, hgone rfl, hmirrors "access_token:session:-7", hindex,
    htokens .refresh "session:-7" (by decide), hsession,
    hothers .access "order:session:-7" ⟨"7", 600000⟩ ⟨"-7", 600000⟩ rfl rfl (by decide)⟩

end Memory

end ParcelDesk.Cache
