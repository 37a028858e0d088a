import Mathlib.Data.List.Induction
import ParcelDesk.Store.Users

/-!
Accounts that cannot be mistaken for one another. However accounts were handed in, under ids of
their own or under the next one, no two that are kept share a name, or an email in any case, and
deleted ones count. So a name alone, or an email alone, leads to one account at most, in whatever
order the accounts are looked through.
-/

namespace ParcelDesk

theorem Text.sameIgnoringAsciiCase_iff (s t : String) : Text.sameIgnoringAsciiCase s t = true ↔
    s.toList.map Char.toLower = t.toList.map Char.toLower :=
  beq_iff_eq

namespace User

/-- The accounts have different names, and emails that differ in more than the case. -/
structure Apart (u v : User) : Prop where
  names : u.name ≠ v.name
  emails : Text.sameIgnoringAsciiCase u.email v.email = false

end User

inductive Identifier where
  | name (s : String)
  | email (s : String)

namespace Identifier

def name? : Identifier → Option String
  | name s => some s
  | email _ => none

def email? : Identifier → Option String
  | name _ => none
  | email s => some s

end Identifier

def User.isCalled (i : Identifier) (u : User) : Bool :=
  u.isActive && u.answersTo i.name? i.email?

/-- One identifier does not call two accounts that are apart. -/
theorem User.Apart.not_both {u v : User} (h : u.Apart v) {i : Identifier}
    (hu : u.isCalled i = true) : ¬ v.isCalled i = true := by
  intro hv
  simp only [User.isCalled, Bool.and_eq_true] at hu hv
  cases i with
  | name s =>
    have hnames : s = u.name ∧ s = v.name := by
      simpa [User.answersTo, Identifier.name?, Identifier.email?] using And.intro hu.2 hv.2
    exact h.names (hnames.1.symm.trans hnames.2)
  | email s =>
    have hemails : Text.sameIgnoringAsciiCase s u.email = true ∧
        Text.sameIgnoringAsciiCase s v.email = true := by
      simpa [User.answersTo, Identifier.name?, Identifier.email?] using And.intro hu.2 hv.2
    rw [Text.sameIgnoringAsciiCase_iff, Text.sameIgnoringAsciiCase_iff] at hemails
    have hsame : Text.sameIgnoringAsciiCase u.email v.email = true :=
      (Text.sameIgnoringAsciiCase_iff _ _).mpr (hemails.1.symm.trans hemails.2)
    rw [h.emails] at hsame
    cases hsame

section Lists

variable {α : Type} {p : α → Bool} {R : α → α → Prop} {xs ys : List α}

/-- If related items never fit both, at most one item of a pairwise related list fits. -/
theorem length_filter_le_one (h : xs.Pairwise R)
    (hone : ∀ {a b}, R a b → p a = true → ¬ p b = true) : (xs.filter p).length ≤ 1 := by
  have hpairs : (xs.filter p).Pairwise R := h.filter p
  have hfits : ∀ a ∈ xs.filter p, p a = true := fun a ha => (List.mem_filter.mp ha).2
  match xs.filter p, hpairs, hfits with
  | [], _, _ => exact Nat.zero_le 1
  | [_], _, _ => exact Nat.le_refl 1
  | a :: b :: rest, hpairs, hfits =>
    have hab : R a b := List.rel_of_pairwise_cons hpairs List.mem_cons_self
    exact absurd (hfits b (by simp)) (hone hab (hfits a (by simp)))

/-- The order in which items are looked through does not matter if one at most fits. -/
theorem find?_eq_of_perm (hone : (xs.filter p).length ≤ 1) (hperm : ys.Perm xs) :
    ys.find? p = xs.find? p := by
  have hfilter : (ys.filter p).Perm (xs.filter p) := hperm.filter p
  have hsame : ys.filter p = xs.filter p := by
    match xs.filter p, hone, hfilter with
    | [], _, hfilter => exact hfilter.eq_nil
    | [a], _, hfilter => exact List.perm_singleton.mp hfilter
    | _ :: _ :: _, hone, _ => simp at hone
  rw [← List.head?_filter, hsame, List.head?_filter]

end Lists

namespace UserStore

variable {s : UserStore} {u : User}

def ofAll (us : List User) : UserStore := us.foldl (fun s u => (s.insert u).2) {}

def findBy (s : UserStore) (i : Identifier) : Option User := s.find i.name? i.email?

def placed (s : UserStore) (u : User) : User :=
  { u with id := if u.id = 0 then s.nextId else u.id }

theorem isTaken_eq_true_iff (s : UserStore) (u : User) :
    s.isTaken u.name u.email = true ↔ ∃ v ∈ s.rows, ¬ v.Apart u := by
  rw [isTaken, List.any_eq_true]
  refine exists_congr fun v => and_congr_right fun _ => ?_
  rw [Bool.or_eq_true, beq_iff_eq]
  constructor
  · rintro (hname | hemail) hapart
    · exact hapart.names hname
    · rw [hapart.emails] at hemail
      cases hemail
  · intro h
    by_contra hnot
    rw [not_or, Bool.not_eq_true] at hnot
    exact h ⟨hnot.1, hnot.2⟩

theorem insert_of_taken (h : ∃ v ∈ s.rows, ¬ v.Apart u) :
    s.insert u = (.error (.invalid (FieldErrors.single "user_name" "User already registered")), s) :=
  if_pos ((isTaken_eq_true_iff s u).mpr h)

theorem insert_of_free (h : ∀ v ∈ s.rows, v.Apart u) :
    s.insert u = (.ok (s.placed u),
      ⟨s.rows.filter (fun v => v.id ≠ (s.placed u).id) ++ [s.placed u]⟩) := by
  refine if_neg fun htaken => ?_
  obtain ⟨v, hv, hnot⟩ := (isTaken_eq_true_iff s u).mp htaken
  exact hnot (h v hv)

structure Distinct (s : UserStore) : Prop where
  apart : s.rows.Pairwise User.Apart
  ids : (s.rows.map User.id).Nodup

theorem Distinct.insert (h : s.Distinct) (u : User) : (s.insert u).2.Distinct := by
  by_cases hfree : ∀ v ∈ s.rows, v.Apart u
  · rw [insert_of_free hfree]
    constructor
    · refine List.pairwise_append.mpr ⟨h.apart.filter _, List.pairwise_singleton _ _, ?_⟩
      intro v hv row hrow
      obtain rfl := List.mem_singleton.mp hrow
      have hapart := hfree v (List.mem_filter.mp hv).1
      exact ⟨hapart.names, hapart.emails⟩
    · rw [List.map_append, List.map_singleton, List.nodup_append]
      refine ⟨h.ids.sublist (List.filter_sublist.map _), List.pairwise_singleton _ _, ?_⟩
      intro id hid other hother
      obtain ⟨v, hv, rfl⟩ := List.mem_map.mp hid
      obtain rfl := List.mem_singleton.mp hother
      exact of_decide_eq_true (List.mem_filter.mp hv).2
  · push Not at hfree
    rw [insert_of_taken hfree]
    exact h

theorem distinct_ofAll (us : List User) : (ofAll us).Distinct := by
  induction us using List.reverseRecOn with
  | nil => exact ⟨List.Pairwise.nil, List.nodup_nil⟩
  | append_singleton us u ih =>
    have hlast : ofAll (us ++ [u]) = ((ofAll us).insert u).2 := List.foldl_append
    rw [hlast]
    exact ih.insert u

/-- For every sequence of accounts that were handed in: no two of the accounts that are kept,
deleted ones included, have the same name, or the same email in any case, and none have the same
id. One name or one email calls at most one of them, which is found in whatever order they are
looked through. A further account is refused exactly if it is not apart from all of them, and then
the store stays as it is. -/
theorem accounts_are_unambiguous (us : List User) :
    ((ofAll us).rows.Pairwise User.Apart ∧ ((ofAll us).rows.map User.id).Nodup) ∧
    (∀ i : Identifier, ((ofAll us).rows.filter (User.isCalled i)).length ≤ 1 ∧
      ∀ rows, rows.Perm (ofAll us).rows → UserStore.findBy ⟨rows⟩ i = (ofAll us).findBy i) ∧
    ∀ u, ((∃ f, ((ofAll us).insert u).1 = .error f) ↔ ∃ v ∈ (ofAll us).rows, ¬ v.Apart u) ∧
      ∀ f, ((ofAll us).insert u).1 = .error f → ((ofAll us).insert u).2 = ofAll us := by
  obtain ⟨hapart, hids⟩ := distinct_ofAll us
  refine ⟨⟨hapart, hids⟩, fun i => ?_, fun u => ?_⟩
  · have hone : ((ofAll us).rows.filter (User.isCalled i)).length ≤ 1 :=
      length_filter_le_one hapart fun hab => hab.not_both
    exact ⟨hone, fun rows hperm => find?_eq_of_perm hone hperm⟩
  · by_cases htaken : ∃ v ∈ (ofAll us).rows, ¬ v.Apart u
    · rw [insert_of_taken htaken]
      exact ⟨⟨fun _ => htaken, fun _ => ⟨_, rfl⟩⟩, fun _ _ => rfl⟩
    · have hfree : ∀ v ∈ (ofAll us).rows, v.Apart u := by
        push Not at htaken
        exact htaken
      rw [insert_of_free hfree]
      refine ⟨⟨?_, fun h => absurd h htaken⟩, ?_⟩
      · rintro ⟨f, ⟨⟩⟩
      · rintro f ⟨⟩

def accountUnder (id : Int) (name email : String) (deletedAt : Option Instant) : User :=
  ⟨id, name, email, "", ⟨0, 0⟩, ⟨0, 0⟩, deletedAt⟩

def threeAccounts : List User :=
  [accountUnder 0 "karim" "karim@example.com" none,
    accountUnder 0 "rahim" "rahim@example.com" (some ⟨0, 0⟩),
    accountUnder 1 "salma" "salma@example.com" none]

/-- An account with the email of a deleted one, in another case, is refused, and an email leads to
its account in both orders. -/
theorem three_accounts_are_unambiguous :
    (ofAll threeAccounts).rows.map User.name = ["rahim", "salma"] ∧
    (ofAll threeAccounts).rows.Pairwise User.Apart ∧
    (∃ f, ((ofAll threeAccounts).insert
      (accountUnder 7 "jamil" "RAHIM@Example.com" none)).1 = .error f) ∧
    ((ofAll threeAccounts).insert (accountUnder 7 "jamil" "RAHIM@Example.com" none)).2 =
      ofAll threeAccounts ∧
    UserStore.findBy ⟨(ofAll threeAccounts).rows.reverse⟩ (.email "Salma@Example.com") =
      some (accountUnder 1 "salma" "salma@example.com" none) := by
  obtain ⟨⟨hapart, -⟩, hfind, hrefuse⟩ := accounts_are_unambiguous threeAccounts
  obtain ⟨hwhen, hstays⟩ := hrefuse (accountUnder 7 "jamil" "RAHIM@Example.com" none)
  have hrahim : ∃ v ∈ (ofAll threeAccounts).rows,
      ¬ v.Apart (accountUnder 7 "jamil" "RAHIM@Example.com" none) :=
    ⟨_, List.mem_cons_self, fun h => absurd h.emails (by decide)⟩
  obtain ⟨f, hrefused⟩ := hwhen.mpr hrahim
  refine ⟨by decide, hapart, ⟨f, hrefused⟩, hstays f hrefused, ?_⟩
  rw [(hfind (.email "Salma@Example.com")).2 _ (List.reverse_perm _)]
  decide

end UserStore

end ParcelDesk
