import ParcelDesk.Json.Decode
import ParcelDesk.Json.Value

/-!
Pages of a listing. A page number starts at one; the page size stays between one and a maximum, and
a size that is absent or zero becomes the default. Numbers are words of 32 bits, totals of 64.
-/

namespace ParcelDesk

structure Paging where
  page : UInt32
  perPage : UInt32
deriving DecidableEq, Repr

namespace Paging

def defaultSize : UInt32 := 20

def maximalSize : UInt32 := 100

/-- The page that a request asks for, within the bounds of the listing. -/
def within (page perPage : Option UInt32) (default maximum : UInt32) : Paging :=
  let size :=
    match perPage with
    | none => default
    | some n => if n = 0 then default else n
  ⟨max (page.getD 1) 1, min (max size 1) (max maximum 1)⟩

/-- The page within the bounds that hold where none are configured. -/
def ofRequest (page perPage : Option UInt32) : Paging :=
  within page perPage defaultSize maximalSize

def first : Paging := ⟨1, defaultSize⟩

/-- The number of entries before the page. -/
def offset (p : Paging) : Nat := (p.page.toNat - 1) * p.perPage.toNat

def limit (p : Paging) : Nat := p.perPage.toNat

def currentPage (p : Paging) : UInt32 := UInt32.ofNat (p.offset / p.limit) + 1

/-- The number of pages that hold so many entries, cut to 32 bits. -/
def lastPage (p : Paging) (total : Nat) : UInt32 :=
  UInt32.ofNat ((total + p.limit - 1) / p.limit)

/-- The entries of the page out of all entries. -/
def slice {α : Type} (p : Paging) (xs : List α) : List α := (xs.drop p.offset).take p.limit

def toJson (p : Paging) : Json := .obj [("page", .int p.page.toNat), ("per_page", .int p.perPage.toNat)]

def decode : Json.Decoder Paging :=
  Json.Record.decode "Pagination" <|
    mk <$> .required "page" (fun n => (Json.nat32 n).map UInt32.ofNat)
      <*> .required "per_page" (fun n => (Json.nat32 n).map UInt32.ofNat)

end Paging

end ParcelDesk
