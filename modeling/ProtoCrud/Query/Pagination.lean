/-!
# Pages and sort order of a list

A page request may leave fields unset or carry numbers that make no page; resolving it puts the
defaults in their place. The offset is computed in sixty-four bits, where it cannot overflow.
-/

namespace ProtoCrud.Query

/-- The page part of a search message, as it travels. -/
structure PageRequest where
  page : Int32
  pageSize : Int32
  sortBy : String
  descending : Bool
  deriving DecidableEq

structure Pagination where
  /-- The number of the page, counted from one. -/
  page : Int32
  /-- The number of rows on a page. -/
  pageSize : Int32
  sortBy : String
  descending : Bool
  deriving DecidableEq

/-- The columns that every table carries; each of them may be sorted on. -/
def standardColumns : List String :=
  ["id", "created_at", "updated_at", "created_by", "updated_by"]

namespace Pagination

/-- The page that is shown when none is asked for. -/
def defaultPage : Int32 := 1

/-- The number of rows on a page when none is asked for. -/
def defaultPageSize : Int32 := 10

/-- The column that is sorted on when no usable one is named. -/
def defaultSortBy : String := "created_at"

/-- The first page, newest rows first. -/
def default : Pagination :=
  ⟨defaultPage, defaultPageSize, defaultSortBy, true⟩

/--
The page that a request asks for. Without a request the order is descending; a request has its say
on the order even if it leaves everything else open.
-/
def resolve : Option PageRequest → Pagination
  | none => default
  | some request =>
    { page := if 0 < request.page then request.page else defaultPage
      pageSize := if 0 < request.pageSize then request.pageSize else defaultPageSize
      sortBy := if request.sortBy = "" then defaultSortBy else request.sortBy
      descending := request.descending }

/-- The number of rows in front of the page. -/
def offset (pagination : Pagination) : Int64 :=
  (pagination.page.toInt64 - 1) * pagination.pageSize.toInt64

/-- The keyword of the sort order. -/
def direction (pagination : Pagination) : String :=
  if pagination.descending then "DESC" else "ASC"

/-- The column to sort on: the one asked for, if it may be sorted on. -/
def sortColumn (pagination : Pagination) (allowed : List String) : String :=
  if allowed.contains pagination.sortBy || standardColumns.contains pagination.sortBy then
    pagination.sortBy
  else defaultSortBy

end Pagination

structure Page (α : Type) where
  items : List α
  /-- The number of matching rows on all pages together. -/
  total : Int64
  page : Int32
  pageSize : Int32

end ProtoCrud.Query
