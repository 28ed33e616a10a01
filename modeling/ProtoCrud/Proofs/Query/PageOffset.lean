import ProtoCrud.Query.Pagination

/-!
# The offset of a page

The fields of a page are open, so an offset can be asked of any two numbers of thirty-two bits. Both
are widened before anything is computed from them, and then no step leaves the sixty-four bits. A
page that was resolved has rows in front of it, and the row behind its last still has a number.
-/

namespace ProtoCrud.Query

/-- Whether an integer is a number of sixty-four bits. -/
def FitsInt64 (n : Int) : Prop :=
  Int64.minValue.toInt ≤ n ∧ n ≤ Int64.maxValue.toInt

theorem fitsInt64_iff {n : Int} :
    FitsInt64 n ↔ -9223372036854775808 ≤ n ∧ n < 9223372036854775808 := by
  rw [FitsInt64, Int64.toInt_minValue, Int64.toInt_maxValue]
  omega

/-- A difference that fits is computed without wrapping. -/
theorem toInt_sub_of_fits {a b : Int64} (h : FitsInt64 (a.toInt - b.toInt)) :
    (a - b).toInt = a.toInt - b.toInt := by
  obtain ⟨hlower, hupper⟩ := fitsInt64_iff.mp h
  rw [Int64.toInt_sub]
  exact Int.bmod_eq_of_le_mul_two (by omega) (by omega)

/-- A product that fits is computed without wrapping. -/
theorem toInt_mul_of_fits {a b : Int64} (h : FitsInt64 (a.toInt * b.toInt)) :
    (a * b).toInt = a.toInt * b.toInt := by
  obtain ⟨hlower, hupper⟩ := fitsInt64_iff.mp h
  rw [Int64.toInt_mul]
  exact Int.bmod_eq_of_le_mul_two (by omega) (by omega)

namespace Pagination

theorem fits_before (pagination : Pagination) : FitsInt64 (pagination.page.toInt - 1) := by
  have hlower := pagination.page.le_toInt
  have hupper := pagination.page.toInt_lt
  rw [fitsInt64_iff]
  omega

/-- The extremes of both signs meet at `(-2 ^ 31 - 1) * -2 ^ 31`, half of what the limit is. -/
theorem fits_offset (pagination : Pagination) :
    FitsInt64 ((pagination.page.toInt - 1) * pagination.pageSize.toInt) := by
  have hpage := pagination.page.le_toInt
  have hpage' := pagination.page.toInt_lt
  have hsize := pagination.pageSize.le_toInt
  have hsize' := pagination.pageSize.toInt_lt
  have hbound : ((pagination.page.toInt - 1) * pagination.pageSize.toInt).natAbs <
      9223372036854775808 := by
    calc ((pagination.page.toInt - 1) * pagination.pageSize.toInt).natAbs
      _ = (pagination.page.toInt - 1).natAbs * pagination.pageSize.toInt.natAbs :=
        Int.natAbs_mul _ _
      _ ≤ (2 ^ 31 + 1) * 2 ^ 31 := Nat.mul_le_mul (by omega) (by omega)
      _ < 9223372036854775808 := by decide
  rw [fitsInt64_iff]
  omega

/-- The number of the page before is computed without overflow. -/
theorem toInt_before (pagination : Pagination) :
    (pagination.page.toInt64 - 1).toInt = pagination.page.toInt - 1 := by
  have hfits := pagination.fits_before
  rw [← Int32.toInt_toInt64, ← Int64.toInt_one] at hfits
  rw [toInt_sub_of_fits hfits, Int32.toInt_toInt64, Int64.toInt_one]

/-- The offset of a page is computed without overflow, whatever the page. -/
theorem toInt_offset (pagination : Pagination) :
    pagination.offset.toInt = (pagination.page.toInt - 1) * pagination.pageSize.toInt := by
  have hfits := pagination.fits_offset
  rw [← toInt_before, ← Int32.toInt_toInt64 pagination.pageSize] at hfits
  rw [offset, toInt_mul_of_fits hfits, toInt_before, Int32.toInt_toInt64]

/-- Of two pages of one positive size the later one has the greater offset. -/
theorem offset_lt_offset_iff {earlier later : Pagination}
    (hsame : earlier.pageSize = later.pageSize) (hsize : 1 ≤ later.pageSize.toInt) :
    earlier.offset < later.offset ↔ earlier.page < later.page := by
  rw [Int64.lt_iff_toInt_lt, Int32.lt_iff_toInt_lt, toInt_offset, toInt_offset, hsame,
    Int.mul_lt_mul_right (by omega)]
  omega

/-- A number that falls back to a positive default unless it is positive. -/
theorem one_le_toInt_fallback (number : Int32) {fallback : Int32} (h : 1 ≤ fallback.toInt) :
    1 ≤ (if 0 < number then number else fallback).toInt := by
  split
  · next hpositive =>
    have : 0 < number.toInt := Int32.lt_iff_toInt_lt.mp hpositive
    omega
  · exact h

theorem one_le_page_resolve (request : Option PageRequest) :
    1 ≤ (resolve request).page.toInt := by
  cases request with
  | none => decide
  | some request => exact one_le_toInt_fallback request.page (by decide)

theorem one_le_pageSize_resolve (request : Option PageRequest) :
    1 ≤ (resolve request).pageSize.toInt := by
  cases request with
  | none => decide
  | some request => exact one_le_toInt_fallback request.pageSize (by decide)

/-- The rows of a page that was resolved are numbered by sixty-four bits, up to the last of them. -/
structure NumbersItsRows (pagination : Pagination) : Prop where
  page : 1 ≤ pagination.page.toInt
  pageSize : 1 ≤ pagination.pageSize.toInt
  offset : 0 ≤ pagination.offset.toInt
  behind : FitsInt64 (pagination.offset.toInt + pagination.pageSize.toInt)

theorem numbersItsRows_resolve (request : Option PageRequest) :
    (resolve request).NumbersItsRows := by
  have hpage := one_le_page_resolve request
  have hsize := one_le_pageSize_resolve request
  have hoffset : 0 ≤ (resolve request).offset.toInt := by
    rw [toInt_offset]
    exact Int.mul_nonneg (by omega) (by omega)
  refine ⟨hpage, hsize, hoffset, fitsInt64_iff.mpr ⟨by omega, ?_⟩⟩
  have hpage' := (resolve request).page.toInt_lt
  have hsize' := (resolve request).pageSize.toInt_lt
  calc (resolve request).offset.toInt + (resolve request).pageSize.toInt
    _ = (resolve request).page.toInt * (resolve request).pageSize.toInt := by
      rw [toInt_offset, Int.sub_mul, Int.one_mul, Int.sub_add_cancel]
    _ ≤ 2 ^ 31 * 2 ^ 31 := Int.mul_le_mul (by omega) (by omega) (by omega) (by omega)
    _ < 9223372036854775808 := by decide

/--
Each step towards an offset gives the exact integer, for any two numbers. The page that a request
resolves to lies in front of the end of the sixty-four bits, and of two such pages of one size the
later one has the greater offset.
-/
theorem offset_exact_and_increasing :
    (∀ pagination : Pagination,
      (FitsInt64 (pagination.page.toInt - 1) ∧
        (pagination.page.toInt64 - 1).toInt = pagination.page.toInt - 1) ∧
      FitsInt64 ((pagination.page.toInt - 1) * pagination.pageSize.toInt) ∧
        pagination.offset.toInt = (pagination.page.toInt - 1) * pagination.pageSize.toInt) ∧
    (∀ request : Option PageRequest, (resolve request).NumbersItsRows) ∧
    ∀ earlier later : Option PageRequest,
      (resolve earlier).pageSize = (resolve later).pageSize →
        ((resolve earlier).offset < (resolve later).offset ↔
          (resolve earlier).page < (resolve later).page) := by
  refine ⟨fun pagination ↦ ⟨⟨pagination.fits_before, pagination.toInt_before⟩,
    pagination.fits_offset, pagination.toInt_offset⟩, numbersItsRows_resolve, ?_⟩
  intro earlier later hsame
  exact offset_lt_offset_iff hsame (one_le_pageSize_resolve later)

/-- The last two pages of the greatest size. -/
theorem offset_last_pages :
    (resolve (some ⟨2147483646, 2147483647, "", false⟩)).pageSize =
        (resolve (some ⟨2147483647, 2147483647, "id", true⟩)).pageSize ∧
      ((resolve (some ⟨2147483646, 2147483647, "", false⟩)).offset <
          (resolve (some ⟨2147483647, 2147483647, "id", true⟩)).offset ↔
        (resolve (some ⟨2147483646, 2147483647, "", false⟩)).page <
          (resolve (some ⟨2147483647, 2147483647, "id", true⟩)).page) :=
  ⟨by decide, offset_exact_and_increasing.2.2 _ _ (by decide)⟩

end Pagination

end ProtoCrud.Query
