/-
MediaSearch/Proofs/Compile/Window.lean

The limit and the offset of a page as exact numbers.

`Settings.window` computes with numbers of any size and cuts off what a store
cannot take.  The same numbers come out of words of 64 bits: the page is read
as a word without sign, one is taken off, the product stops at the largest
word, and a word too large for a sign becomes the largest signed one.  None of
these steps wraps around: the page is at least 1 when its sign is dropped and
when one is taken off, and the product stops where it would overflow
(`toNat_pagesBefore`, `toNat_saturatingWordMul`, `clampWord_eq`).

Main result: `Settings.window_exact`.
-/
import MediaSearch.Proofs.Compile.Pages

namespace MediaSearch

/-! ### Words -/

/-- The largest word of 64 bits. -/
def maxWord : UInt64 := 18446744073709551615

/-- The product of two words, or the largest word instead of a larger
product. -/
def saturatingWordMul (a b : UInt64) : UInt64 :=
  if b ≠ 0 ∧ maxWord / b < a then maxWord else a * b

/-- A word as a signed one, or the largest signed one instead of a larger
word. -/
def clampWord (n : UInt64) : Int64 :=
  if n ≤ maxLimit then n.toInt64 else Int64.maxValue

/-- How many pages stand before a page. -/
def pagesBefore (page : Int64) : UInt64 :=
  (max page 1).toUInt64 - 1

theorem toNat_maxWord : maxWord.toNat = UInt64.size - 1 := rfl

/-- The product overflows exactly where the division says so. -/
theorem toNat_saturatingWordMul (a b : UInt64) :
    (saturatingWordMul a b).toNat = saturatingMul a.toNat b.toNat := by
  -- the test divides, since the product itself may not fit into a word
  have overflows : b ≠ 0 ∧ maxWord / b < a ↔ UInt64.size - 1 < a.toNat * b.toNat := by
    rw [UInt64.lt_iff_toNat_lt, UInt64.toNat_div, toNat_maxWord, ne_eq, ← UInt64.toNat_inj,
      UInt64.toNat_zero]
    constructor
    · rintro ⟨positive, less⟩
      exact (Nat.div_lt_iff_lt_mul (Nat.pos_of_ne_zero positive)).mp less
    · intro less
      have positive : b.toNat ≠ 0 := by
        intro zero
        rw [zero, Nat.mul_zero] at less
        exact absurd less (Nat.not_lt_zero _)
      exact ⟨positive, (Nat.div_lt_iff_lt_mul (Nat.pos_of_ne_zero positive)).mpr less⟩
  rw [saturatingWordMul, saturatingMul]
  by_cases large : UInt64.size - 1 < a.toNat * b.toNat
  · rw [if_pos (overflows.mpr large), toNat_maxWord]
    omega
  · have fits : a.toNat * b.toNat < 2 ^ 64 := by
      have size : UInt64.size = 2 ^ 64 := rfl
      omega
    rw [if_neg (overflows.not.mpr large), UInt64.toNat_mul, Nat.mod_eq_of_lt fits]
    omega

/-- A word that is not too large keeps its value when it gets a sign. -/
theorem toInt_toInt64 {n : UInt64} (fits : n ≤ maxLimit) : n.toInt64.toInt = n.toNat := by
  have small : n.toNat ≤ 9223372036854775807 := UInt64.le_iff_toNat_le.mp fits
  have half : 2 * n.toBitVec.toNat < 2 ^ 64 := by
    show 2 * n.toNat < 2 ^ 64
    omega
  exact BitVec.toInt_eq_toNat_of_lt half

/-- Clamping a word is clamping the number it stands for. -/
theorem clampWord_eq (n : UInt64) : clampWord n = clampInt64 n.toNat := by
  rw [← Int64.toInt_inj, toInt_clampInt64, clampWord]
  by_cases fits : n ≤ maxLimit
  · rw [if_pos fits, toInt_toInt64 fits]
    have small := UInt64.le_iff_toNat_le.mp fits
    omega
  · rw [if_neg fits]
    have large : maxLimit.toNat < n.toNat := by
      rw [UInt64.le_iff_toNat_le] at fits
      omega
    have most : Int64.maxValue.toInt = maxLimit.toNat := by decide
    omega

theorem toInt_max_one (page : Int64) : (max page 1).toInt = max page.toInt 1 := by
  show (if page ≤ 1 then (1 : Int64) else page).toInt = _
  have low : page ≤ 1 ↔ page.toInt ≤ 1 := by
    rw [Int64.le_iff_toInt_le, Int64.toInt_one]
  by_cases counted : page ≤ 1
  · rw [if_pos counted, Int64.toInt_one]
    have := low.mp counted
    omega
  · rw [if_neg counted]
    have := low.not.mp counted
    omega

/-- The number of a page keeps its value when it loses its sign. -/
theorem toNat_toUInt64_max (page : Int64) :
    (max page 1).toUInt64.toNat = (max page.toInt 1).toNat := by
  have counted : 0 ≤ max page 1 := by
    rw [Int64.le_iff_toInt_le, toInt_max_one, Int64.toInt_zero]
    omega
  rw [Int64.toNat_toUInt64_of_le counted, ← Int64.toNat_toInt, toInt_max_one]

/-- The pages before a page; there are none before the first and before
numbers below it. -/
theorem toNat_pagesBefore (page : Int64) :
    (pagesBefore page).toNat = (max page.toInt 1).toNat - 1 := by
  have counted : 1 ≤ (max page 1).toUInt64 := by
    rw [UInt64.le_iff_toNat_le, toNat_toUInt64_max, UInt64.toNat_one]
    omega
  rw [pagesBefore, UInt64.toNat_sub_of_le _ _ counted, toNat_toUInt64_max, UInt64.toNat_one]

/-! ### Windows -/

/-- Whether a limit and an offset are those of a page with a size: the least
of the exact number and the largest that a store takes.  They come out of
words, each step of which gives the exact number too. -/
structure ExactWindow (page : Int64) (size : UInt64) (limit offset : Int64) : Prop where
  limit_exact : limit.toInt = min size.toNat (2 ^ 63 - 1)
  offset_exact : offset.toInt = min ((max page.toInt 1 - 1) * size.toNat) (2 ^ 63 - 1)
  page_unsigned : (max page 1).toUInt64.toNat = max page.toInt 1
  before_exact : (pagesBefore page).toNat = max page.toInt 1 - 1
  product_exact : (saturatingWordMul (pagesBefore page) size).toNat
    = min ((max page.toInt 1 - 1) * size.toNat) (2 ^ 64 - 1)
  limit_word : limit = clampWord size
  offset_word : offset = clampWord (saturatingWordMul (pagesBefore page) size)

namespace ExactWindow

variable {page : Int64} {size : UInt64} {limit offset : Int64}

/-- A page that has rows has a limit. -/
theorem one_le_limit (window : ExactWindow page size limit offset) (sized : 1 ≤ size.toNat) :
    1 ≤ limit := by
  rw [Int64.le_iff_toInt_le, Int64.toInt_one, window.limit_exact]
  omega

theorem zero_le_offset (window : ExactWindow page size limit offset) : 0 ≤ offset := by
  rw [Int64.le_iff_toInt_le, Int64.toInt_zero, window.offset_word, clampWord_eq, toInt_clampInt64]
  omega

/-- The first page starts at the first row. -/
theorem offset_eq_zero (window : ExactWindow page size limit offset) (first : page ≤ 1) :
    offset = 0 := by
  have start : max page.toInt 1 = 1 := by
    rw [Int64.le_iff_toInt_le, Int64.toInt_one] at first
    omega
  rw [← Int64.toInt_inj, window.offset_exact, start, Int.sub_self, Int.zero_mul]
  rfl

end ExactWindow

namespace Settings

/-- **The window of a page is exact**, under all settings and for all numbers
of pages and sizes. -/
theorem window_exact (settings : Settings) (paging : Paging) :
    ExactWindow paging.page (settings.pageSize paging.pageSize) (settings.window paging).1
      (settings.window paging).2 := by
  generalize sized : settings.pageSize paging.pageSize = size
  have limit : (settings.window paging).1 = clampWord size := by
    rw [clampWord_eq, ← sized]
    rfl
  have offset : (settings.window paging).2
      = clampWord (saturatingWordMul (pagesBefore paging.page) size) := by
    rw [clampWord_eq, toNat_saturatingWordMul, toNat_pagesBefore, ← sized]
    rfl
  have before : ((pagesBefore paging.page).toNat : Int) = max paging.page.toInt 1 - 1 := by
    rw [toNat_pagesBefore]
    omega
  have product : ((saturatingWordMul (pagesBefore paging.page) size).toNat : Int)
      = min ((max paging.page.toInt 1 - 1) * size.toNat) (2 ^ 64 - 1) := by
    rw [toNat_saturatingWordMul, saturatingMul, ← before]
    have size : UInt64.size = 2 ^ 64 := rfl
    omega
  refine ⟨?_, ?_, ?_, before, product, limit, offset⟩
  · rw [limit, clampWord_eq, toInt_clampInt64, toNat_maxLimit]
    omega
  · rw [offset, clampWord_eq, toInt_clampInt64, toNat_maxLimit]
    omega
  · rw [toNat_toUInt64_max]
    omega

end Settings

end MediaSearch
