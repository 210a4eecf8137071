import SecureCloud.Files.Download
import SecureCloud.Files.Upload

/-
# Files.ChunkRanges — the chunks of a file

The number of chunks is computed when a file is created, the bytes of one chunk when it is downloaded,
each by an arithmetic of its own. They agree as long as the number of chunks fits 32 bits.
-/

namespace SecureCloud.Files

/-- The ranges tile the file: each chunk has the bytes between two cuts, nothing lies outside the
cuts, and no other index has a range. -/
structure Tiled (size chunkSize chunks : Nat) (cut : Nat → Nat) : Prop where
  first : cut 0 = 0
  last : cut chunks = size
  nonempty : ∀ i < chunks, cut i < cut (i + 1)
  range : ∀ i < chunks, calculateChunkByteRange size i chunkSize =
    some ⟨cut i, cut (i + 1) - 1, cut (i + 1) - cut i, chunks⟩
  outside : ∀ i, chunks ≤ i → calculateChunkByteRange size i chunkSize = none

/-- The arithmetic of the two functions: the ranges tile the file, the sums stay within 64 bits, and the
size of a chunk within 32. -/
def RangesTile (size chunkSize : Nat) : Prop :=
  ∃ cut, Tiled size chunkSize (calculateExpectedChunkCount size chunkSize) cut ∧
    size + chunkSize < 2 ^ 64 ∧
    ∀ i < calculateExpectedChunkCount size chunkSize,
      i * chunkSize + chunkSize < 2 ^ 64 ∧ cut (i + 1) - cut i < 2 ^ 32

section
variable {size chunkSize : Nat}

theorem rangesTile_of_count (hsize : 1 ≤ size) (hmax : size ≤ kMaxFileSizeBytes)
    (hpos : 0 < chunkSize) (hchunk : chunkSize < 2 ^ 32) (hcount : size < 2 ^ 32 ∨ chunkSize ≠ 1) :
    RangesTile size chunkSize := by
  have hlimit : size ≤ 5 * 1024 * 1024 * 1024 := hmax
  have hlt : (size + chunkSize - 1) / chunkSize < 2 ^ 32 := by
    rw [Nat.div_lt_iff_lt_mul hpos]
    omega
  have hceil := Nat.div_add_mod (size + chunkSize - 1) chunkSize
  have hrest := Nat.mod_lt (size + chunkSize - 1) hpos
  have hn : calculateExpectedChunkCount size chunkSize = (size + chunkSize - 1) / chunkSize := by
    rw [calculateExpectedChunkCount, if_neg (by omega), Nat.mod_eq_of_lt hlt]
  unfold RangesTile
  rw [hn]
  generalize hq : (size + chunkSize - 1) / chunkSize = q at *
  rw [Nat.mul_comm] at hceil
  -- a chunk starts inside the file, and the last one reaches its end
  have hstart : ∀ i < q, i * chunkSize + chunkSize ≤ q * chunkSize := fun i hi => by
    rw [← Nat.succ_mul]
    exact Nat.mul_le_mul_right chunkSize hi
  refine ⟨fun i => min (i * chunkSize) size, ⟨by simp, by omega, ?_, ?_, ?_⟩, by omega, ?_⟩
  · intro i hi
    have hi := hstart i hi
    simp only [Nat.succ_mul]
    omega
  · intro i hi
    have hi' := hstart i hi
    simp only [calculateChunkByteRange, hq, Nat.mod_eq_of_lt hlt, Nat.succ_mul]
    rw [if_neg (by omega), if_neg (by omega), if_neg (by omega)]
    simp only [Option.some.injEq, ChunkByteRange.mk.injEq, and_true]
    omega
  · intro i hi
    simp only [calculateChunkByteRange, hq, Nat.mod_eq_of_lt hlt]
    rw [if_neg (by omega), if_neg (by omega), if_pos hi]
  · intro i hi
    have hi := hstart i hi
    simp only [Nat.succ_mul]
    omega

/-- In single bytes the count of a large file has wrapped, and the last chunk it counts is not the last byte. -/
theorem not_rangesTile_bytes (hsize : 2 ^ 32 ≤ size) (hmax : size ≤ kMaxFileSizeBytes) :
    ¬ RangesTile size 1 := by
  have hlimit : size ≤ 5 * 1024 * 1024 * 1024 := hmax
  have hn : calculateExpectedChunkCount size 1 = size - 2 ^ 32 := by
    rw [calculateExpectedChunkCount, if_neg (by omega)]
    omega
  rintro ⟨cut, htiled, -⟩
  rw [hn] at htiled
  have hlast := htiled.last
  cases hq : size - 2 ^ 32 with
  | zero =>
    rw [hq, htiled.first] at hlast
    omega
  | succ k =>
    have hrange := htiled.range k (by omega)
    have hgrows := htiled.nonempty k (by omega)
    rw [hq] at hlast
    simp only [calculateChunkByteRange] at hrange
    rw [if_neg (by omega), if_neg (by omega), if_neg (by omega)] at hrange
    simp only [Option.some.injEq, ChunkByteRange.mk.injEq] at hrange
    omega

/-- **The chunks tile the file** exactly when their number fits 32 bits, which only single bytes can
prevent. -/
theorem chunk_ranges_tile (hsize : 1 ≤ size) (hmax : size ≤ kMaxFileSizeBytes) (hpos : 0 < chunkSize)
    (hchunk : chunkSize < 2 ^ 32) : RangesTile size chunkSize ↔ size < 2 ^ 32 ∨ chunkSize ≠ 1 := by
  refine ⟨fun htile => ?_, rangesTile_of_count hsize hmax hpos hchunk⟩
  by_contra hcount
  obtain ⟨hlarge, rfl⟩ : 2 ^ 32 ≤ size ∧ chunkSize = 1 := by omega
  exact not_rangesTile_bytes hlarge hmax htile

end

/-- Ten million bytes in chunks of the standard size; and four GiB in single bytes. -/
theorem standard_chunks_tile :
    RangesTile 10000000 kStandardChunkSize ∧ calculateExpectedChunkCount 10000000 = 3 ∧
      ¬ RangesTile (2 ^ 32) 1 :=
  ⟨(chunk_ranges_tile (by decide) (by decide) (by decide) (by decide)).mpr (by decide), by decide,
    fun h => absurd ((chunk_ranges_tile (by decide) (by decide) (by decide) (by decide)).mp h)
      (by decide)⟩

/-- Four GiB in chunks of one byte: the count wraps to 0, and the first chunk is already refused. -/
theorem byte_chunks_wrap : 2 ^ 32 ≤ kMaxFileSizeBytes ∧ calculateExpectedChunkCount (2 ^ 32) 1 = 0 ∧
    calculateChunkByteRange (2 ^ 32) 0 1 = none := by
  decide

end SecureCloud.Files
