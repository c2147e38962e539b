import SmbBrowser.Crypto.Modes

/-!
# Blocks of a byte string

What `Block16.ofBytes` reads, and the loop of the two MACs as a fold over the
blocks it takes in.

Results:
* `toBytes_ofBytes`, `toBytes_ofBytes_short`: a whole block and one that zeros
  fill up;
* `macBlocks_succ_last`, `macBlocks_eq_foldl`: the loop by its last block, and as
  a fold.
-/

namespace SmbBrowser.Native

open SmbBrowser.Base

namespace Block16

/-- A block read where a whole one lies. -/
theorem toBytes_ofBytes {bytes : Bytes} {offset : ℕ} (h : offset + 16 ≤ bytes.length) :
    (ofBytes bytes offset).toBytes = (bytes.drop offset).take 16 := by
  apply List.ext_getElem
  · rw [length_toBytes, List.length_take, List.length_drop]
    omega
  · intro i h₁ h₂
    have hi : i < 16 := by simpa using h₁
    have hin : offset + i < bytes.length := by omega
    simp [toBytes, ofBytes, hin]

/-- A block read where the string ends: zeros fill it. -/
theorem toBytes_ofBytes_short {bytes : Bytes} {offset : ℕ}
    (hle : offset ≤ bytes.length) (h : bytes.length ≤ offset + 16) :
    (ofBytes bytes offset).toBytes =
      bytes.drop offset ++ List.replicate (offset + 16 - bytes.length) 0 := by
  apply List.ext_getElem
  · rw [length_toBytes, List.length_append, List.length_drop, List.length_replicate]
    omega
  · intro i h₁ h₂
    by_cases hin : offset + i < bytes.length
    · rw [List.getElem_append_left (by rw [List.length_drop]; omega)]
      simp [toBytes, ofBytes, hin]
    · rw [List.getElem_append_right (by rw [List.length_drop]; omega)]
      simp [toBytes, ofBytes, hin]

end Block16

/-- The blocks of one MAC loop, the last of them apart. -/
theorem macBlocks_succ_last (encryptBlock : Block16 → Block16) (bytes : Bytes) (blocks : ℕ) :
    ∀ (offset : ℕ) (state : Block16),
      macBlocks encryptBlock bytes (blocks + 1) offset state =
        encryptBlock (xorBlocks (macBlocks encryptBlock bytes blocks offset state)
          (.ofBytes bytes (offset + 16 * blocks))) := by
  induction blocks with
  | zero =>
    intro offset state
    rfl
  | succ blocks ih =>
    intro offset state
    have hoffset : offset + 16 * (blocks + 1) = offset + kAesBlockSize + 16 * blocks := by
      rw [kAesBlockSize]
      omega
    rw [macBlocks, ih, macBlocks, hoffset]

/-- The loop is a fold over the blocks it reads. -/
theorem macBlocks_eq_foldl (encryptBlock : Block16 → Block16) (bytes : Bytes) (blocks offset : ℕ)
    (state : Block16) :
    macBlocks encryptBlock bytes blocks offset state =
      ((List.range blocks).map fun i => Block16.ofBytes bytes (offset + 16 * i)).foldl
        (fun state block => encryptBlock (xorBlocks state block)) state := by
  induction blocks with
  | zero => rfl
  | succ blocks ih =>
    rw [macBlocks_succ_last, ih, List.range_succ, List.map_append, List.foldl_append]
    rfl

end SmbBrowser.Native
