import SmbBrowser.Base.Links
import SmbBrowser.Native.ResponseBounds

/-!
# Chains of decoded entries

The loop over the linked entries of a buffer returns the entries of the chain that
starts where the loop starts.

Results:
* `Holds`: bytes that lie in a buffer, by which the fields of an entry are read;
* `decodeEntriesLoop_eq_ok_iff`: the lists the loop returns;
* `decodeEntriesLoop_turns`: the bytes that are left bound the turns of the loop;
* `decodeEntries_encodeEntries`: a list written with any padding between its entries
  is read back.
-/

namespace SmbBrowser.Native

open SmbBrowser.Base

/-! ## Bytes in a buffer -/

/-- The buffer holds these bytes from an offset on. -/
def Holds (data : ByteVector) (offset : ℕ) (bytes : ByteVector) : Prop :=
  ∃ front rest, data = front ++ (bytes ++ rest) ∧ front.length = offset

namespace Holds

variable {data a b : ByteVector} {offset : ℕ}

theorem mid (front bytes rest : ByteVector) : Holds (front ++ (bytes ++ rest)) front.length bytes :=
  ⟨front, rest, rfl, rfl⟩

theorem left (h : Holds data offset (a ++ b)) : Holds data offset a := by
  obtain ⟨front, rest, hdata, hoffset⟩ := h
  exact ⟨front, b ++ rest, by rw [hdata, List.append_assoc], hoffset⟩

/-- The front of what the buffer holds. -/
theorem left_of {bytes : ByteVector} (h : Holds data offset bytes) (hbytes : bytes = a ++ b) :
    Holds data offset a := by
  subst hbytes
  exact h.left

theorem right (h : Holds data offset (a ++ b)) : Holds data (offset + a.length) b := by
  obtain ⟨front, rest, hdata, hoffset⟩ := h
  refine ⟨front ++ a, rest, ?_, ?_⟩
  · rw [hdata, List.append_assoc, List.append_assoc]
  · rw [List.length_append, hoffset]

theorem le (h : Holds data offset a) : offset + a.length ≤ data.length := by
  obtain ⟨front, rest, rfl, rfl⟩ := h
  simp only [List.length_append]
  omega

theorem readBytes (h : Holds data offset a) : readBytes data offset a.length = .ok a := by
  obtain ⟨front, rest, rfl, rfl⟩ := h
  rw [readBytes_skip _ (Nat.le_refl _), Nat.sub_self, readBytes_here _ rfl]

theorem readU8 {v : UInt8} (h : Holds data offset [v]) : readU8 data offset = .ok v := by
  have hread := h.readBytes
  rw [List.length_singleton] at hread
  rw [Native.readU8, hread]
  show Except.ok (UInt8.ofNat (v.toNat + 256 * 0)) = _
  simp

theorem readU16Le {v : UInt16} (h : Holds data offset (u16Le v)) :
    readU16Le data offset = .ok v := by
  have hread := h.readBytes
  rw [length_u16Le] at hread
  rw [Native.readU16Le, hread, ok_bind, ofNat_leValue_u16Le]
  rfl

theorem readU32Le {v : UInt32} (h : Holds data offset (u32Le v)) :
    readU32Le data offset = .ok v := by
  have hread := h.readBytes
  rw [length_u32Le] at hread
  rw [Native.readU32Le, hread, ok_bind, ofNat_leValue_u32Le]
  rfl

theorem readU64Le {v : UInt64} (h : Holds data offset (u64Le v)) :
    readU64Le data offset = .ok v := by
  have hread := h.readBytes
  rw [length_u64Le] at hread
  rw [Native.readU64Le, hread, ok_bind, ofNat_leValue_u64Le]
  rfl

end Holds

/-! ## The loop -/

variable {α : Type} {entryAt : ℕ → DecodeResult (α × UInt32)} {entriesEnd offset : ℕ}

/-- What a decoder of entries finds at an offset. -/
def FoundBy (entryAt : ℕ → DecodeResult (α × UInt32)) (offset : ℕ) (entry : α) (link : ℕ) : Prop :=
  ∃ nextEntryOffset : UInt32, entryAt offset = .ok (entry, nextEntryOffset) ∧
    nextEntryOffset.toNat = link

theorem functional_foundBy : Functional (FoundBy entryAt) := by
  rintro offset entry link entry' link' ⟨next, hentry, rfl⟩ ⟨next', hentry', rfl⟩
  obtain ⟨rfl, rfl⟩ := Prod.mk.inj (Except.ok.inj (hentry.symm.trans hentry'))
  exact ⟨rfl, rfl⟩

/-- The link written at an offset. -/
def LinkAt (data : ByteVector) (offset link : ℕ) : Prop := readNumber data offset 4 = .ok link

theorem LinkAt.unique {data : ByteVector} {offset link link' : ℕ} (h : LinkAt data offset link)
    (h' : LinkAt data offset link') : link = link' :=
  Except.ok.inj (h.symm.trans h')

theorem LoopRun.chain {r : DecodeResult (List α)} {entries : List α}
    (h : LoopRun entryAt entriesEnd offset r) (hr : r = .ok entries) :
    ∃ chain, Chain (FoundBy entryAt) entriesEnd offset chain ∧ entries = chain.map (·.2) := by
  induction h generalizing entries with
  | done hend =>
    obtain rfl := Except.ok.inj hr
    exact ⟨[], .done hend, rfl⟩
  | failed => cases hr
  | last hlt hentry =>
    obtain rfl := Except.ok.inj hr
    exact ⟨_, .last hlt ⟨0, hentry, rfl⟩, rfl⟩
  | @next offset entry nextEntryOffset rest hlt hentry hnext _ ih =>
    cases rest with
    | error e => cases hr
    | ok rest =>
      obtain rfl := Except.ok.inj hr
      obtain ⟨chain, hchain, rfl⟩ := ih rfl
      have hlink : nextEntryOffset.toNat ≠ 0 := fun hzero => hnext (UInt32.toNat_inj.1 hzero)
      exact ⟨_, .next hlt ⟨nextEntryOffset, hentry, rfl⟩ hlink hchain, rfl⟩

theorem decodeEntriesLoop_of_chain {chain : List (ℕ × α)} {fuel : ℕ}
    (h : Chain (FoundBy entryAt) entriesEnd offset chain) (hfuel : entriesEnd - offset ≤ fuel) :
    decodeEntriesLoop entryAt entriesEnd fuel offset = .ok (chain.map (·.2)) := by
  induction h generalizing fuel with
  | done hend =>
    cases fuel with
    | zero => rfl
    | succ fuel => rw [decodeEntriesLoop, if_pos hend]; rfl
  | last hlt hentry =>
    obtain ⟨next, hentry, hzero⟩ := hentry
    obtain rfl : next = 0 := UInt32.toNat_inj.1 hzero
    obtain ⟨fuel, rfl⟩ := Nat.exists_eq_add_of_le' (show 1 ≤ fuel by omega)
    rw [decodeEntriesLoop, if_neg (by omega), hentry]
    rfl
  | next hlt hentry hlink hrest ih =>
    obtain ⟨next, hentry, rfl⟩ := hentry
    have hnext : next ≠ 0 := fun hzero => hlink (by rw [hzero]; rfl)
    obtain ⟨fuel, rfl⟩ := Nat.exists_eq_add_of_le' (show 1 ≤ fuel by omega)
    rw [decodeEntriesLoop, if_neg (by omega), hentry, ok_bind]
    dsimp only
    rw [if_neg hnext, ih (by omega)]
    rfl

/-- **The loop returns the entries of the chain from its offset on.** -/
theorem decodeEntriesLoop_eq_ok_iff {entries : List α} {fuel : ℕ}
    (hfuel : entriesEnd - offset ≤ fuel) :
    decodeEntriesLoop entryAt entriesEnd fuel offset = .ok entries ↔
      ∃ chain, Chain (FoundBy entryAt) entriesEnd offset chain ∧ entries = chain.map (·.2) := by
  constructor
  · exact (loopRun_decodeEntriesLoop hfuel).chain
  · rintro ⟨chain, hchain, rfl⟩
    exact decodeEntriesLoop_of_chain hchain hfuel

/-- **The loop ends**: more turns than bytes are left are never taken. -/
theorem decodeEntriesLoop_turns {fuel : ℕ} (hfuel : entriesEnd - offset ≤ fuel) (more : ℕ) :
    decodeEntriesLoop entryAt entriesEnd (fuel + more) offset =
      decodeEntriesLoop entryAt entriesEnd fuel offset := by
  induction fuel generalizing offset with
  | zero =>
    have hend : entriesEnd ≤ offset := by omega
    cases more with
    | zero => rfl
    | succ more =>
      show decodeEntriesLoop entryAt entriesEnd (0 + more + 1) offset = .ok []
      rw [decodeEntriesLoop, if_pos hend]
      rfl
  | succ fuel ih =>
    rw [Nat.succ_add, decodeEntriesLoop, decodeEntriesLoop]
    congr 1
    refine bind_congr fun found => ?_
    obtain ⟨entry, nextEntryOffset⟩ := found
    dsimp only
    by_cases hnext : nextEntryOffset = 0
    · rw [if_pos hnext, if_pos hnext]
    · have hmoves : nextEntryOffset.toNat ≠ 0 := fun hzero => hnext (UInt32.toNat_inj.1 hzero)
      rw [if_neg hnext, if_neg hnext, ih (by omega)]

/-! ## Writing a list -/

section

variable {β : Type} {block : β → UInt32 → ByteVector}

/-- A list of entries as it is written: each entry with its link and the padding
    behind it; the link of the last one is 0. -/
def encodeEntries (block : β → UInt32 → ByteVector) : List (β × ByteVector) → ByteVector
  | [] => []
  | [(entry, padding)] => block entry 0 ++ padding
  | (entry, padding) :: second :: rest =>
    let link := (block entry 0).length + padding.length
    block entry (UInt32.ofNat link) ++ (padding ++ encodeEntries block (second :: rest))

/-- The links of a written list are admissible. -/
def PaddedBy (admissible : ℕ → Prop) (block : β → UInt32 → ByteVector) :
    List (β × ByteVector) → Prop
  | [] => True
  | [_] => True
  | (entry, padding) :: second :: rest =>
    admissible ((block entry 0).length + padding.length) ∧
      PaddedBy admissible block (second :: rest)

/-- A decoder reads back what a block writes, with a link that is 0 or admissible,
    reaches behind the block and stays inside the buffer. -/
structure ReadsBlocks (decodeAt : ByteVector → ℕ → ℕ → DecodeResult (α × UInt32)) (value : β → α)
    (block : β → UInt32 → ByteVector) (admissible : ℕ → Prop) : Prop where
  pos : ∀ entry, 0 < (block entry 0).length
  length_eq : ∀ entry next, (block entry next).length = (block entry 0).length
  reads : ∀ {data offset entriesEnd entry nextEntryOffset},
    Holds data offset (block entry nextEntryOffset) →
    (block entry nextEntryOffset).length < 2 ^ 32 →
    offset + (block entry nextEntryOffset).length ≤ entriesEnd →
    (nextEntryOffset ≠ 0 → admissible nextEntryOffset.toNat ∧
      (block entry nextEntryOffset).length ≤ nextEntryOffset.toNat ∧
      offset + nextEntryOffset.toNat ≤ entriesEnd) →
    decodeAt data offset entriesEnd = .ok (value entry, nextEntryOffset)

variable {decodeAt : ByteVector → ℕ → ℕ → DecodeResult (α × UInt32)} {value : β → α}
  {admissible : ℕ → Prop}

/-- The chain of a written list, behind whatever comes before it. -/
theorem chain_encodeEntries (hreads : ReadsBlocks decodeAt value block admissible)
    {entries : List (β × ByteVector)} (front rest : ByteVector) (hpadded : PaddedBy admissible block entries)
    (hsize : (encodeEntries block entries).length < 2 ^ 32) :
    ∃ chain, Chain (FoundBy (decodeAt (front ++ (encodeEntries block entries ++ rest)) ·
        (front.length + (encodeEntries block entries).length)))
      (front.length + (encodeEntries block entries).length) front.length chain ∧
      (entries.map (·.1)).map value = chain.map (·.2) := by
  induction entries generalizing front with
  | nil => exact ⟨[], .done (by simp [encodeEntries]), rfl⟩
  | cons first entries ih =>
    obtain ⟨entry, padding⟩ := first
    cases entries with
    | nil =>
      have hblock := hreads.pos entry
      have hholds : Holds (front ++ (encodeEntries block [(entry, padding)] ++ rest)) front.length
          (block entry 0) := by
        rw [encodeEntries, List.append_assoc]
        exact .mid ..
      rw [encodeEntries, List.length_append] at hsize
      have hend : front.length + (block entry 0).length ≤
          front.length + (encodeEntries block [(entry, padding)]).length := by
        rw [encodeEntries, List.length_append]
        omega
      have hfound := hreads.reads hholds (by omega) hend (by simp)
      exact ⟨_, .last (by omega) ⟨0, hfound, rfl⟩, rfl⟩
    | cons second others =>
      obtain ⟨hadmissible, hothers⟩ := hpadded
      have hpositive := hreads.pos entry
      rw [encodeEntries] at hsize ⊢
      generalize hlink : (block entry 0).length + padding.length = link at hadmissible hsize ⊢
      generalize hmore : encodeEntries block (second :: others) = more at ih hsize ⊢
      have hblock := hreads.length_eq entry (UInt32.ofNat link)
      generalize hbytes : block entry (UInt32.ofNat link) = bytes at hblock hsize ⊢
      simp only [List.length_append] at hsize
      have hnat : (UInt32.ofNat link).toNat = link := by
        rw [UInt32.toNat_ofNat', Nat.mod_eq_of_lt (by omega)]
      -- the rest of the list lies behind the block and its padding
      obtain ⟨chain, hchain, hvalues⟩ := ih (front ++ (bytes ++ padding)) hothers (by omega)
      have hdata : front ++ ((bytes ++ (padding ++ more)) ++ rest) =
          (front ++ (bytes ++ padding)) ++ (more ++ rest) := by
        simp only [List.append_assoc]
      have hend : front.length + (bytes ++ (padding ++ more)).length =
          (front ++ (bytes ++ padding)).length + more.length := by
        simp only [List.length_append]
        omega
      have hoffset : (front ++ (bytes ++ padding)).length = front.length + link := by
        simp only [List.length_append]
        omega
      have hholds : Holds (front ++ ((bytes ++ (padding ++ more)) ++ rest)) front.length bytes := by
        rw [List.append_assoc]
        exact .mid ..
      rw [← hdata, ← hend, hoffset] at hchain
      generalize front ++ ((bytes ++ (padding ++ more)) ++ rest) = data at hchain hholds ⊢
      rw [hend, hoffset] at hchain ⊢
      have hfound : decodeAt data front.length (front.length + link + more.length) =
          .ok (value entry, UInt32.ofNat link) := by
        subst hbytes
        refine hreads.reads hholds (by omega) (by omega) fun _ => ?_
        rw [hnat]
        exact ⟨hadmissible, by omega, by omega⟩
      refine ⟨_, .next (by omega) ⟨_, hfound, hnat⟩ (by omega) hchain, ?_⟩
      rw [List.map_cons, List.map_cons, hvalues]
      rfl

/-- **A written list is read back**, whatever lies before and behind it. -/
theorem decodeEntries_encodeEntries (hreads : ReadsBlocks decodeAt value block admissible)
    {entries : List (β × ByteVector)} (front rest : ByteVector) (hpadded : PaddedBy admissible block entries)
    (hsize : (encodeEntries block entries).length < 2 ^ 32) :
    decodeEntries (decodeAt (front ++ (encodeEntries block entries ++ rest))) front.length
      (encodeEntries block entries).length = .ok ((entries.map (·.1)).map value) :=
  (decodeEntriesLoop_eq_ok_iff (by omega)).2
    (chain_encodeEntries hreads front rest hpadded hsize)

end

end SmbBrowser.Native
