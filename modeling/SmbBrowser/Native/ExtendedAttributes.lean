import SmbBrowser.Native.EntryChains

/-!
# FILE_FULL_EA_INFORMATION

`buildFileFullEaInformation` (native_smb/Protocol.cpp:1667) pads every entry but
the last to a multiple of four bytes and links it to the next one.
`decodeFileFullEaInformation` (native_smb/Protocol.cpp:1707) follows the links, of
which it only checks that they reach behind the fixed header and stay inside the
buffer.

Results:
* `decodeFileFullEaInformation_build`: the round trip;
* `decodeFileFullEaInformation_apart_iff`: when the entries of a buffer lie apart.
-/

namespace SmbBrowser.Native

open SmbBrowser.Base

/-! ## The round trip -/

/-- An entry without its padding. -/
def eaBlock (entry : FileFullEaInformation) (nextEntryOffset : UInt32) : ByteVector :=
  u32Le nextEntryOffset ++ ([if entry.needEa then kFileNeedEa else 0] ++
    ([UInt8.ofNat entry.name.length] ++ (u16Le (UInt16.ofNat entry.value.length) ++
      (entry.name ++ ([0] ++ entry.value)))))

theorem length_eaBlock (entry : FileFullEaInformation) (nextEntryOffset : UInt32) :
    (eaBlock entry nextEntryOffset).length = 9 + entry.name.length + entry.value.length := by
  simp [eaBlock]
  omega

variable {entry : FileFullEaInformation} {bytes : ByteVector} {offset : ℕ}

/-- An entry that can be built; its link is its length, but for the last one. -/
theorem of_fullEaEntry {last : Bool} (h : fullEaEntry entry last = .ok bytes) :
    entry.name.length ≤ 255 ∧ entry.value.length ≤ 65535 ∧ bytes.length ≤ 65800 ∧
      ∃ padding : ℕ, bytes = eaBlock entry (if last then 0 else UInt32.ofNat bytes.length) ++
        List.replicate padding 0 := by
  unfold fullEaEntry at h
  obtain ⟨_, -, h⟩ := bind_eq_ok.1 h
  obtain ⟨_, hname, h⟩ := bind_eq_ok.1 h
  obtain ⟨_, hvalue, h⟩ := bind_eq_ok.1 h
  have hname : entry.name.length ≤ 255 := by simpa [u8Max] using hname
  have hvalue : entry.value.length ≤ 65535 := by simpa [u16Max] using hvalue
  dsimp only at h
  obtain rfl := pure_eq_ok.1 h
  refine ⟨hname, hvalue, ?_, ?_⟩
  · cases last with
    | true =>
      simp
      omega
    | false =>
      simp
      omega
  · cases last with
    | true => exact ⟨0, by simp [eaBlock]⟩
    | false =>
      refine ⟨(8 + entry.name.length + 1 + entry.value.length + 3) / 4 * 4 -
        (8 + entry.name.length + 1 + entry.value.length), ?_⟩
      simp only [eaBlock, List.append_assoc, List.length_append, length_u32Le, length_u16Le,
        List.length_singleton, List.length_replicate, Bool.false_eq_true, if_false]
      congr 3
      omega

theorem needEa_flag (needEa : Bool) :
    decide ((if needEa = true then kFileNeedEa else 0) &&& kFileNeedEa ≠ 0) = needEa := by
  cases needEa with
  | true => rfl
  | false => rfl

/-- An entry that lies in a buffer and whose link stays inside is read back. -/
theorem decodeFullEaEntry_block {nextEntryOffset : UInt32} (hname : entry.name.length ≤ 255)
    (hvalue : entry.value.length ≤ 65535) (h : Holds bytes offset (eaBlock entry nextEntryOffset))
    (hnext : nextEntryOffset ≠ 0 →
      8 ≤ nextEntryOffset.toNat ∧ offset + nextEntryOffset.toNat ≤ bytes.length) :
    decodeFullEaEntry bytes offset = .ok (entry, nextEntryOffset) := by
  have hle := h.le
  rw [length_eaBlock] at hle
  have hlink := h.left.readU32Le
  have hflags := h.right.left.readU8
  have hnameLength := h.right.right.left.readU8
  have hvalueLength := h.right.right.right.left.readU16Le
  have hnameAt := h.right.right.right.right.left.readBytes
  have hnul := h.right.right.right.right.right.left.readU8
  have hvalueAt := h.right.right.right.right.right.right.readBytes
  have hnameNat : (UInt8.ofNat entry.name.length).toNat = entry.name.length := by
    rw [UInt8.toNat_ofNat', Nat.mod_eq_of_lt (by omega)]
  have hvalueNat : (UInt16.ofNat entry.value.length).toNat = entry.value.length := by
    rw [UInt16.toNat_ofNat', Nat.mod_eq_of_lt (by omega)]
  simp only [length_u32Le, length_u16Le, List.length_singleton, Nat.add_assoc, Nat.reduceAdd]
    at hflags hnameLength hvalueLength hnameAt hnul hvalueAt
  unfold decodeFullEaEntry
  rw [if_neg (by omega), hlink, hflags, hnameLength, hvalueLength]
  simp only [ok_bind, hnameNat, hvalueNat, Nat.add_assoc]
  rw [if_neg (by omega), hnul, ok_bind, if_neg (by simp), hnameAt, hvalueAt, ok_bind, ok_bind]
  have hfits : ¬ (nextEntryOffset ≠ 0 ∧
      (nextEntryOffset < 8 ∨ offset + nextEntryOffset.toNat > bytes.length)) := by
    rintro ⟨hlinked, hbad⟩
    obtain ⟨hheader, hinside⟩ := hnext hlinked
    obtain hsmall | hbehind := hbad
    · rw [UInt32.lt_iff_toNat_lt] at hsmall
      have height : (8 : UInt32).toNat = 8 := rfl
      omega
    · omega
  rw [if_neg hfits, needEa_flag]
  rfl

/-- The entries of a built list, behind whatever comes before them. -/
theorem chain_buildFileFullEaInformation {entries : List FileFullEaInformation}
    (front : ByteVector) (h : buildFileFullEaInformation entries = .ok bytes) :
    ∃ chain, Chain (FoundBy (decodeFullEaEntry (front ++ bytes))) (front ++ bytes).length
      front.length chain ∧ entries = chain.map (·.2) := by
  induction entries generalizing front bytes with
  | nil =>
    obtain rfl := Except.ok.inj h
    exact ⟨[], .done (by simp), rfl⟩
  | cons entry rest ih =>
    obtain ⟨block, hblock, h⟩ := bind_eq_ok.1 h
    obtain ⟨others, hothers, h⟩ := bind_eq_ok.1 h
    obtain rfl := pure_eq_ok.1 h
    obtain ⟨hname, hvalue, hsmall, padding, hbytes⟩ := of_fullEaEntry hblock
    have hlength := congrArg List.length hbytes
    rw [List.length_append, length_eaBlock] at hlength
    have hlt : front.length < (front ++ (block ++ others)).length := by
      simp only [List.length_append]
      omega
    have hholds := (Holds.mid front block others).left_of hbytes
    cases rest with
    | nil =>
      have hfound := decodeFullEaEntry_block hname hvalue hholds (by simp)
      exact ⟨_, .last hlt ⟨0, hfound, rfl⟩, rfl⟩
    | cons second rest =>
      have hnat : (UInt32.ofNat block.length).toNat = block.length := by
        rw [UInt32.toNat_ofNat', Nat.mod_eq_of_lt (by omega)]
      have hinside : front.length + block.length ≤ (front ++ (block ++ others)).length := by
        simp only [List.length_append]
        omega
      have hfound := decodeFullEaEntry_block hname hvalue hholds fun _ => by
        show 8 ≤ (UInt32.ofNat block.length).toNat ∧
          front.length + (UInt32.ofNat block.length).toNat ≤ _
        rw [hnat]
        exact ⟨by omega, hinside⟩
      obtain ⟨chain, hchain, hentries⟩ := ih (front ++ block) hothers
      have hoffset : (front ++ block).length = front.length + block.length := List.length_append
      rw [List.append_assoc, hoffset] at hchain
      refine ⟨_, .next hlt ⟨_, hfound, hnat⟩ (by omega) hchain, ?_⟩
      rw [List.map_cons, hentries]

/-- **Round trip of the extended attributes.** -/
theorem decodeFileFullEaInformation_build {entries : List FileFullEaInformation}
    (h : buildFileFullEaInformation entries = .ok bytes) :
    decodeFileFullEaInformation bytes = .ok entries := by
  rw [decodeFileFullEaInformation, decodeFullEaLoop_eq, decodeEntriesLoop_eq_ok_iff (by omega)]
  exact chain_buildFileFullEaInformation [] h

/-- Two attributes, the first of which is padded. -/
theorem decodeFileFullEaInformation_build_two :
    decodeFileFullEaInformation ([12, 0, 0, 0, 0x80, 1, 1, 0] ++ ascii "a" ++ [0, 7, 0] ++
        [0, 0, 0, 0, 0, 1, 0, 0] ++ ascii "b" ++ [0]) =
      .ok [{ name := ascii "a", value := [7], needEa := true }, { name := ascii "b" }] :=
  decodeFileFullEaInformation_build (by decide)

/-! ## Entries that overlap -/

/-- The size of an entry with its name and value. -/
def eaSize (x : ℕ × FileFullEaInformation) : ℕ := 9 + x.2.name.length + x.2.value.length

/-- Every link of the list that is not the last one reaches behind the value of its
    entry. -/
def LinksCover (bytes : ByteVector) : Prop :=
  ∀ offset link nameLength valueLength, Reached (LinkAt bytes) 0 offset →
    LinkAt bytes offset link → readNumber bytes (offset + 5) 1 = .ok nameLength →
    readNumber bytes (offset + 6) 2 = .ok valueLength → link ≠ 0 →
    9 + nameLength + valueLength ≤ link

/-- What is found at an offset, by what is written there. -/
theorem of_foundBy_fullEa {link : ℕ} (h : FoundBy (decodeFullEaEntry bytes) offset entry link) :
    LinkAt bytes offset link ∧
      readNumber bytes (offset + 5) 1 = .ok entry.name.length ∧
      readNumber bytes (offset + 6) 2 = .ok entry.value.length ∧
      offset + eaSize (offset, entry) ≤ bytes.length := by
  obtain ⟨next, hentry, rfl⟩ := h
  obtain ⟨hlink, nameLength, valueLength, hname, hvalue, hfits, hnameIs, hvalueIs⟩ :=
    of_decodeFullEaEntry hentry
  have hnameLength : entry.name.length = nameLength := by
    rw [hnameIs, List.length_take, List.length_drop]
    omega
  have hvalueLength : entry.value.length = valueLength := by
    rw [hvalueIs, List.length_take, List.length_drop]
    omega
  unfold eaSize
  rw [hnameLength, hvalueLength]
  exact ⟨hlink, hname, hvalue, by omega⟩

theorem covers_iff_linksCover {chain : List (ℕ × FileFullEaInformation)}
    (h : Chain (FoundBy (decodeFullEaEntry bytes)) bytes.length 0 chain) :
    Covers (LinkAt bytes) (FoundBy (decodeFullEaEntry bytes)) eaSize 0 ↔ LinksCover bytes := by
  constructor
  · intro hcovers offset link nameLength valueLength hreached hlink hname hvalue hnext
    have hread : offset + 4 ≤ bytes.length := by
      obtain ⟨number, hnumber, -⟩ := bind_eq_ok.1 hlink
      exact (readBytes_eq_ok.1 hnumber).1
    obtain ⟨entry, link', hentry⟩ := h.of_reached
      (fun hfound => (of_foundBy_fullEa hfound).1) LinkAt.unique hreached (by omega)
    obtain ⟨hlink', hname', hvalue', -⟩ := of_foundBy_fullEa hentry
    obtain rfl := hlink.unique hlink'
    obtain rfl := Except.ok.inj (hname.symm.trans hname')
    obtain rfl := Except.ok.inj (hvalue.symm.trans hvalue')
    exact hcovers hreached hentry hnext
  · intro hcover offset entry link hreached hentry hnext
    obtain ⟨hlink, hname, hvalue, -⟩ := of_foundBy_fullEa hentry
    exact hcover offset link _ _ hreached hlink hname hvalue hnext

/-- **When the entries of a list lie apart**: the list returned is the one chain of
    entries from the start of the buffer on, and their ranges have no byte in common if and
    only if every link that is not the last one reaches behind the value of its
    entry, which the decoder does not check. -/
theorem decodeFileFullEaInformation_apart_iff {entries : List FileFullEaInformation}
    (h : decodeFileFullEaInformation bytes = .ok entries) :
    ∃ chain, (∀ chain', Chain (FoundBy (decodeFullEaEntry bytes)) bytes.length 0 chain' ↔
        chain' = chain) ∧
      entries = chain.map (·.2) ∧ (chain.Pairwise (Apart eaSize) ↔ LinksCover bytes) := by
  rw [decodeFileFullEaInformation, decodeFullEaLoop_eq, decodeEntriesLoop_eq_ok_iff (by omega)] at h
  obtain ⟨chain, hchain, hentries⟩ := h
  have honly : ∀ chain', Chain (FoundBy (decodeFullEaEntry bytes)) bytes.length 0 chain' ↔
      chain' = chain := by
    intro chain'
    constructor
    · exact fun hchain' => hchain'.unique hchain functional_foundBy
    · rintro rfl
      exact hchain
  refine ⟨chain, honly, hentries, ?_⟩
  rw [← covers_iff_linksCover hchain]
  refine hchain.apart_iff functional_foundBy (fun hfound => (of_foundBy_fullEa hfound).1)
    LinkAt.unique fun hfound => ⟨?_, (of_foundBy_fullEa hfound).2.2.2⟩
  unfold eaSize
  omega

/-- The list of two attributes. -/
theorem decodeFileFullEaInformation_apart_two :
    let bytes := [12, 0, 0, 0, 0x80, 1, 1, 0] ++ ascii "a" ++ [0, 7, 0] ++
      [0, 0, 0, 0, 0, 1, 0, 0] ++ ascii "b" ++ [0]
    ∃ chain, (∀ chain', Chain (FoundBy (decodeFullEaEntry bytes)) bytes.length 0 chain' ↔
        chain' = chain) ∧
      [{ name := ascii "a", value := [7], needEa := true }, { name := ascii "b" }] =
        chain.map (·.2) ∧ (chain.Pairwise (Apart eaSize) ↔ LinksCover bytes) :=
  decodeFileFullEaInformation_apart_iff (by decide)

/-- A list whose second entry, `b`, lies in the value of its first. -/
def overlappingEas : ByteVector :=
  [8, 0, 0, 0, 0, 1, 8, 0] ++ ([0, 0, 0, 0, 0, 1, 0, 0] ++ ascii "b" ++ [0])

theorem chain_overlappingEas : Chain (FoundBy (decodeFullEaEntry overlappingEas))
    overlappingEas.length 0
    [(0, { name := [0], value := [0, 0, 0, 1, 0, 0, 0x62, 0] }), (8, { name := ascii "b" })] := by
  refine .next (by decide) ⟨8, by decide, rfl⟩ (by decide) (.last (by decide) ⟨0, ?_, rfl⟩)
  decide

/-- The decoder accepts a list in which one byte is header and value at once. -/
theorem not_decodeFileFullEaInformation_apart :
    ¬ ∀ bytes entries, decodeFileFullEaInformation bytes = .ok entries →
      ∀ chain, Chain (FoundBy (decodeFullEaEntry bytes)) bytes.length 0 chain →
        chain.Pairwise (Apart eaSize) := by
  intro h
  have hapart := h overlappingEas
    [{ name := [0], value := [0, 0, 0, 1, 0, 0, 0x62, 0] }, { name := ascii "b" }] (by decide) _
    chain_overlappingEas
  have hfirst := (List.pairwise_cons.1 hapart).1 (8, { name := ascii "b" }) List.mem_cons_self
  unfold Apart eaSize at hfirst
  revert hfirst
  decide

end SmbBrowser.Native
