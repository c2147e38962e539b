import SmbBrowser.Native.EntryChains

/-!
# The timestamp of a target info

A server sends a list of AV_PAIRs with its NTLM challenge, each an id, a length and as many
bytes, the last one with the id 0.  `timestampFromTargetInfo`
(native_smb/NtlmV2TokenProvider.cpp:52) walks the list up to the first pair with the id 7
or 0.

Results:
* `exists_ordinary`: every byte string starts with pairs that have neither of these ids, and
  goes on with one that has, or with no complete pair;
* `timestampLoop_pair`, `timestampLoop_noPair`: one turn of the loop;
* `timestampFromTargetInfo_walk`: what the walk returns, and that it reads inside the string;
* `not_unterminated_fails`: nothing behind the timestamp is looked at.
-/

namespace SmbBrowser.Native

open SmbBrowser.Base

/-! ## Model -/

/-- The loop of `timestampFromTargetInfo` (NtlmV2TokenProvider.cpp:54). -/
def timestampLoop (targetInfo : ByteVector) (offset : ℕ) : DecodeResult (Option UInt64) :=
  if _h : offset + 4 ≤ targetInfo.length then do
    let avId ← readU16Le targetInfo offset
    let avLength ← readU16Le targetInfo (offset + 2)
    if offset + 4 + avLength.toNat > targetInfo.length then
      failure .protocolUnsupported "NTLM target info AV_PAIR is truncated."
    else if avId = 0 then
      return none
    else if avId = 7 then
      if avLength ≠ 8 then
        failure .protocolUnsupported "NTLM timestamp AV_PAIR has invalid length."
      else
        return some (← readU64Le targetInfo (offset + 4))
    else
      timestampLoop targetInfo (offset + 4 + avLength.toNat)
  else if targetInfo.isEmpty then
    return none
  else
    failure .protocolUnsupported "NTLM target info is not terminated."
termination_by targetInfo.length - offset

/-- Model of `timestampFromTargetInfo` (NtlmV2TokenProvider.cpp:52). -/
def timestampFromTargetInfo (targetInfo : ByteVector) : DecodeResult (Option UInt64) :=
  timestampLoop targetInfo 0

/-! ## Lists of pairs -/

/-- An AV_PAIR, whose value is as long as its length field can say. -/
structure AvPair where
  id : UInt16
  value : ByteVector
  length_lt : value.length < 65536

/-- The bytes of a pair. -/
def AvPair.bytes (pair : AvPair) : ByteVector :=
  u16Le pair.id ++ (u16Le (UInt16.ofNat pair.value.length) ++ pair.value)

/-- The bytes of pairs, one behind another. -/
def avBytes (pairs : List AvPair) : ByteVector := pairs.flatMap AvPair.bytes

/-- Pairs the walk passes over. -/
def Ordinary (pairs : List AvPair) : Prop := ∀ pair ∈ pairs, pair.id ≠ 0 ∧ pair.id ≠ 7

/-- The bytes do not start with a complete pair. -/
def NoPair (bytes : ByteVector) : Prop := ∀ (pair : AvPair) rest, bytes ≠ pair.bytes ++ rest

section

variable {pair pair' : AvPair} {pairs : List AvPair} {bytes front rest rest' : ByteVector}

theorem length_avPair (pair : AvPair) : pair.bytes.length = 4 + pair.value.length := by
  simp only [AvPair.bytes, List.length_append, length_u16Le]
  omega

theorem toNat_length (pair : AvPair) :
    (UInt16.ofNat pair.value.length).toNat = pair.value.length := by
  rw [UInt16.toNat_ofNat', Nat.mod_eq_of_lt pair.length_lt]

@[simp] theorem avBytes_nil : avBytes [] = [] := rfl

@[simp] theorem avBytes_cons : avBytes (pair :: pairs) = pair.bytes ++ avBytes pairs := rfl

theorem u16Le_ofNat_leValue (h : bytes.length = 2) :
    u16Le (UInt16.ofNat (leValue bytes)) = bytes := by
  have hlt := leValue_lt bytes
  rw [h] at hlt
  rw [u16Le, UInt16.toNat_ofNat', Nat.mod_eq_of_lt (by omega), ← h, leBytes_leValue]

/-- Four bytes and as many as the last two of them declare are a pair. -/
theorem exists_pair (h : 4 + leValue ((bytes.drop 2).take 2) ≤ bytes.length) :
    ∃ (pair : AvPair) (rest : ByteVector), bytes = pair.bytes ++ rest := by
  have hlength : ((bytes.drop 2).take 2).length = 2 := by
    rw [List.length_take, List.length_drop]
    omega
  have hlt := leValue_lt ((bytes.drop 2).take 2)
  rw [hlength] at hlt
  generalize hn : leValue ((bytes.drop 2).take 2) = n at h hlt
  have hvalue : ((bytes.drop 4).take n).length = n := by
    rw [List.length_take, List.length_drop]
    omega
  have hid : u16Le (UInt16.ofNat (leValue (bytes.take 2))) = bytes.take 2 :=
    u16Le_ofNat_leValue (by rw [List.length_take]; omega)
  have hlen : u16Le (UInt16.ofNat ((bytes.drop 4).take n).length) = (bytes.drop 2).take 2 := by
    rw [hvalue, ← hn, u16Le_ofNat_leValue hlength]
  refine ⟨⟨UInt16.ofNat (leValue (bytes.take 2)), (bytes.drop 4).take n, by omega⟩,
    bytes.drop (4 + n), ?_⟩
  show bytes = (u16Le (UInt16.ofNat (leValue (bytes.take 2))) ++
    (u16Le (UInt16.ofNat ((bytes.drop 4).take n).length) ++ (bytes.drop 4).take n)) ++
      bytes.drop (4 + n)
  have hfour : bytes.drop 4 = (bytes.drop 2).drop 2 := by rw [List.drop_drop]
  rw [hid, hlen, List.append_assoc, List.append_assoc, ← List.drop_drop, List.take_append_drop,
    hfour, List.take_append_drop, List.take_append_drop]

theorem take_avPair (pair : AvPair) (rest : ByteVector) :
    (pair.bytes ++ rest).take 2 = u16Le pair.id := by
  rw [AvPair.bytes, List.append_assoc, List.take_left' (length_u16Le _)]

theorem drop_avPair (pair : AvPair) (rest : ByteVector) :
    ((pair.bytes ++ rest).drop 2).take 2 = u16Le (UInt16.ofNat pair.value.length) := by
  rw [AvPair.bytes, List.append_assoc, List.drop_left' (length_u16Le _), List.append_assoc,
    List.take_left' (length_u16Le _)]

/-- A string without a complete pair at its start is shorter than the pair it announces. -/
theorem noPair_iff :
    NoPair bytes ↔ bytes.length < 4 ∨ bytes.length < 4 + leValue ((bytes.drop 2).take 2) := by
  constructor
  · intro h
    by_contra hlong
    rw [not_or] at hlong
    obtain ⟨pair, rest, hbytes⟩ := @exists_pair bytes (by omega)
    exact h pair rest hbytes
  · rintro h pair rest rfl
    have hlength : leValue (u16Le (UInt16.ofNat pair.value.length)) = pair.value.length := by
      rw [u16Le, leValue_leBytes, toNat_length]
      exact Nat.mod_eq_of_lt pair.length_lt
    rw [drop_avPair, hlength, List.length_append, length_avPair] at h
    omega

/-- Pairs the walk passes over come first, then one with the id 0 or 7, or no complete
    pair. -/
theorem exists_ordinary (bytes : ByteVector) :
    ∃ pairs rest, bytes = avBytes pairs ++ rest ∧ Ordinary pairs ∧
      (NoPair rest ∨ ∃ (pair : AvPair) (rest' : ByteVector), rest = pair.bytes ++ rest' ∧
        (pair.id = 0 ∨ pair.id = 7)) := by
  induction hn : bytes.length using Nat.strong_induction_on generalizing bytes with
  | _ n ih =>
    by_cases hnone : NoPair bytes
    · exact ⟨[], bytes, rfl, by simp [Ordinary], .inl hnone⟩
    unfold NoPair at hnone
    push Not at hnone
    obtain ⟨pair, behind, rfl⟩ := hnone
    by_cases hid : pair.id = 0 ∨ pair.id = 7
    · exact ⟨[], _, rfl, by simp [Ordinary], .inr ⟨pair, behind, rfl, hid⟩⟩
    have hlt : behind.length < n := by
      rw [← hn, List.length_append, length_avPair]
      omega
    obtain ⟨pairs, rest, rfl, hpairs, hrest⟩ := ih behind.length hlt behind rfl
    refine ⟨pair :: pairs, rest, by rw [avBytes_cons, List.append_assoc], ?_, hrest⟩
    exact List.forall_mem_cons.2 ⟨not_or.1 hid, hpairs⟩

/-! ## The walk -/

/-- One turn of the loop at a complete pair. -/
theorem timestampLoop_pair (front : ByteVector) (pair : AvPair) (rest : ByteVector) :
    timestampLoop (front ++ (pair.bytes ++ rest)) front.length =
      if pair.id = 0 then .ok none
      else if pair.id = 7 then
        if pair.value.length = 8 then .ok (some (UInt64.ofNat (leValue pair.value)))
        else failure .protocolUnsupported "NTLM timestamp AV_PAIR has invalid length."
      else
        timestampLoop (front ++ (pair.bytes ++ rest)) (front.length + pair.bytes.length) := by
  have hholds : Holds (front ++ (pair.bytes ++ rest)) front.length pair.bytes := .mid ..
  have hid := hholds.left.readU16Le
  have hlength := hholds.right.left.readU16Le
  have hvalue := hholds.right.right.readBytes
  have hle := hholds.le
  rw [length_avPair] at hle ⊢
  simp only [length_u16Le, Nat.add_assoc, Nat.reduceAdd] at hlength hvalue
  generalize front ++ (pair.bytes ++ rest) = targetInfo at hid hlength hvalue hle ⊢
  rw [timestampLoop, dif_pos (by omega), hid, ok_bind, hlength, ok_bind, toNat_length,
    if_neg (by omega), Nat.add_assoc]
  refine if_congr Iff.rfl rfl (if_congr Iff.rfl ?_ rfl)
  by_cases height : pair.value.length = 8
  · have heq : UInt16.ofNat pair.value.length = 8 := by rw [height]; rfl
    rw [height] at hvalue
    rw [if_neg (not_not_intro heq), if_pos height, readU64Le, hvalue]
    rfl
  · have hne : UInt16.ofNat pair.value.length ≠ 8 := by
      intro heq
      have hnat := congrArg UInt16.toNat heq
      rw [toNat_length] at hnat
      exact height hnat
    rw [if_pos hne, if_neg height]

/-- The last turn of the loop where there is no complete pair. -/
theorem timestampLoop_noPair (front : ByteVector) (h : NoPair rest) :
    ∃ message, timestampLoop (front ++ rest) front.length =
      if front ++ rest = [] then .ok none else failure .protocolUnsupported message := by
  have hlength : (front ++ rest).length = front.length + rest.length := List.length_append
  have hshort := noPair_iff.1 h
  have hdeclared : ((front ++ rest).drop (front.length + 2)).take 2 = (rest.drop 2).take 2 := by
    rw [List.drop_append, Nat.add_sub_cancel_left, List.drop_eq_nil_of_le (by omega),
      List.nil_append]
  rw [timestampLoop]
  split
  · next hfour =>
    have hne : front ++ rest ≠ [] := by
      rw [← List.length_pos_iff]
      omega
    refine ⟨"NTLM target info AV_PAIR is truncated.", ?_⟩
    have hlt := leValue_lt ((rest.drop 2).take 2)
    have htwo : ((rest.drop 2).take 2).length = 2 := by
      rw [List.length_take, List.length_drop]
      omega
    rw [htwo] at hlt
    rw [readU16Le_of_le (by omega), ok_bind, readU16Le_of_le (by omega), ok_bind, hdeclared,
      UInt16.toNat_ofNat', Nat.mod_eq_of_lt (by omega), if_pos (by omega), if_neg hne]
  · refine ⟨"NTLM target info is not terminated.", ?_⟩
    simp only [List.isEmpty_iff]
    rfl

/-- The walk passes over ordinary pairs and comes to the rest. -/
def ComesTo (targetInfo rest : ByteVector) : Prop :=
  ∃ pairs, targetInfo = avBytes pairs ++ rest ∧ Ordinary pairs

theorem timestampLoop_ordinary (front rest : ByteVector) (h : Ordinary pairs) :
    timestampLoop (front ++ (avBytes pairs ++ rest)) front.length =
      timestampLoop ((front ++ avBytes pairs) ++ rest) (front ++ avBytes pairs).length := by
  induction pairs generalizing front with
  | nil => simp
  | cons pair pairs ih =>
    obtain ⟨⟨hzero, hseven⟩, hpairs⟩ := List.forall_mem_cons.1 h
    rw [avBytes_cons, List.append_assoc, timestampLoop_pair, if_neg hzero, if_neg hseven,
      ← List.length_append, ← List.append_assoc front, ih _ hpairs]
    simp only [List.append_assoc]

theorem timestampFromTargetInfo_pair {targetInfo : ByteVector}
    (h : ComesTo targetInfo (pair.bytes ++ rest)) :
    (pair.id = 0 → timestampFromTargetInfo targetInfo = .ok none) ∧
      (pair.id = 7 → timestampFromTargetInfo targetInfo =
        if pair.value.length = 8 then .ok (some (UInt64.ofNat (leValue pair.value)))
        else failure .protocolUnsupported "NTLM timestamp AV_PAIR has invalid length.") := by
  obtain ⟨pairs, rfl, hpairs⟩ := h
  have hwalk := timestampLoop_ordinary [] (pair.bytes ++ rest) hpairs
  rw [List.nil_append, List.length_nil, timestampLoop_pair] at hwalk
  rw [timestampFromTargetInfo, hwalk]
  constructor
  · intro hid
    rw [if_pos hid]
  · intro hid
    rw [if_neg (by rw [hid]; decide), if_pos hid]

theorem timestampFromTargetInfo_noPair {targetInfo : ByteVector} (h : ComesTo targetInfo rest)
    (hrest : NoPair rest) :
    ∃ message, timestampFromTargetInfo targetInfo =
      if targetInfo = [] then .ok none else failure .protocolUnsupported message := by
  obtain ⟨pairs, rfl, hpairs⟩ := h
  have hwalk := timestampLoop_ordinary [] rest hpairs
  rw [List.nil_append, List.length_nil] at hwalk
  rw [timestampFromTargetInfo, hwalk]
  exact timestampLoop_noPair _ hrest

/-- What the walk comes to. -/
theorem comesTo_cases (targetInfo : ByteVector) :
    (∃ rest, ComesTo targetInfo rest ∧ NoPair rest) ∨
      (∃ (pair : AvPair) (rest : ByteVector), ComesTo targetInfo (pair.bytes ++ rest) ∧
        pair.id = 0) ∨
      ∃ (pair : AvPair) (rest : ByteVector), ComesTo targetInfo (pair.bytes ++ rest) ∧
        pair.id = 7 := by
  obtain ⟨pairs, rest, hsplit, hpairs, hnone | ⟨pair, rest', rfl, hid | hid⟩⟩ :=
    exists_ordinary targetInfo
  · exact .inl ⟨rest, ⟨pairs, hsplit, hpairs⟩, hnone⟩
  · exact .inr (.inl ⟨pair, rest', ⟨pairs, hsplit, hpairs⟩, hid⟩)
  · exact .inr (.inr ⟨pair, rest', ⟨pairs, hsplit, hpairs⟩, hid⟩)

/-! ## What the walk returns -/

/-- The list is empty, or its end comes first. -/
def EndFirst (targetInfo : ByteVector) : Prop :=
  targetInfo = [] ∨ ∃ (pair : AvPair) (rest : ByteVector),
    ComesTo targetInfo (pair.bytes ++ rest) ∧ pair.id = 0

/-- A timestamp of eight bytes comes first. -/
def TimestampFirst (targetInfo : ByteVector) (timestamp : UInt64) : Prop :=
  ∃ (pair : AvPair) (rest : ByteVector), ComesTo targetInfo (pair.bytes ++ rest) ∧
    pair.id = 7 ∧ pair.value.length = 8 ∧ timestamp = UInt64.ofNat (leValue pair.value)

/-- The list breaks off, or has a timestamp that is not eight bytes, before one of these. -/
def BrokenFirst (targetInfo : ByteVector) : Prop :=
  targetInfo ≠ [] ∧ ((∃ rest, ComesTo targetInfo rest ∧ NoPair rest) ∨
    ∃ (pair : AvPair) (rest : ByteVector), ComesTo targetInfo (pair.bytes ++ rest) ∧
      pair.id = 7 ∧ pair.value.length ≠ 8)

variable {targetInfo : ByteVector} {timestamp : UInt64}

theorem first_cases (targetInfo : ByteVector) :
    EndFirst targetInfo ∨ (∃ timestamp, TimestampFirst targetInfo timestamp) ∨
      BrokenFirst targetInfo := by
  by_cases hempty : targetInfo = []
  · exact .inl (.inl hempty)
  obtain ⟨rest, hcomes, hnone⟩ | ⟨pair, rest, hcomes, hid⟩ | ⟨pair, rest, hcomes, hid⟩ :=
    comesTo_cases targetInfo
  · exact .inr (.inr ⟨hempty, .inl ⟨rest, hcomes, hnone⟩⟩)
  · exact .inl (.inr ⟨pair, rest, hcomes, hid⟩)
  · by_cases height : pair.value.length = 8
    · exact .inr (.inl ⟨_, pair, rest, hcomes, hid, height, rfl⟩)
    · exact .inr (.inr ⟨hempty, .inr ⟨pair, rest, hcomes, hid, height⟩⟩)

theorem EndFirst.returns (h : EndFirst targetInfo) :
    timestampFromTargetInfo targetInfo = .ok none := by
  obtain rfl | ⟨pair, rest, hcomes, hid⟩ := h
  · obtain ⟨_, hvalue⟩ := @timestampFromTargetInfo_noPair [] [] ⟨[], rfl, by simp [Ordinary]⟩
      (noPair_iff.2 (.inl (by simp)))
    exact hvalue
  · exact (timestampFromTargetInfo_pair hcomes).1 hid

theorem TimestampFirst.returns (h : TimestampFirst targetInfo timestamp) :
    timestampFromTargetInfo targetInfo = .ok (some timestamp) := by
  obtain ⟨pair, rest, hcomes, hid, height, rfl⟩ := h
  rw [(timestampFromTargetInfo_pair hcomes).2 hid, if_pos height]

theorem BrokenFirst.fails (h : BrokenFirst targetInfo) :
    ∃ message, timestampFromTargetInfo targetInfo = failure .protocolUnsupported message := by
  obtain ⟨hne, ⟨rest, hcomes, hnone⟩ | ⟨pair, rest, hcomes, hid, height⟩⟩ := h
  · obtain ⟨message, hvalue⟩ := timestampFromTargetInfo_noPair hcomes hnone
    rw [if_neg hne] at hvalue
    exact ⟨message, hvalue⟩
  · exact ⟨_, by rw [(timestampFromTargetInfo_pair hcomes).2 hid, if_neg height]⟩

theorem timestampFromTargetInfo_inside (targetInfo : ByteVector) :
    ReadsInside (timestampFromTargetInfo targetInfo) := by
  obtain h | ⟨timestamp, h⟩ | h := first_cases targetInfo
  · rw [h.returns]
    exact failsWith_ok _
  · rw [h.returns]
    exact failsWith_ok _
  · obtain ⟨message, hvalue⟩ := h.fails
    rw [hvalue]
    exact (failsWith_failure ..).2 (by decide)

end

/-- The walk ends on every byte string and reads inside it.  It returns the timestamp if one
    of eight bytes comes before the end of the list and all pairs before it are complete, and
    none if the list is empty or its end comes before any timestamp; it fails on every other
    list: where it is truncated or stops before its end and before any timestamp, and where
    its first timestamp is not eight bytes. -/
theorem timestampFromTargetInfo_walk (targetInfo : ByteVector) :
    ReadsInside (timestampFromTargetInfo targetInfo) ∧
      (∀ timestamp, timestampFromTargetInfo targetInfo = .ok (some timestamp) ↔
        TimestampFirst targetInfo timestamp) ∧
      (timestampFromTargetInfo targetInfo = .ok none ↔ EndFirst targetInfo) ∧
      ((∃ e, timestampFromTargetInfo targetInfo = .error e) ↔ BrokenFirst targetInfo) := by
  refine ⟨timestampFromTargetInfo_inside targetInfo, fun timestamp => ⟨?_, (·.returns)⟩,
    ⟨?_, (·.returns)⟩, ⟨?_, fun h => ?_⟩⟩
  · intro hvalue
    obtain h | ⟨timestamp', h⟩ | h := first_cases targetInfo
    · cases hvalue.symm.trans h.returns
    · obtain rfl := Option.some.inj (Except.ok.inj (hvalue.symm.trans h.returns))
      exact h
    · obtain ⟨message, hfails⟩ := h.fails
      cases hvalue.symm.trans hfails
  · intro hvalue
    obtain h | ⟨timestamp', h⟩ | h := first_cases targetInfo
    · exact h
    · cases hvalue.symm.trans h.returns
    · obtain ⟨message, hfails⟩ := h.fails
      cases hvalue.symm.trans hfails
  · rintro ⟨e, hvalue⟩
    obtain h | ⟨timestamp', h⟩ | h := first_cases targetInfo
    · cases hvalue.symm.trans h.returns
    · cases hvalue.symm.trans h.returns
    · exact h
  · obtain ⟨message, hfails⟩ := h.fails
    exact ⟨_, hfails⟩

/-! ## A list without an end -/

/-- The list has a pair with the id 0. -/
def Terminated (targetInfo : ByteVector) : Prop :=
  ∃ (pairs : List AvPair) (pair : AvPair) (rest : ByteVector),
    targetInfo = avBytes pairs ++ (pair.bytes ++ rest) ∧ pair.id = 0

/-- The front pair of a string is as long as its length field says. -/
theorem length_of_bytes_append {pair pair' : AvPair} {rest rest' : ByteVector}
    (h : pair.bytes ++ rest = pair'.bytes ++ rest') :
    pair.value.length = pair'.value.length := by
  have hfields := drop_avPair pair rest
  rw [h, drop_avPair] at hfields
  have hvalues := congrArg (fun bytes => (UInt16.ofNat (leValue bytes)).toNat) hfields
  simp only [ofNat_leValue_u16Le, toNat_length] at hvalues
  exact hvalues.symm

/-- A timestamp alone. -/
def loneTimestamp : AvPair := ⟨7, List.replicate 8 1, by decide⟩

theorem not_terminated_loneTimestamp : ¬ Terminated loneTimestamp.bytes := by
  rintro ⟨pairs, pair, rest, hbytes, hid⟩
  rw [← List.append_nil loneTimestamp.bytes] at hbytes
  cases pairs with
  | nil =>
    have hfront := congrArg (List.take 2) hbytes
    rw [avBytes_nil, List.nil_append, take_avPair, take_avPair, hid] at hfront
    exact absurd hfront (by decide)
  | cons first pairs =>
    rw [avBytes_cons, List.append_assoc] at hbytes
    have hsame := length_of_bytes_append hbytes
    have hlength := congrArg List.length hbytes
    simp only [List.length_append, length_avPair, List.length_nil] at hlength
    omega

/-- A list that is not terminated is accepted where the timestamp comes first. -/
theorem not_unterminated_fails :
    ¬ ∀ targetInfo : ByteVector, targetInfo ≠ [] → ¬ Terminated targetInfo →
      ∃ e, timestampFromTargetInfo targetInfo = .error e := by
  intro h
  obtain ⟨e, he⟩ := h loneTimestamp.bytes (by decide) not_terminated_loneTimestamp
  have hcomes : ComesTo loneTimestamp.bytes (loneTimestamp.bytes ++ []) :=
    ⟨[], by rw [List.append_nil]; rfl, by simp [Ordinary]⟩
  rw [(timestampFromTargetInfo_pair hcomes).2 rfl, if_pos (by decide)] at he
  cases he

end SmbBrowser.Native
