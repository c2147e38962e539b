import SmbBrowser.Native.RpcBounds

/-!
# Storage reserved for a listing of shares

`decodeNetrShareEnumResponseStub` (native_smb/SrvsRpc.cpp) reserves storage for the number
of shares a response states, before it reads them.

Results:
* `decodes_reservingDecode`: the decoder with its calls of `reserve` is the decoder;
* `reservations_cases`: what it reserves;
* `reservations_fit_iff`: when that fits the input.
-/

namespace SmbBrowser.Native

open SmbBrowser.Base

/-! ## The decoder with its reservations -/

/-- A call of `reserve`: the number of elements, and the bytes of the input from the share
    array on. -/
structure Reservation where
  count : ℕ
  available : ℕ

/-- The elements are no more than the records of 12 bytes the input has room for. -/
def Reservation.Fits (r : Reservation) : Prop := r.count ≤ r.available / 12

/-- Decoders that reserve storage. -/
abbrev Reserving (α : Type) := ExceptT ProtocolError (StateM (List Reservation)) α

def reserve (count available : ℕ) : Reserving Unit :=
  modify (· ++ [⟨count, available⟩])

/-- The share array of a container with its reservations (SrvsRpc.cpp:211–252). -/
def reserveShareArray (data : ByteVector) (entriesRead bufferPointer : UInt32) (offset : ℕ) :
    Reserving (List SrvsShareInfo × ℕ) := do
  if bufferPointer ≠ 0 then
    let (arrayCount, offset) ← ndrReadU32 data offset
      "NetrShareEnum response is missing share array count."
    if arrayCount < entriesRead then
      throw { code := .ioError, message := "NetrShareEnum response array count is inconsistent." }
    else
      reserve entriesRead.toNat (data.length - offset)
      let (deferred, next) ← ndrReadShareRecords data entriesRead.toNat offset
      reserve deferred.length (data.length - offset)
      ndrReadShares data deferred next
  else if entriesRead ≠ 0 then
    throw { code := .ioError, message := "NetrShareEnum response has entries without a buffer." }
  else
    return ([], offset)

/-- `decodeNetrShareEnumResponseStub` with its reservations. -/
def reservingDecode (data : ByteVector) : Reserving SrvsShareEnumResponse := do
  let truncated := "NetrShareEnum response is truncated before share list."
  let (level, offset) ← ndrReadU32 data 0 truncated
  let (unionLevel, offset) ← ndrReadU32 data offset truncated
  let (containerPointer, offset) ← ndrReadU32 data offset truncated
  if level ≠ 1 ∨ unionLevel ≠ 1 then
    throw { code := .ioError, message := "NetrShareEnum response uses an unsupported info level." }
  else
    let (entriesRead, bufferPointer, offset) ← ndrReadContainer data containerPointer offset
    let (shares, offset) ← reserveShareArray data entriesRead bufferPointer offset
    let (totalEntries, offset) ← ndrReadU32 data offset
      "NetrShareEnum response is missing total entries."
    let (resumePointer, offset) ← ndrReadU32 data offset
      "NetrShareEnum response is missing resume handle pointer."
    let (resumeHandle, offset) ← ndrReadResumeHandle data resumePointer offset
    let (apiStatus, _) ← ndrReadU32 data offset "NetrShareEnum response is missing API status."
    let moreData : Bool := apiStatus = kNetApiStatusMoreData
    if apiStatus ≠ kNetApiStatusSuccess ∧ ¬ moreData then
      throw {
        code := if apiStatus = 5 then .permissionDenied else .networkError
        message := "NetrShareEnum returned a non-success NET_API_STATUS." }
    else
      return { shares, totalEntries, resumeHandle, apiStatus, moreData }

/-- What the decoder reserves for a response. -/
def reservations (data : ByteVector) : List Reservation :=
  ((reservingDecode data).run.run []).2

/-! ## Runs -/

/-- A decoder ends in `r`, and has reserved `added`. -/
def Reserves {α : Type} (p : Reserving α) (r : DecodeResult α) (added : List Reservation) : Prop :=
  ∀ log, p.run.run log = (r, log ++ added)

section

variable {α β : Type}

theorem Reserves.lift (x : DecodeResult α) : Reserves (liftM x : Reserving α) x [] := by
  intro log
  rw [List.append_nil]
  rfl

theorem Reserves.pure (a : α) : Reserves (pure a : Reserving α) (.ok a) [] :=
  .lift (.ok a)

theorem Reserves.throw (e : ProtocolError) : Reserves (throw e : Reserving α) (.error e) [] :=
  .lift (.error e)

theorem reserves_reserve (count available : ℕ) :
    Reserves (reserve count available) (.ok ()) [⟨count, available⟩] :=
  fun _ => rfl

theorem Reserves.bind {p : Reserving α} {f : α → Reserving β} {a : α} {r : DecodeResult β}
    {added added' : List Reservation} (hp : Reserves p (.ok a) added)
    (hf : Reserves (f a) r added') : Reserves (p >>= f) r (added ++ added') := by
  intro log
  rw [ExceptT.run_bind, StateT.run_bind, hp log, ← List.append_assoc]
  exact hf _

theorem Reserves.bind_error {p : Reserving α} {f : α → Reserving β} {e : ProtocolError}
    {added : List Reservation} (hp : Reserves p (.error e) added) :
    Reserves (p >>= f) (.error e) added := by
  intro log
  rw [ExceptT.run_bind, StateT.run_bind, hp log]
  rfl

/-- A decoder ends in `r`, and what it has reserved satisfies `P`. -/
def ReservesIn (P : List Reservation → Prop) (p : Reserving α) (r : DecodeResult α) : Prop :=
  ∃ added, Reserves p r added ∧ P added

variable {P : List Reservation → Prop}

theorem ReservesIn.throw {e : ProtocolError} (h : P []) :
    ReservesIn P (throw e : Reserving α) (.error e) :=
  ⟨[], .throw e, h⟩

/-- A step that reserves nothing, before the others. -/
theorem ReservesIn.step {x : DecodeResult α} {f : α → Reserving β} {g : α → DecodeResult β}
    (herror : ∀ e, x = .error e → P []) (hf : ∀ a, x = .ok a → ReservesIn P (f a) (g a)) :
    ReservesIn P (liftM x >>= f) (x >>= g) := by
  cases x with
  | error e => exact ⟨[], (Reserves.lift (.error e)).bind_error, herror e rfl⟩
  | ok a =>
    obtain ⟨added, hadded, hP⟩ := hf a rfl
    exact ⟨added, (Reserves.lift (.ok a)).bind hadded, hP⟩

/-- Steps that reserve nothing, behind the others. -/
theorem ReservesIn.bind {p : Reserving α} {r : DecodeResult α} {f : α → Reserving β}
    {g : α → DecodeResult β} (hp : ReservesIn P p r) (hf : ∀ a, Reserves (f a) (g a) []) :
    ReservesIn P (p >>= f) (r >>= g) := by
  obtain ⟨added, hadded, hP⟩ := hp
  cases r with
  | error e => exact ⟨added, hadded.bind_error, hP⟩
  | ok a =>
    have hall := hadded.bind (hf a)
    rw [List.append_nil] at hall
    exact ⟨added, hall, hP⟩

theorem Reserves.step {x : DecodeResult α} {f : α → Reserving β} {g : α → DecodeResult β}
    (hf : ∀ a, Reserves (f a) (g a) []) : Reserves (liftM x >>= f) (x >>= g) [] := by
  obtain ⟨added, hadded, rfl⟩ : ReservesIn (· = []) (liftM x >>= f) (x >>= g) :=
    .step (fun _ _ => rfl) fun a _ => ⟨[], hf a, rfl⟩
  exact hadded

end

/-! ## What is reserved -/

/-- The response states `n` shares, and an array of at least as many. -/
structure StatesShares (data : ByteVector) (n : ℕ) : Prop where
  level : readNumber data 0 4 = .ok 1
  unionLevel : readNumber data 4 4 = .ok 1
  container : ∃ containerPointer, readNumber data 8 4 = .ok containerPointer ∧ containerPointer ≠ 0
  entriesRead : readNumber data 12 4 = .ok n
  buffer : ∃ bufferPointer, readNumber data 16 4 = .ok bufferPointer ∧ bufferPointer ≠ 0
  arrayCount : ∃ arrayCount, readNumber data 20 4 = .ok arrayCount ∧ n ≤ arrayCount

/-- What is reserved for a response: nothing, or the stated number of shares. -/
def ReservesStated (data : ByteVector) (added : List Reservation) : Prop :=
  (added = [] ∧ ∀ n, ¬ StatesShares data n) ∨
    ∃ n, StatesShares data n ∧ added ≠ [] ∧ ∀ r ∈ added, r = ⟨n, data.length - 24⟩

section

variable {data : ByteVector} {offset : ℕ} {otherwise : String}

theorem readNumber_of_ndrReadU32_error {e : ProtocolError} {n : ℕ}
    (h : ndrReadU32 data offset otherwise = .error e) : readNumber data offset 4 ≠ .ok n := by
  unfold ndrReadU32 at h
  split at h
  · rename_i hshort
    intro hn
    rw [readNumber] at hn
    obtain ⟨bytes, hbytes, -⟩ := bind_eq_ok.1 hn
    have hlen := (readBytes_eq_ok.1 hbytes).1
    omega
  · rw [readU32Le_of_le (by omega)] at h
    cases h

theorem length_of_ndrReadShareRecords {count next : ℕ} {deferred : List DeferredShare}
    (h : ndrReadShareRecords data count offset = .ok (deferred, next)) : deferred.length = count := by
  induction count generalizing offset deferred next with
  | zero =>
    obtain ⟨rfl, -⟩ := Prod.mk.inj (Except.ok.inj h)
    rfl
  | succ count ih =>
    unfold ndrReadShareRecords at h
    obtain ⟨⟨namePointer, offset₁⟩, -, h⟩ := bind_eq_ok.1 h
    obtain ⟨⟨rawType, offset₂⟩, -, h⟩ := bind_eq_ok.1 h
    obtain ⟨⟨commentPointer, offset₃⟩, -, h⟩ := bind_eq_ok.1 h
    obtain ⟨⟨rest, offset₄⟩, hrest, h⟩ := bind_eq_ok.1 h
    rw [pure_eq_ok] at h
    obtain ⟨rfl, -⟩ := Prod.mk.inj h
    rw [List.length_cons, ih hrest]

theorem readNumber_unique {a b : ℕ} (ha : readNumber data offset 4 = .ok a)
    (hb : readNumber data offset 4 = .ok b) : a = b :=
  Except.ok.inj (ha.symm.trans hb)

theorem toNat_ne_zero {value : UInt32} (h : value ≠ 0) : value.toNat ≠ 0 := by
  intro hzero
  exact h (UInt32.toNat_inj.1 hzero)

/-- A container without a buffer. -/
theorem reserves_shareArray_null {entriesRead : UInt32} :
    Reserves (reserveShareArray data entriesRead 0 offset)
      (ndrReadShareArray data entriesRead 0 offset) [] := by
  have hnull : ¬ ((0 : UInt32) ≠ 0) := by simp
  rw [reserveShareArray, ndrReadShareArray, if_neg hnull, if_neg hnull]
  by_cases hentries : entriesRead ≠ 0
  · rw [if_pos hentries, if_pos hentries]
    exact .throw _
  · rw [if_neg hentries, if_neg hentries]
    exact .pure _

/-- A container with a buffer. -/
theorem reserves_shareArray {entriesRead bufferPointer : UInt32} (hbuffer : bufferPointer ≠ 0)
    (hstates : ∀ n, StatesShares data n ↔ n = entriesRead.toNat ∧
      ∃ arrayCount, readNumber data 20 4 = .ok arrayCount ∧ n ≤ arrayCount) :
    ReservesIn (ReservesStated data) (reserveShareArray data entriesRead bufferPointer 20)
      (ndrReadShareArray data entriesRead bufferPointer 20) := by
  rw [reserveShareArray, ndrReadShareArray, if_pos hbuffer, if_pos hbuffer]
  refine .step (fun e he => .inl ⟨rfl, ?_⟩) ?_
  · rintro n hn
    obtain ⟨-, arrayCount, hcount, -⟩ := (hstates n).1 hn
    exact readNumber_of_ndrReadU32_error he hcount
  rintro ⟨arrayCount, offset⟩ hread
  obtain ⟨hcount, rfl, -⟩ := of_ndrReadU32 hread
  dsimp only
  by_cases hless : arrayCount < entriesRead
  · rw [if_pos hless, if_pos hless]
    refine .throw (.inl ⟨rfl, ?_⟩)
    rintro n hn
    obtain ⟨rfl, arrayCount', hcount', hle⟩ := (hstates n).1 hn
    have hsame := readNumber_unique hcount hcount'
    rw [UInt32.lt_iff_toNat_lt] at hless
    omega
  · rw [if_neg hless, if_neg hless]
    rw [UInt32.lt_iff_toNat_lt, not_lt] at hless
    have hn : StatesShares data entriesRead.toNat :=
      (hstates _).2 ⟨rfl, arrayCount.toNat, hcount, hless⟩
    cases hrecords : ndrReadShareRecords data entriesRead.toNat (20 + 4) with
    | error e =>
      refine ⟨_, (reserves_reserve _ _).bind (Reserves.lift (.error e)).bind_error, ?_⟩
      refine .inr ⟨_, hn, by simp, ?_⟩
      simp
    | ok found =>
      obtain ⟨deferred, next⟩ := found
      refine ⟨_, (reserves_reserve _ _).bind ((Reserves.lift (.ok (deferred, next))).bind
        ((reserves_reserve _ _).bind (.lift (ndrReadShares data deferred next)))), ?_⟩
      refine .inr ⟨_, hn, by simp, ?_⟩
      rw [length_of_ndrReadShareRecords hrecords]
      simp

/-- What is read of a container. -/
theorem of_ndrReadContainer {containerPointer entriesRead bufferPointer : UInt32} {next : ℕ}
    (h : ndrReadContainer data containerPointer offset = .ok (entriesRead, bufferPointer, next)) :
    (containerPointer = 0 ∧ bufferPointer = 0) ∨
      containerPointer ≠ 0 ∧ next = offset + 8 ∧
        readNumber data offset 4 = .ok entriesRead.toNat ∧
        readNumber data (offset + 4) 4 = .ok bufferPointer.toNat := by
  unfold ndrReadContainer at h
  split at h
  · rename_i hpointer
    obtain ⟨⟨entriesRead', offset₁⟩, hread, h⟩ := bind_eq_ok.1 h
    obtain ⟨⟨bufferPointer', offset₂⟩, hread', h⟩ := bind_eq_ok.1 h
    rw [pure_eq_ok] at h
    obtain ⟨rfl, hrest⟩ := Prod.mk.inj h
    obtain ⟨rfl, rfl⟩ := Prod.mk.inj hrest
    obtain ⟨hentries, rfl, -⟩ := of_ndrReadU32 hread
    obtain ⟨hbuffer, rfl, -⟩ := of_ndrReadU32 hread'
    exact .inr ⟨hpointer, rfl, hentries, hbuffer⟩
  · rename_i hpointer
    obtain ⟨rfl, hrest⟩ := Prod.mk.inj (Except.ok.inj h)
    obtain ⟨rfl, -⟩ := Prod.mk.inj hrest
    exact .inl ⟨not_not.1 hpointer, rfl⟩

theorem not_statesShares_of_ndrReadContainer {containerPointer : UInt32} {e : ProtocolError}
    (h : ndrReadContainer data containerPointer 12 = .error e) (n : ℕ) : ¬ StatesShares data n := by
  intro hn
  obtain ⟨bufferPointer, hbuffer, -⟩ := hn.buffer
  unfold ndrReadContainer at h
  split at h
  · cases hentries : ndrReadU32 data 12 "NetrShareEnum response share container is truncated." with
    | error e' => exact readNumber_of_ndrReadU32_error hentries hn.entriesRead
    | ok found =>
      obtain ⟨entriesRead, next⟩ := found
      obtain ⟨-, rfl, -⟩ := of_ndrReadU32 hentries
      dsimp only at h
      rw [hentries, ok_bind] at h
      cases hread : ndrReadU32 data (12 + 4)
          "NetrShareEnum response share container is truncated." with
      | error e' => exact readNumber_of_ndrReadU32_error hread hbuffer
      | ok found =>
        dsimp only at h
        rw [hread] at h
        cases h
  · cases h

/-- **What the decoder reserves**, and that apart from this it is the decoder. -/
theorem reservingDecode_stated (data : ByteVector) :
    ReservesIn (ReservesStated data) (reservingDecode data)
      (decodeNetrShareEnumResponseStub data) := by
  rw [reservingDecode, decodeNetrShareEnumResponseStub_eq]
  refine .step (fun e he => .inl ⟨rfl, fun n hn => readNumber_of_ndrReadU32_error he hn.level⟩) ?_
  rintro ⟨level, offset₁⟩ hread
  obtain ⟨hlevel, rfl, -⟩ := of_ndrReadU32 hread
  refine .step (fun e he =>
    .inl ⟨rfl, fun n hn => readNumber_of_ndrReadU32_error he hn.unionLevel⟩) ?_
  rintro ⟨unionLevel, offset₂⟩ hread
  obtain ⟨hunion, rfl, -⟩ := of_ndrReadU32 hread
  refine .step (fun e he => .inl ⟨rfl, fun n hn => ?_⟩) ?_
  · obtain ⟨containerPointer, hcontainer, -⟩ := hn.container
    exact readNumber_of_ndrReadU32_error he hcontainer
  rintro ⟨containerPointer, offset₃⟩ hread
  obtain ⟨hcontainer, rfl, -⟩ := of_ndrReadU32 hread
  dsimp only
  by_cases hlevels : level ≠ 1 ∨ unionLevel ≠ 1
  · rw [if_pos hlevels, if_pos hlevels]
    refine .throw (.inl ⟨rfl, fun n hn => ?_⟩)
    rcases hlevels with h | h
    · exact h (UInt32.toNat_inj.1 (readNumber_unique hlevel hn.level))
    · exact h (UInt32.toNat_inj.1 (readNumber_unique hunion hn.unionLevel))
  rw [if_neg hlevels, if_neg hlevels]
  rw [not_or, not_not, not_not] at hlevels
  obtain ⟨rfl, rfl⟩ := hlevels
  refine .step (fun e he => .inl ⟨rfl, not_statesShares_of_ndrReadContainer he⟩) ?_
  rintro ⟨entriesRead, bufferPointer, offset₄⟩ hread
  refine ReservesIn.bind ?_ ?_
  · rcases of_ndrReadContainer hread with ⟨rfl, rfl⟩ | ⟨hpointer, rfl, hentries, hbuffer⟩
    · refine ⟨[], reserves_shareArray_null, .inl ⟨rfl, fun n hn => ?_⟩⟩
      obtain ⟨containerPointer, hcontainer', hne⟩ := hn.container
      exact hne (readNumber_unique hcontainer' hcontainer)
    · by_cases hnull : bufferPointer = 0
      · subst hnull
        refine ⟨[], reserves_shareArray_null, .inl ⟨rfl, fun n hn => ?_⟩⟩
        obtain ⟨bufferPointer, hbuffer', hne⟩ := hn.buffer
        exact hne (readNumber_unique hbuffer' hbuffer)
      · refine reserves_shareArray hnull fun n => ?_
        constructor
        · intro hn
          exact ⟨readNumber_unique hn.entriesRead hentries, hn.arrayCount⟩
        · rintro ⟨rfl, harray⟩
          exact ⟨hlevel, hunion, ⟨_, hcontainer, toNat_ne_zero hpointer⟩, hentries,
            ⟨_, hbuffer, toNat_ne_zero hnull⟩, harray⟩
  · rintro ⟨shares, offset₅⟩
    refine .step fun _ => .step fun _ => .step fun _ => .step fun _ => ?_
    dsimp only
    split
    · exact .throw _
    · exact .pure _

end

/-! ## When it fits -/

/-- Apart from its reservations the decoder is `decodeNetrShareEnumResponseStub`. -/
theorem run_reservingDecode (data : ByteVector) (log : List Reservation) :
    ((reservingDecode data).run.run log).1 = decodeNetrShareEnumResponseStub data := by
  obtain ⟨added, hadded, -⟩ := reservingDecode_stated data
  rw [hadded log]

theorem reservations_stated (data : ByteVector) : ReservesStated data (reservations data) := by
  obtain ⟨added, hadded, hstated⟩ := reservingDecode_stated data
  rw [reservations, hadded []]
  exact hstated

/-- **Reservations fit the input** exactly when a response that states shares has room for
    as many records of 12 bytes behind the count of its array. -/
theorem reservations_fit_iff (data : ByteVector) :
    (((reservingDecode data).run.run []).1 = decodeNetrShareEnumResponseStub data) ∧
    ((∀ r ∈ reservations data, r.Fits) ↔
      ∀ n, StatesShares data n → n ≤ (data.length - 24) / 12) := by
  refine ⟨run_reservingDecode data [], ?_⟩
  rcases reservations_stated data with ⟨hnone, hnot⟩ | ⟨n, hn, hne, hall⟩
  · rw [hnone]
    refine iff_of_true (by simp) fun n hn => absurd hn (hnot n)
  · constructor
    · intro hfits n' hn'
      obtain ⟨r, hr⟩ := List.exists_mem_of_ne_nil _ hne
      have hfit := hfits r hr
      rw [hall r hr] at hfit
      rw [readNumber_unique hn'.entriesRead hn.entriesRead]
      exact hfit
    · intro hroom r hr
      rw [hall r hr]
      exact hroom n hn

/-- A response of 24 bytes that states as many shares as 32 bits allow. -/
def hugeListing : ByteVector :=
  u32Le 1 ++ u32Le 1 ++ u32Le 0x00020000 ++ u32Le 0xFFFFFFFF ++ u32Le 0x00020004 ++ u32Le 0xFFFFFFFF

/-- Storage is reserved for all of them, with no record left to read. -/
theorem reservations_huge :
    ∃ r ∈ reservations hugeListing, r.count = 2 ^ 32 - 1 ∧ r.available = 0 ∧ ¬ r.Fits := by
  have hstates : StatesShares hugeListing (2 ^ 32 - 1) := by
    refine ⟨by rfl, by rfl, ⟨0x00020000, by rfl, by decide⟩, by rfl, ⟨0x00020004, by rfl, by decide⟩,
      2 ^ 32 - 1, by rfl, le_rfl⟩
  rcases reservations_stated hugeListing with ⟨-, hnot⟩ | ⟨n, hn, hne, hall⟩
  · exact absurd hstates (hnot _)
  obtain ⟨r, hr⟩ := List.exists_mem_of_ne_nil _ hne
  have hr' := hall r hr
  rw [readNumber_unique hn.entriesRead hstates.entriesRead] at hr'
  have hlen : hugeListing.length - 24 = 0 := by rfl
  rw [hlen] at hr'
  refine ⟨r, hr, by rw [hr'], by rw [hr'], ?_⟩
  rw [hr']
  show ¬ 2 ^ 32 - 1 ≤ 0 / 12
  decide

end SmbBrowser.Native
