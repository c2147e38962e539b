import SmbBrowser.Dfs.ConsumedPrefix
import SmbBrowser.Dfs.Client

/-!
# How long a referral is cached

A time-to-live is a 32-bit number of seconds in a referral, a signed number in the answer of
the resolver (NativeDfsReferralResolver.cpp:352, 428), and a date in the entry that the client
caches (DfsResolvingSmbClient.cpp:168, 722, 800).

Results:
* `min?_map_eq_iff`: when two families of a list have the same least value;
* `cachedEntry_expires_iff`: an entry expires with the target that is due first exactly when
  a target that is due within a second makes up for each time-to-live of `2 ^ 31` or more;
* `not_expiresWhenDue`: the largest time-to-live, which lasts one second.
-/

namespace SmbBrowser.Dfs

open SmbBrowser.Base SmbBrowser.Qt SmbBrowser.Core

/-! ## Least values -/

section

variable {ι α : Type} [LinearOrder α]

/-- Lower values have the same least value as the ones above them exactly when each value
    that is lowered lies above one that is kept. -/
theorem min?_map_eq_iff {l : List ι} {f g : ι → α} (hle : ∀ i ∈ l, f i ≤ g i) :
    (l.map f).min? = (l.map g).min? ↔ ∀ j ∈ l, f j < g j → ∃ i ∈ l, f i = g i ∧ f i ≤ f j := by
  cases hg : (l.map g).min? with
  | none =>
    rw [List.min?_eq_none_iff, List.map_eq_nil_iff] at hg
    subst hg
    simp
  | some least =>
    obtain ⟨hmem, hleast⟩ := List.min?_eq_some_iff.1 hg
    obtain ⟨k, hk, rfl⟩ := List.mem_map.1 hmem
    rw [List.min?_eq_some_iff]
    constructor
    · rintro ⟨hfmem, hfleast⟩ j hj -
      obtain ⟨i, hi, hfi⟩ := List.mem_map.1 hfmem
      have hgi : g k ≤ g i := hleast _ (List.mem_map_of_mem hi)
      -- the least value of `f` is that of `g`, so the place of either keeps its value
      have hfk : f k = g k := by
        refine le_antisymm (hle k hk) ?_
        exact hfleast _ (List.mem_map_of_mem hk)
      refine ⟨k, hk, hfk, ?_⟩
      rw [hfk]
      exact hfleast _ (List.mem_map_of_mem hj)
    · intro hkept
      have hbelow : ∀ j ∈ l, g k ≤ f j := by
        intro j hj
        rcases (hle j hj).lt_or_eq with hlt | heq
        · obtain ⟨i, hi, hfi, hij⟩ := hkept j hj hlt
          calc g k ≤ g i := hleast _ (List.mem_map_of_mem hi)
            _ = f i := hfi.symm
            _ ≤ f j := hij
        · rw [heq]
          exact hleast _ (List.mem_map_of_mem hj)
      refine ⟨List.mem_map.2 ⟨k, hk, le_antisymm (hle k hk) (hbelow k hk)⟩, fun b hb => ?_⟩
      obtain ⟨j, hj, rfl⟩ := List.mem_map.1 hb
      exact hbelow j hj

/-- A growing function of the values keeps the place of the least one. -/
theorem min?_map_of_monotone {β : Type} [LinearOrder β] {l : List α} {f : α → β}
    (hf : Monotone f) : (l.map f).min? = l.min?.map f := by
  cases hl : l.min? with
  | none =>
    rw [List.min?_eq_none_iff.1 hl]
    rfl
  | some least =>
    obtain ⟨hmem, hleast⟩ := List.min?_eq_some_iff.1 hl
    refine List.min?_eq_some_iff.2 ⟨List.mem_map_of_mem hmem, fun b hb => ?_⟩
    obtain ⟨a, ha, rfl⟩ := List.mem_map.1 hb
    exact hf (hleast a ha)

end

/-! ## Times to live -/

/-- A target of a referral: when it was resolved, in milliseconds, and how long it lives, in
    seconds. -/
structure Lease where
  resolvedAt : ℤ
  ttl : UInt32

/-- The end of a lease, which lasts one second at least. -/
def Lease.due (lease : Lease) : ℤ := lease.resolvedAt + 1000 * max 1 (lease.ttl.toNat : ℤ)

/-- The seconds the resolver states for a time-to-live. -/
def statedSeconds (ttl : UInt32) : ℤ := (max 1 ttl).toInt32.toInt

/-- The end of a lease for the client. -/
def Lease.ends (lease : Lease) : ℤ := lease.resolvedAt + 1000 * max 1 (statedSeconds lease.ttl)

theorem toNat_max_one (ttl : UInt32) : (max 1 ttl).toNat = max 1 ttl.toNat := by
  show (if 1 ≤ ttl then ttl else 1).toNat = _
  split
  · rename_i h
    exact (max_eq_right (UInt32.le_iff_toNat_le.1 h)).symm
  · rename_i h
    rw [UInt32.le_iff_toNat_le, not_le] at h
    exact (max_eq_left h.le).symm

theorem statedSeconds_eq (ttl : UInt32) :
    statedSeconds ttl = (max 1 ttl.toNat : ℤ).bmod (2 ^ 32) := by
  rw [statedSeconds, Int32.toInt, UInt32.toBitVec_toInt32, BitVec.toInt_eq_toNat_bmod,
    UInt32.toNat_toBitVec, toNat_max_one, Nat.cast_max, Nat.cast_one]

theorem statedSeconds_of_lt {ttl : UInt32} (h : ttl.toNat < 2 ^ 31) :
    statedSeconds ttl = max 1 (ttl.toNat : ℤ) := by
  rw [statedSeconds_eq]
  exact Int.bmod_eq_of_le (by omega) (by omega)

theorem statedSeconds_neg {ttl : UInt32} (h : 2 ^ 31 ≤ ttl.toNat) : statedSeconds ttl < 0 := by
  have hlt := ttl.toNat_lt
  rw [statedSeconds_eq, max_eq_right (by omega), Int.bmod_def]
  split
  · omega
  · omega

namespace Lease

variable {lease : Lease}

theorem ends_of_lt (h : lease.ttl.toNat < 2 ^ 31) : lease.ends = lease.due := by
  rw [ends, statedSeconds_of_lt h, due, max_eq_right (le_max_left ..)]

theorem ends_of_le (h : 2 ^ 31 ≤ lease.ttl.toNat) : lease.ends = lease.resolvedAt + 1000 := by
  have hneg := statedSeconds_neg h
  rw [ends, max_eq_left (by omega), mul_one]

theorem ends_lt_due_iff : lease.ends < lease.due ↔ 2 ^ 31 ≤ lease.ttl.toNat := by
  constructor
  · intro hlt
    by_contra hnot
    rw [ends_of_lt (not_le.1 hnot)] at hlt
    exact lt_irrefl _ hlt
  · intro h
    rw [ends_of_le h, due]
    omega

theorem ends_eq_due_iff : lease.ends = lease.due ↔ lease.ttl.toNat < 2 ^ 31 := by
  constructor
  · intro heq
    by_contra hnot
    exact absurd heq (ends_lt_due_iff.2 (not_lt.1 hnot)).ne
  · exact ends_of_lt

theorem ends_le_due : lease.ends ≤ lease.due := by
  rcases lt_or_ge lease.ttl.toNat (2 ^ 31) with h | h
  · exact (ends_of_lt h).le
  · exact (ends_lt_due_iff.2 h).le

end Lease

/-- For every lease of `2 ^ 31` seconds or more there is a shorter one that is due no later
    than a second after the first was resolved. -/
def MadeUpFor (leases : List Lease) : Prop :=
  ∀ lease ∈ leases, 2 ^ 31 ≤ lease.ttl.toNat →
    ∃ other ∈ leases, other.ttl.toNat < 2 ^ 31 ∧ other.due ≤ lease.resolvedAt + 1000

/-- The leases end when the first of them is due. -/
theorem min?_ends_eq_iff {leases : List Lease} :
    (leases.map Lease.ends).min? = (leases.map Lease.due).min? ↔ MadeUpFor leases := by
  rw [min?_map_eq_iff fun lease _ => Lease.ends_le_due, MadeUpFor]
  refine forall₂_congr fun lease _ => ?_
  rw [Lease.ends_lt_due_iff]
  refine forall_congr' fun hlong => exists_congr fun other => and_congr_right fun _ => ?_
  rw [Lease.ends_eq_due_iff, Lease.ends_of_le hlong]
  refine and_congr_right fun hother => ?_
  rw [Lease.ends_of_lt hother]

/-! ## Dates in the client -/

section

variable {A T : Type} {tables : CaseTables} {connection : Connection} {remotePath : QString}
  {es : List (Event (dfs A T))}

/-- The date that is read in an event. -/
def clockReading : Event (dfs A T) → Option ℤ
  | ⟨.currentDateTimeUtc, now⟩ => now
  | _ => none

/-- The dates that are read in a run. -/
def clockReadings (es : List (Event (dfs A T))) : List ℤ := es.filterMap clockReading

/-- `QDateTime::currentDateTimeUtc` is a valid date. -/
def ClockRuns : Event (dfs A T) → Prop
  | ⟨.currentDateTimeUtc, now⟩ => Option.isSome (α := ℤ) now = true
  | _ => True

/-- The entry of a date is fresh before an instant and not from it on. -/
def FreshUntil (A T : Type) (expiresAtUtc : QDateTime) (instant : ℤ) : Prop :=
  ∀ (now : ℤ) (fresh : Bool), (isCacheFresh (A := A) (T := T) expiresAtUtc).Runs
    [⟨.currentDateTimeUtc, (some now : QDateTime)⟩] fresh ↔ fresh = decide (now < instant)

theorem freshUntil_some {expiresAt instant : ℤ} :
    FreshUntil A T (some expiresAt) instant ↔ expiresAt = instant := by
  have hruns : ∀ (now : ℤ) fresh, (isCacheFresh (A := A) (T := T) (some expiresAt)).Runs
      [⟨.currentDateTimeUtc, (some now : QDateTime)⟩] fresh ↔ fresh = decide (now < expiresAt) := by
    intro now fresh
    constructor
    · intro h
      obtain ⟨answer, rest, hes, h⟩ := Program.runs_ask.1 h
      cases hes
      exact (Program.runs_pure.1 h).2
    · rintro rfl
      exact .ask _ (.pure _)
  constructor
  · intro h
    -- at either instant the entry is fresh by one date and expired by the other
    refine le_antisymm (not_lt.1 fun hlt => ?_) (not_lt.1 fun hlt => ?_)
    · have hnow := (h instant _).1 ((hruns instant _).2 rfl)
      rw [decide_eq_true hlt, decide_eq_false (lt_irrefl instant)] at hnow
      cases hnow
    · have hnow := (h expiresAt _).1 ((hruns expiresAt _).2 rfl)
      rw [decide_eq_true hlt, decide_eq_false (lt_irrefl expiresAt)] at hnow
      cases hnow
  · rintro rfl
    exact hruns

theorem runs_question {β : Type} {op : DfsOp A} {f : (dfs A T).Ans op → DfsProgram A T β}
    {result : β} (h : Program.Runs ((Program.perform (I := dfs A T) op).bind f) es result) :
    ∃ answer rest, es = ⟨op, answer⟩ :: rest ∧ Program.Runs (f answer) rest result :=
  Program.runs_ask.1 h

/-- The end of so many seconds, one at least. -/
def endsAt (now ttlSeconds : ℤ) : ℤ := now + 1000 * max 1 ttlSeconds

theorem runs_expiresAtForTtl {β : Type} {ttlSeconds : ℤ} {f : QDateTime → DfsProgram A T β}
    {result : β} (h : Program.Runs ((expiresAtForTtl ttlSeconds).bind f) es result)
    (hclock : ∀ e ∈ es, ClockRuns e) :
    ∃ now rest, es = ⟨.currentDateTimeUtc, (some now : QDateTime)⟩ :: rest ∧
      Program.Runs (f (some (endsAt now ttlSeconds))) rest result := by
  obtain ⟨now, rest, rfl, hrest⟩ := Program.runs_ask.1 h
  obtain ⟨instant, rfl⟩ := Option.isSome_iff_exists.1 (hclock _ List.mem_cons_self)
  exact ⟨instant, rest, rfl, hrest⟩

/-- Keeping the earlier date is keeping the least one. -/
theorem min?_earliest (expiresAtUtc : QDateTime) (candidate : ℤ) (later : List ℤ) :
    (Option.toList (earliest expiresAtUtc (some candidate)) ++ later).min? =
      (Option.toList expiresAtUtc ++ candidate :: later).min? := by
  cases expiresAtUtc with
  | none => rfl
  | some expiresAt =>
    have hmin : earliest (some expiresAt) (some candidate) = some (min expiresAt candidate) := by
      rw [earliest, Option.isNone_some, Bool.false_or, QDateTime.before, Option.getD_some,
        Option.getD_some]
      split
      · rename_i h
        rw [min_eq_right (of_decide_eq_true h).le]
      · rename_i h
        rw [min_eq_left (not_lt.1 fun hlt => h (decide_eq_true hlt))]
    rw [hmin]
    rfl

/-- What a loop over targets leaves: one reading of the clock for each of them, and the least
    of the dates. -/
structure ReadsEach (es : List (Event (dfs A T))) (ttlSeconds : List ℤ)
    (earlier expiresAtUtc : QDateTime) : Prop where
  asks : ∀ e ∈ es, e.op = .currentDateTimeUtc
  length : (clockReadings es).length = ttlSeconds.length
  least : expiresAtUtc =
    (Option.toList earlier ++ List.zipWith endsAt (clockReadings es) ttlSeconds).min?

theorem readsEach_nil {earlier : QDateTime} : ReadsEach (A := A) (T := T) [] [] earlier earlier where
  asks := fun e he => absurd he List.not_mem_nil
  length := rfl
  least := by
    cases earlier with
    | none => rfl
    | some earlier => rfl

theorem ReadsEach.cons {now first : ℤ} {ttlSeconds : List ℤ} {earlier expiresAtUtc : QDateTime}
    (h : ReadsEach es ttlSeconds (earliest earlier (some (endsAt now first))) expiresAtUtc) :
    ReadsEach (⟨.currentDateTimeUtc, (some now : QDateTime)⟩ :: es) (first :: ttlSeconds) earlier
      expiresAtUtc where
  asks := List.forall_mem_cons.2 ⟨rfl, h.asks⟩
  length := congrArg (· + 1) h.length
  least := by
    rw [h.least, min?_earliest]
    rfl

theorem runs_targetsExpiry {targets : List DfsResolvedConnection} {earlier expiresAtUtc : QDateTime}
    (h : Program.Runs (targetsExpiry (A := A) (T := T) targets earlier) es expiresAtUtc)
    (hclock : ∀ e ∈ es, ClockRuns e) :
    ReadsEach es (targets.map (·.ttlSeconds)) earlier expiresAtUtc := by
  induction targets generalizing es earlier with
  | nil =>
    obtain ⟨rfl, rfl⟩ := Program.runs_pure.1 h
    exact readsEach_nil
  | cons target targets ih =>
    obtain ⟨now, rest, rfl, hrest⟩ := runs_expiresAtForTtl h hclock
    exact (ih hrest fun e he => hclock e (List.mem_cons_of_mem _ he)).cons

theorem runs_pathMappings {resolved : List DfsResolvedPath} {earlier : QDateTime}
    {found : List DfsPathMapping × QDateTime}
    (h : Program.Runs (pathMappings (A := A) (T := T) tables connection remotePath resolved earlier)
      es found)
    (hclock : ∀ e ∈ es, ClockRuns e) :
    ReadsEach es (resolved.map (·.ttlSeconds)) earlier found.2 := by
  induction resolved generalizing es earlier found with
  | nil =>
    obtain ⟨rfl, rfl⟩ := Program.runs_pure.1 h
    exact readsEach_nil
  | cons resolvedPath resolved ih =>
    obtain ⟨now, rest, rfl, hrest⟩ := runs_expiresAtForTtl h hclock
    obtain ⟨es₁, others, es₂, rfl, hothers, hend⟩ := Program.runs_bind.1 hrest
    obtain ⟨rfl, rfl⟩ := Program.runs_pure.1 hend
    rw [List.append_nil] at hclock ⊢
    exact (ih hothers fun e he => hclock e (List.mem_cons_of_mem _ he)).cons

/-- The last question of a lookup stores the entry. -/
theorem ReadsEach.inserted {ttlSeconds : List ℤ} {earlier expiresAtUtc : QDateTime}
    {op op' : DfsOp A} {answer : (dfs A T).Ans op} {answer' : (dfs A T).Ans op'}
    (h : ReadsEach es ttlSeconds earlier expiresAtUtc)
    (hmem : (⟨op, answer⟩ : Event (dfs A T)) ∈ es ++ [⟨op', answer'⟩])
    (hop : op ≠ .currentDateTimeUtc) : op = op' := by
  rcases List.mem_append.1 hmem with hmem | hmem
  · exact absurd (h.asks _ hmem) hop
  · exact congrArg Event.op (List.mem_singleton.1 hmem)

theorem clockReadings_insert {op : DfsOp A} {answer : (dfs A T).Ans op}
    (hop : op ≠ .currentDateTimeUtc) :
    clockReadings (es ++ [⟨op, answer⟩]) = clockReadings es := by
  have hreading : clockReading (⟨op, answer⟩ : Event (dfs A T)) = none := by
    cases op with
    | currentDateTimeUtc => exact absurd rfl hop
    | _ => rfl
  rw [clockReadings, List.filterMap_append, List.filterMap_cons_none hreading, List.filterMap_nil,
    List.append_nil]
  rfl

/-- The date of an entry: the least one of a target, counted from when the clock was read
    for it. -/
structure Dates (es : List (Event (dfs A T))) (ttlSeconds : List ℤ) (expiresAtUtc : QDateTime) :
    Prop where
  some_target : ttlSeconds ≠ []
  length : (clockReadings es).length = ttlSeconds.length
  least : expiresAtUtc = (List.zipWith endsAt (clockReadings es) ttlSeconds).min?

theorem dates_of_resolveAndCache {resolved : Result (List DfsResolvedConnection)}
    {targets : List Connection} {key : QString} {entry : DfsConnectionCacheEntry}
    (h : Program.Runs (resolveAndCache (A := A) (T := T) tables connection)
      (⟨.resolveTargets connection, resolved⟩ :: es) targets)
    (hentry : (⟨.insertConnection key entry, ()⟩ : Event (dfs A T)) ∈ es)
    (hclock : ∀ e ∈ es, ClockRuns e) :
    Dates es (resolved.value.map (·.ttlSeconds)) entry.expiresAtUtc := by
  rw [resolveAndCache] at h
  obtain ⟨answer, rest, hes, hrest⟩ := runs_question h
  cases hes
  split at hrest
  · obtain ⟨rfl, -⟩ := Program.runs_pure.1 hrest
    exact absurd hentry List.not_mem_nil
  rename_i hsome
  obtain ⟨es₁, expiresAtUtc, es₂, rfl, hexpiry, hinsert⟩ := Program.runs_bind.1 hrest
  obtain ⟨answer, rest, rfl, hend⟩ := runs_question hinsert
  obtain ⟨rfl, -⟩ := Program.runs_pure.1 hend
  have hreads := runs_targetsExpiry hexpiry fun e he => hclock e (List.mem_append_left _ he)
  have hop := hreads.inserted hentry (by simp)
  rw [DfsOp.insertConnection.injEq] at hop
  have hreadings : clockReadings (es₁ ++ [⟨.insertConnection (cacheKey tables connection)
      ⟨resolved.value.map (·.connection), expiresAtUtc⟩, answer⟩]) = clockReadings es₁ :=
    clockReadings_insert (by simp)
  refine ⟨?_, ?_, ?_⟩
  · simp only [Bool.or_eq_true, not_or, List.isEmpty_iff] at hsome
    simpa using hsome.2
  · rw [hreadings]
    exact hreads.length
  · rw [hop.2, hreadings]
    exact hreads.least

theorem dates_of_resolvePathAndCache {resolved : Result (List DfsResolvedPath)}
    {mappings : List DfsPathMapping} {key : QString} {entry : DfsPathMappingCacheEntry}
    (h : Program.Runs (resolvePathAndCache (A := A) (T := T) tables connection remotePath)
      (⟨.resolvePathTargets connection remotePath, resolved⟩ :: es) mappings)
    (hentry : (⟨.insertPathMapping key entry, ()⟩ : Event (dfs A T)) ∈ es)
    (hclock : ∀ e ∈ es, ClockRuns e) :
    Dates es (resolved.value.map (·.ttlSeconds)) entry.expiresAtUtc := by
  rw [resolvePathAndCache] at h
  obtain ⟨answer, rest, hes, hrest⟩ := runs_question h
  cases hes
  split at hrest
  · rename_i first others hok hvalue
    obtain ⟨es₁, found, es₂, rfl, hexpiry, hinsert⟩ := Program.runs_bind.1 hrest
    obtain ⟨answer, rest, rfl, hend⟩ := runs_question hinsert
    obtain ⟨rfl, -⟩ := Program.runs_pure.1 hend
    have hreads := runs_pathMappings hexpiry fun e he => hclock e (List.mem_append_left _ he)
    have hop := hreads.inserted hentry (by simp)
    rw [DfsOp.insertPathMapping.injEq] at hop
    rw [hvalue, hop.2]
    refine ⟨by simp, ?_, ?_⟩
    · rw [clockReadings_insert (by simp)]
      exact hreads.length
    · rw [clockReadings_insert (by simp)]
      exact hreads.least
  · obtain ⟨rfl, -⟩ := Program.runs_pure.1 hrest
    exact absurd hentry List.not_mem_nil

end

/-! ## From the referral to the entry -/

section

variable {texts : ResolverTexts} {tables : CaseTables} {connection : Connection}
  {wire : List (Event ResolverWire)}

/-- The times to live of the targets that are kept of a referral. -/
def keptTtls (texts : ResolverTexts) (tables : CaseTables) (connection : Connection)
    (referrals : Native.NativeDfsReferralResult) : List UInt32 :=
  referrals.response.entries.filterMap fun entry =>
    (targetOf texts tables connection entry).map fun _ => entry.timeToLiveSeconds

/-- Targets of a referral that state its times to live state those of the kept entries. -/
theorem map_filterMap_targetOf {β : Type} {referrals : Native.NativeDfsReferralResult}
    {make : Native.DfsReferralEntry → NativeDfsReferralTarget → β} {seconds : β → ℤ}
    (h : ∀ entry target, seconds (make entry target) = statedSeconds entry.timeToLiveSeconds) :
    (referrals.response.entries.filterMap fun entry =>
      (targetOf texts tables connection entry).map (make entry)).map seconds =
        (keptTtls texts tables connection referrals).map statedSeconds := by
  rw [keptTtls, List.map_filterMap, List.map_filterMap]
  refine List.filterMap_congr fun entry _ => ?_
  rw [Option.map_map, Option.map_map]
  congr 1
  funext target
  exact h entry target

/-- The answer of the resolver: targets of the referral that was received last. -/
structure StatesSeconds (texts : ResolverTexts) (tables : CaseTables) (connection : Connection)
    (wire : List (Event ResolverWire)) (ttlSeconds : List ℤ) : Prop where
  answer : ∃ earlier requestPath referrals,
    wire = earlier ++ [⟨.getDfsReferrals requestPath, .ok referrals⟩] ∧
    ttlSeconds = (keptTtls texts tables connection referrals).map statedSeconds

theorem StatesSeconds.last {ttlSeconds : List ℤ} {earlier : List (Event ResolverWire)}
    {requestPath : Native.ByteVector} {referrals : Native.NativeDfsReferralResult}
    (h : StatesSeconds texts tables connection
      (earlier ++ [⟨.getDfsReferrals requestPath, .ok referrals⟩]) ttlSeconds) :
    ttlSeconds = (keptTtls texts tables connection referrals).map statedSeconds := by
  obtain ⟨earlier', requestPath', referrals', hwire, hseconds⟩ := h.answer
  have hlast := List.append_inj_right' hwire rfl
  cases hlast
  exact hseconds

theorem statesSeconds_of_resolveTargets {context : Native.OperationContext}
    {resolved : Result (List DfsResolvedConnection)}
    (h : Program.Runs (resolveTargets texts tables connection context) wire resolved)
    (htargets : resolved.value ≠ []) :
    StatesSeconds texts tables connection wire (resolved.value.map (·.ttlSeconds)) := by
  obtain ⟨before, opened, after, rfl, -, hafter⟩ := Program.runs_bind.1 h
  cases opened with
  | error e =>
    obtain ⟨-, rfl⟩ := Program.runs_pure.1 hafter
    exact absurd rfl htargets
  | ok state =>
    obtain ⟨answer, rest, rfl, hrest⟩ := Program.runs_ask.1 hafter
    cases answer with
    | error e =>
      obtain ⟨-, rfl⟩ := Program.runs_pure.1 hrest
      exact absurd rfl htargets
    | ok referrals =>
      obtain ⟨rfl, rfl⟩ := Program.runs_pure.1 hrest
      exact ⟨⟨before, _, referrals, rfl, map_filterMap_targetOf fun entry target => rfl⟩⟩

theorem statesSeconds_of_resolvePathTargets {remotePath : QString}
    {context : Native.OperationContext} {resolved : Result (List DfsResolvedPath)}
    (h : Program.Runs (resolvePathTargets texts tables connection remotePath context) wire resolved)
    (hpaths : resolved.value ≠ []) :
    StatesSeconds texts tables connection wire (resolved.value.map (·.ttlSeconds)) := by
  obtain ⟨earlier, count, referrals, -, hwire, hvalue⟩ := runs_resolvePathTargets h hpaths
  refine ⟨⟨earlier, _, referrals, hwire, ?_⟩⟩
  rw [hvalue]
  exact map_filterMap_targetOf fun entry target => rfl

/-- The targets of an entry, from the readings of the clock and the times to live. -/
def leases {A T : Type} (es : List (Event (dfs A T))) (ttls : List UInt32) : List Lease :=
  List.zipWith Lease.mk (clockReadings es) ttls

/-- The entry expires when the first of its targets is due. -/
def ExpiresWhenDue (A T : Type) (leases : List Lease) (expiresAtUtc : QDateTime) : Prop :=
  ∃ due ∈ (leases.map Lease.due).min?, FreshUntil A T expiresAtUtc due

/-- The entry lasts the least time to live of its targets, each a second at least. -/
def LastsLeastTtl (A T : Type) (resolvedAt : ℤ) (ttls : List UInt32) (expiresAtUtc : QDateTime) :
    Prop :=
  ∃ seconds ∈ (ttls.map fun ttl => max 1 (ttl.toNat : ℤ)).min?,
    FreshUntil A T expiresAtUtc (resolvedAt + 1000 * seconds)

/-- The client caches an entry with this date for the answer that the resolver makes of a
    referral, in one of its two tables. -/
inductive Caches (A T : Type) (texts : ResolverTexts) (tables : CaseTables)
    (connection : Connection) (referrals : Native.NativeDfsReferralResult) :
    List (Event (dfs A T)) → QDateTime → Prop where
  | connection {context : Native.OperationContext} {earlier : List (Event ResolverWire)}
      {requestPath : Native.ByteVector} {resolved : Result (List DfsResolvedConnection)}
      {es : List (Event (dfs A T))} {targets : List Connection} {key : QString}
      {entry : DfsConnectionCacheEntry}
      (resolver : Program.Runs (resolveTargets texts tables connection context)
        (earlier ++ [⟨.getDfsReferrals requestPath, .ok referrals⟩]) resolved)
      (client : Program.Runs (resolveAndCache (A := A) (T := T) tables connection)
        (⟨.resolveTargets connection, resolved⟩ :: es) targets)
      (inserted : (⟨.insertConnection key entry, ()⟩ : Event (dfs A T)) ∈ es) :
      Caches A T texts tables connection referrals es entry.expiresAtUtc
  | path {context : Native.OperationContext} {earlier : List (Event ResolverWire)}
      {requestPath : Native.ByteVector} {remotePath : QString}
      {resolved : Result (List DfsResolvedPath)} {es : List (Event (dfs A T))}
      {mappings : List DfsPathMapping} {key : QString} {entry : DfsPathMappingCacheEntry}
      (resolver : Program.Runs (resolvePathTargets texts tables connection remotePath context)
        (earlier ++ [⟨.getDfsReferrals requestPath, .ok referrals⟩]) resolved)
      (client : Program.Runs (resolvePathAndCache (A := A) (T := T) tables connection remotePath)
        (⟨.resolvePathTargets connection remotePath, resolved⟩ :: es) mappings)
      (inserted : (⟨.insertPathMapping key entry, ()⟩ : Event (dfs A T)) ∈ es) :
      Caches A T texts tables connection referrals es entry.expiresAtUtc

variable {A T : Type} {referrals : Native.NativeDfsReferralResult} {es : List (Event (dfs A T))}
  {expiresAtUtc : QDateTime}

theorem Caches.dates (h : Caches A T texts tables connection referrals es expiresAtUtc)
    (hclock : ∀ e ∈ es, ClockRuns e) :
    Dates es ((keptTtls texts tables connection referrals).map statedSeconds) expiresAtUtc := by
  cases h with
  | connection resolver client inserted =>
    have hdates := dates_of_resolveAndCache client inserted hclock
    have hsome := mt List.map_eq_nil_iff.2 hdates.some_target
    rwa [(statesSeconds_of_resolveTargets resolver hsome).last] at hdates
  | path resolver client inserted =>
    have hdates := dates_of_resolvePathAndCache client inserted hclock
    have hsome := mt List.map_eq_nil_iff.2 hdates.some_target
    rwa [(statesSeconds_of_resolvePathTargets resolver hsome).last] at hdates

variable {ttls : List UInt32}

theorem map_ends_leases :
    (leases es ttls).map Lease.ends =
      List.zipWith endsAt (clockReadings es) (ttls.map statedSeconds) := by
  rw [leases, List.map_zipWith, List.zipWith_map_right]
  rfl

theorem Dates.expiresWhenDue_iff (h : Dates es (ttls.map statedSeconds) expiresAtUtc) :
    ExpiresWhenDue A T (leases es ttls) expiresAtUtc ↔ MadeUpFor (leases es ttls) := by
  have hleast := h.least
  rw [← map_ends_leases] at hleast
  rw [← min?_ends_eq_iff, ← hleast]
  cases hexpires : expiresAtUtc with
  | none =>
    -- there is a target, so there is a least date
    rw [hexpires, eq_comm, List.min?_eq_none_iff, map_ends_leases, List.zipWith_eq_nil_iff,
      ← List.length_eq_zero_iff, h.length, List.length_eq_zero_iff, or_self] at hleast
    exact absurd hleast h.some_target
  | some expiresAt =>
    constructor
    · rintro ⟨due, hdue, hfresh⟩
      rw [freshUntil_some.1 hfresh]
      exact hdue.symm
    · intro hmin
      exact ⟨expiresAt, hmin.symm, freshUntil_some.2 rfl⟩

/-! ### A clock that stands -/

variable {now : ℤ}

theorem leases_still (hstill : ∀ reading ∈ clockReadings es, reading = now)
    (hlength : (clockReadings es).length = ttls.length) :
    leases es ttls = ttls.map (Lease.mk now) := by
  rw [leases, List.eq_replicate_iff.2 ⟨hlength, hstill⟩]
  clear hstill hlength
  induction ttls with
  | nil => rfl
  | cons ttl ttls ih =>
    rw [List.length_cons, List.replicate_succ, List.zipWith_cons_cons, ih, List.map_cons]

theorem expiresWhenDue_still :
    ExpiresWhenDue A T (ttls.map (Lease.mk now)) expiresAtUtc ↔
      LastsLeastTtl A T now ttls expiresAtUtc := by
  have hmono : Monotone fun seconds : ℤ => now + 1000 * seconds := by
    intro seconds seconds' hle
    dsimp only
    omega
  have hdue : (ttls.map (Lease.mk now)).map Lease.due =
      (ttls.map fun ttl => max 1 (ttl.toNat : ℤ)).map fun seconds => now + 1000 * seconds := by
    rw [List.map_map, List.map_map]
    rfl
  rw [ExpiresWhenDue, LastsLeastTtl, hdue, min?_map_of_monotone hmono]
  simp only [Option.mem_def, Option.map_eq_some_iff]
  constructor
  · rintro ⟨_, ⟨seconds, hseconds, rfl⟩, hfresh⟩
    exact ⟨seconds, hseconds, hfresh⟩
  · rintro ⟨seconds, hseconds, hfresh⟩
    exact ⟨_, ⟨seconds, hseconds, rfl⟩, hfresh⟩

theorem madeUpFor_still :
    MadeUpFor (ttls.map (Lease.mk now)) ↔
      (∀ ttl ∈ ttls, ttl.toNat < 2 ^ 31) ∨ ∃ ttl ∈ ttls, ttl.toNat ≤ 1 := by
  have hdue : ∀ ttl : UInt32, (Lease.mk now ttl).due ≤ now + 1000 ↔ ttl.toNat ≤ 1 := by
    intro ttl
    rw [Lease.due]
    dsimp only
    omega
  constructor
  · intro h
    by_cases hshort : ∀ ttl ∈ ttls, ttl.toNat < 2 ^ 31
    · exact .inl hshort
    · rw [not_forall₂] at hshort
      obtain ⟨ttl, hmem, hlong⟩ := hshort
      obtain ⟨other, hother, -, hends⟩ := h _ (List.mem_map_of_mem hmem) (not_lt.1 hlong)
      obtain ⟨ttl', hmem', rfl⟩ := List.mem_map.1 hother
      exact .inr ⟨ttl', hmem', (hdue ttl').1 hends⟩
  · rintro (hshort | ⟨ttl', hmem', hone⟩) lease hlease hlong
    · obtain ⟨ttl, hmem, rfl⟩ := List.mem_map.1 hlease
      exact absurd (hshort ttl hmem) (not_lt.2 hlong)
    · obtain ⟨ttl, hmem, rfl⟩ := List.mem_map.1 hlease
      refine ⟨⟨now, ttl'⟩, List.mem_map_of_mem hmem', ?_, (hdue ttl').2 hone⟩
      dsimp only
      omega

/-! ### The main result -/

/-- **The lifetime of a cached referral.**  The clock is read once for each target, and the
    entry expires when the first of them is due exactly when each time to live of `2 ^ 31`
    or more is made up for; where the clock stands meanwhile, exactly when there is none or
    some target may live a second at most. -/
theorem cachedEntry_expires_iff (h : Caches A T texts tables connection referrals es expiresAtUtc)
    (hclock : ∀ e ∈ es, ClockRuns e) :
    (clockReadings es).length = (keptTtls texts tables connection referrals).length ∧
    (ExpiresWhenDue A T (leases es (keptTtls texts tables connection referrals)) expiresAtUtc ↔
      MadeUpFor (leases es (keptTtls texts tables connection referrals))) ∧
    ∀ now, (∀ reading ∈ clockReadings es, reading = now) →
      (LastsLeastTtl A T now (keptTtls texts tables connection referrals) expiresAtUtc ↔
        (∀ ttl ∈ keptTtls texts tables connection referrals, ttl.toNat < 2 ^ 31) ∨
          ∃ ttl ∈ keptTtls texts tables connection referrals, ttl.toNat ≤ 1) := by
  have hdates := h.dates hclock
  have hlength := hdates.length
  rw [List.length_map] at hlength
  refine ⟨hlength, hdates.expiresWhenDue_iff, fun now hstill => ?_⟩
  have hiff := hdates.expiresWhenDue_iff
  rwa [leases_still hstill hlength, expiresWhenDue_still, madeUpFor_still] at hiff

end

/-! ### One target -/

namespace PlainResolver

/-- A referral with one target that may live so many seconds. -/
def lasting (timeToLiveSeconds : UInt32) : Native.NativeDfsReferralResult where
  response := { entries := [{ networkAddress := ascii "\\\\t\\d", timeToLiveSeconds }] }

/-- Its target for the client. -/
def resolvedTarget (ttl : UInt32) : DfsResolvedConnection where
  connection := targetConnectionFor connection
    { server := qStringLiteral "t", share := qStringLiteral "d", targetPathPrefix := root }
  ttlSeconds := statedSeconds ttl

/-- The events after it was resolved at the epoch. -/
def cachedEvents (ttl : UInt32) : List (Event (dfs Unit Unit)) :=
  [⟨.currentDateTimeUtc, (some 0 : QDateTime)⟩,
    ⟨.insertConnection (cacheKey tables connection)
      ⟨[(resolvedTarget ttl).connection], some (endsAt 0 (statedSeconds ttl))⟩, ()⟩]

theorem clockRuns_cachedEvents (ttl : UInt32) : ∀ e ∈ cachedEvents ttl, ClockRuns e := by
  simp [cachedEvents, ClockRuns]

theorem caches_lasting (ttl : UInt32) :
    Caches Unit Unit texts tables connection (lasting ttl) (cachedEvents ttl)
      (some (endsAt 0 (statedSeconds ttl))) := by
  have hresolver : Program.Runs (resolveTargets texts tables connection {})
      ([⟨.connect _, .ok { connection := .new 1 1 1, negotiated := {}, session := {}, tree := {} }⟩]
        ++ [⟨.getDfsReferrals _, .ok (lasting ttl)⟩]) (.success [resolvedTarget ttl]) :=
    .ask _ (.ask _ (.pure _))
  have hclient : Program.Runs (resolveAndCache (A := Unit) (T := Unit) tables connection)
      (⟨.resolveTargets connection, Result.success [resolvedTarget ttl]⟩ :: cachedEvents ttl)
      [(resolvedTarget ttl).connection] :=
    .ask _ (.ask _ (.ask _ (.pure _)))
  exact .connection hresolver hclient (List.mem_cons_of_mem _ List.mem_cons_self)

end PlainResolver

open PlainResolver in
/-- A target that may live five minutes. -/
theorem cachedEntry_expires_300 :
    LastsLeastTtl Unit Unit 0 (keptTtls texts tables connection (lasting 300)) (some 300000) := by
  have hexpires := (cachedEntry_expires_iff (caches_lasting 300) (clockRuns_cachedEvents 300)).2.2 0
    (by decide)
  have hkept : keptTtls texts tables connection (lasting 300) = [300] := by decide
  refine hexpires.2 (.inl ?_)
  rw [hkept]
  exact List.forall_mem_singleton.2 (by decide)

open PlainResolver in
/-- A target that may live `2 ^ 32 - 1` seconds is cached for one. -/
theorem not_lastsLeastTtl :
    ¬ ∀ (texts : ResolverTexts) (tables : CaseTables) (connection : Connection) referrals es
        expiresAtUtc, Caches Unit Unit texts tables connection referrals es expiresAtUtc →
      (∀ e ∈ es, ClockRuns e) → ∀ now, (∀ reading ∈ clockReadings es, reading = now) →
        LastsLeastTtl Unit Unit now (keptTtls texts tables connection referrals) expiresAtUtc := by
  intro h
  obtain ⟨seconds, hseconds, hfresh⟩ := h _ _ _ _ _ _ (caches_lasting 0xFFFFFFFF)
    (clockRuns_cachedEvents 0xFFFFFFFF) 0 (by decide)
  have hkept : keptTtls texts tables connection (lasting 0xFFFFFFFF) = [0xFFFFFFFF] := by decide
  rw [hkept] at hseconds
  have hlong : (4294967295 : ℤ) = seconds := Option.some.inj hseconds
  have hshort : (1000 : ℤ) = 0 + 1000 * seconds := freshUntil_some.1 hfresh
  omega

end SmbBrowser.Dfs
