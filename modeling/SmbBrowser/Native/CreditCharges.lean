import SmbBrowser.Native.DisjointIds
import SmbBrowser.Native.ExchangeRules

/-!
# Credit charges

The charge in the header of a request against the bytes it moves, and against the
message ids the session sets aside for it.

READ, WRITE and CHANGE_NOTIFY compute their charge and store it in 16 bits; IOCTL,
SET_INFO, QUERY_INFO and QUERY_DIRECTORY always store one.

Results:
* `creditCharge_covers_iff`: a computed charge covers its size up to 65535 times
  64 KiB, where the 16 bits are full;
* `Follows`: the requests of a helper as a plan it follows as far as it gets;
* `Transfer.follows`: the plans of the three methods that read and write;
* `creditCharge_iff`: when a charge covers its request and is what is set aside.
-/

namespace SmbBrowser.Native

open SmbBrowser.Base

/-! ## Charges and sizes -/

/-- The largest size a computed charge has room for. -/
def kMaxChargedSize : ℕ := 65535 * 65536

/-- A charge that is not zero and covers a size. -/
def CreditsCover (charge : UInt16) (size : ℕ) : Prop := charge ≠ 0 ∧ size ≤ charge.toNat * 65536

theorem toNat_creditCharge {size : ℕ} (h : size ≤ kMaxChargedSize) :
    (creditCharge size).toNat = creditChargeForPayload size := by
  rw [kMaxChargedSize] at h
  rw [creditCharge, creditChargeForPayload]
  split
  · rfl
  · have hlt : 1 + (size - 1) / 65536 < 2 ^ 16 := by omega
    exact UInt16.toNat_ofNat_of_lt hlt

/-- Past the room of 16 bits the charge is stored as zero. -/
theorem creditCharge_eq_zero {size : ℕ} (h : kMaxChargedSize < size) (hmax : size < 2 ^ 32) :
    creditCharge size = 0 := by
  rw [kMaxChargedSize] at h
  have hfull : 1 + (size - 1) / 65536 = 65536 := by omega
  rw [creditCharge, if_neg (by omega), hfull]
  rfl

/-- A computed charge covers its size as long as 16 bits hold it. -/
theorem creditCharge_covers_iff {size : ℕ} (hmax : size < 2 ^ 32) :
    CreditsCover (creditCharge size) size ↔ size ≤ kMaxChargedSize := by
  constructor
  · intro h
    by_contra hlt
    exact h.1 (creditCharge_eq_zero (by omega) hmax)
  · intro h
    have htoNat := toNat_creditCharge h
    rw [creditChargeForPayload] at htoNat
    constructor
    · intro hzero
      rw [hzero] at htoNat
      split at htoNat
      · exact absurd htoNat (by decide)
      · have hnone : (0 : UInt16).toNat = 0 := rfl
        omega
    · rw [htoNat]
      split
      · omega
      · omega

/-- A charge of one covers 64 KiB. -/
theorem creditsCover_one_iff {size : ℕ} : CreditsCover 1 size ↔ size ≤ 65536 := by
  have hone : (1 : UInt16).toNat * 65536 = 65536 := rfl
  have hne : (1 : UInt16) ≠ 0 := by decide
  rw [CreditsCover, hone]
  exact and_iff_right hne

/-! ## The requests -/

namespace RequestBody

/-- The requests whose charge is looked at. -/
def charged : RequestBody → Bool
  | .read _ | .write _ | .ioctl _ | .setInfo _ | .queryInfo _ | .queryDirectory _
  | .changeNotify _ => true
  | .create _ | .close _ => false

/-- The bytes a request carries. -/
def payloadSize : RequestBody → ℕ
  | .write o => o.data.length
  | .ioctl o => o.input.length
  | .setInfo o => o.buffer.length
  | .queryInfo o => o.inputBuffer.length
  | .queryDirectory o =>
    match encodeUtf16Le o.pattern with
    | .ok pattern => pattern.length
    | .error _ => 0
  | .create _ | .close _ | .read _ | .changeNotify _ => 0

/-- The bytes a request asks for at most. -/
def responseSize : RequestBody → ℕ
  | .read o => o.length.toNat
  | .ioctl o => o.maxInputResponse.toNat + o.maxOutputResponse.toNat
  | .queryInfo o => o.outputBufferLength.toNat
  | .queryDirectory o => o.outputBufferLength.toNat
  | .changeNotify o => o.outputBufferLength.toNat
  | .create _ | .close _ | .write _ | .setInfo _ => 0

/-- The sizes the charge of a request covers: those that 16 bits of charge have
    room for where it is computed, and 64 KiB where it is always one. -/
def chargeLimit : RequestBody → ℕ
  | .read _ | .write _ | .changeNotify _ => kMaxChargedSize
  | .create _ | .close _ | .ioctl _ | .setInfo _ | .queryInfo _ | .queryDirectory _ => 65536

end RequestBody

/-- What the charge in the header of a message owes the request. -/
def ChargeCovers (message : ByteVector) (body : RequestBody) : Prop :=
  ∃ header, decodeSmb2SyncHeader message = .ok header ∧
    CreditsCover header.creditCharge (max body.payloadSize body.responseSize)

theorem lt_of_throwWhen {size : ℕ} {what : String} {u : Unit}
    (h : throwWhen (size > u32Max) what = .ok u) : size < 2 ^ 32 := by
  rw [throwWhen_eq_ok, decide_eq_false_iff_not, u32Max] at h
  omega

/-- What a builder accepts: the buffer of a request fits 32 bits. -/
theorem payloadSize_of_build {request : Request} {message : ByteVector}
    (h : request.build = .ok message) : request.body.payloadSize < 2 ^ 32 := by
  obtain ⟨body, m, t, s⟩ := request
  cases body with
  | create o => exact Nat.zero_lt_succ _
  | close o => exact Nat.zero_lt_succ _
  | read o => exact Nat.zero_lt_succ _
  | changeNotify o => exact Nat.zero_lt_succ _
  | write o =>
    obtain ⟨_, hsize, _⟩ := bind_eq_ok.1 h
    exact lt_of_throwWhen hsize
  | ioctl o =>
    obtain ⟨_, hsize, _⟩ := bind_eq_ok.1 h
    exact lt_of_throwWhen hsize
  | setInfo o =>
    obtain ⟨_, hsize, _⟩ := bind_eq_ok.1 h
    exact lt_of_throwWhen hsize
  | queryInfo o =>
    obtain ⟨_, hsize, _⟩ := bind_eq_ok.1 h
    exact lt_of_throwWhen hsize
  | queryDirectory o =>
    obtain ⟨pattern, hpattern, h⟩ := bind_eq_ok.1 h
    obtain ⟨_, hsize, _⟩ := bind_eq_ok.1 h
    rw [throwWhen_eq_ok, decide_eq_false_iff_not, u16Max] at hsize
    simp only [RequestBody.payloadSize, hpattern]
    omega

/-- The header a built message carries. -/
theorem creditCharge_of_build {request : Request} {message : ByteVector}
    (h : request.build = .ok message) :
    ∃ header, decodeSmb2SyncHeader message = .ok header ∧ header.creditCharge = request.charge := by
  obtain ⟨rest, rfl⟩ := Request.build_eq h
  refine ⟨request.header, decodeSmb2SyncHeader_encode _ rest, ?_⟩
  obtain ⟨body, m, t, s⟩ := request
  cases body <;> rfl

/-- **The charge in a header covers the request exactly up to the limit of its
    kind.** -/
theorem chargeCovers_iff {request : Request} {message : ByteVector}
    (hbuild : request.build = .ok message) (hkind : request.body.charged = true) :
    ChargeCovers message request.body ↔
      max request.body.payloadSize request.body.responseSize ≤ request.body.chargeLimit := by
  obtain ⟨header, hheader, hcharge⟩ := creditCharge_of_build hbuild
  have hcovers : ChargeCovers message request.body ↔
      CreditsCover request.charge (max request.body.payloadSize request.body.responseSize) := by
    constructor
    · rintro ⟨other, hother, h⟩
      obtain rfl := Except.ok.inj (hother.symm.trans hheader)
      rwa [hcharge] at h
    · intro h
      exact ⟨header, hheader, hcharge.symm ▸ h⟩
  have hpayload := payloadSize_of_build hbuild
  rw [hcovers]
  obtain ⟨body, m, t, s⟩ := request
  cases body with
  | create o => cases hkind
  | close o => cases hkind
  | ioctl o => exact creditsCover_one_iff
  | setInfo o => exact creditsCover_one_iff
  | queryInfo o => exact creditsCover_one_iff
  | queryDirectory o => exact creditsCover_one_iff
  | read o =>
    have hmax : max 0 o.length.toNat = o.length.toNat := Nat.zero_max _
    show CreditsCover (creditCharge o.length.toNat) (max 0 o.length.toNat) ↔
      max 0 o.length.toNat ≤ kMaxChargedSize
    rw [hmax]
    exact creditCharge_covers_iff o.length.toNat_lt
  | write o =>
    have hmax : max o.data.length 0 = o.data.length := Nat.max_zero _
    show CreditsCover (creditCharge o.data.length) (max o.data.length 0) ↔
      max o.data.length 0 ≤ kMaxChargedSize
    rw [hmax]
    exact creditCharge_covers_iff hpayload
  | changeNotify o =>
    have hmax : max 0 o.outputBufferLength.toNat = o.outputBufferLength.toNat := Nat.zero_max _
    show CreditsCover (creditCharge o.outputBufferLength.toNat) (max 0 o.outputBufferLength.toNat) ↔
      max 0 o.outputBufferLength.toNat ≤ kMaxChargedSize
    rw [hmax]
    exact creditCharge_covers_iff o.outputBufferLength.toNat_lt

/-! ## Ids set aside

A method that reads or writes has a plan: the requests it sends as long as all goes
well, with their first ids, and the first id it leaves to the next method.  The ids
from one request to the next are those set aside for it. -/

/-- A request of a plan. -/
structure Slot where
  command : Command
  messageId : ℕ
  creditCharge : UInt16
  deriving DecidableEq

/-- The slot a request takes. -/
def Slot.of (request : Request) : Slot :=
  ⟨request.header.command, request.messageId, request.charge⟩

/-- The requests so far, after one more event. -/
def Slot.after (slots : List Slot) : Event Wire → List Slot
  | ⟨.exchange sent _, _⟩ => slots ++ [.of sent.request]
  | ⟨.isCancelled _, _⟩ => slots
  | ⟨.progress _, _⟩ => slots
  | ⟨.enter _, _⟩ => slots

/-- The requests of a run, as they were handed to the transport. -/
def slotsOf (es : List (Event Wire)) : List Slot := es.foldl Slot.after []

/-- The environment that records the requests. -/
abbrev Slotted : Contract Wire (List Slot) := .tracking Slot.after

theorem looked_slots (asker : Asker) (context : OperationContext) (slots : List Slot) :
    looked Slot.after asker context slots = slots := by
  unfold looked
  split <;> rfl

/-- What a run that follows a plan has sent: the plan up to some request, and all
    of it if the run returns a value, which satisfies `P`. -/
def FollowedBy {α : Type} (plan : List Slot) (P : α → Prop) (slots : List Slot)
    (r : Except Exn (DecodeResult α)) (slots' : List Slot) : Prop :=
  ∃ sent, slots' = slots ++ sent ∧ sent <+: plan ∧ ∀ a, r = .ok (.ok a) → sent = plan ∧ P a

/-- After these requests, a helper sends those of the plan as far as it gets. -/
structure Follows {α : Type} (p : Prog (DecodeResult α)) (plan : List Slot) (P : α → Prop)
    (slots : List Slot) : Prop where
  meets : MeetsE Slotted p (FollowedBy plan P slots) slots

namespace Follows

variable {α β : Type} {plan slots : List Slot} {P : α → Prop} {context : OperationContext}

theorem nothing {r : Except Exn (DecodeResult α)} (h : ∀ a, r ≠ .ok (.ok a)) :
    FollowedBy plan P slots r slots :=
  ⟨[], (List.append_nil _).symm, List.nil_prefix, fun a ha => absurd ha (h a)⟩

theorem ok {a : α} (h : P a) : Follows (pure (.ok a)) [] P slots := by
  refine ⟨[], (List.append_nil _).symm, List.nil_prefix, ?_⟩
  intro b hb
  cases hb
  exact ⟨rfl, h⟩

theorem error {r : DecodeResult α} {e : ProtocolError} (h : r = .error e) :
    Follows (pure r) plan P slots := by
  subst h
  refine ⟨nothing ?_⟩
  intro a ha
  cases ha

/-- `if (isCancelled(context)) { return failure; }`. -/
theorem look {asker : Asker} {r : DecodeResult α} {e : ProtocolError}
    {rest : Prog (DecodeResult α)} (hr : r = .error e) (h : Follows rest plan P slots) :
    Follows (isCancelled asker context >>= fun b => if b = true then pure r else rest)
      plan P slots := by
  refine ⟨tracked_look ?_ ?_⟩
  · intro _
    exact (error hr).meets
  · rw [looked_slots]
    exact h.meets

/-- One helper after the other. -/
theorem bind {p : Prog (DecodeResult β)} {f : DecodeResult β → Prog (DecodeResult α)}
    {first : List Slot} {P' : β → Prop} (h : Follows p first P' slots)
    (hok : ∀ b, Follows (f (.ok b)) plan P (slots ++ first))
    (herror : ∀ e, ∃ e', f (.error e) = pure (.error e')) :
    Follows (p >>= f) (first ++ plan) P slots := by
  refine ⟨MeetsE.bind h.meets ?_ ?_⟩
  · intro r slots' hsent
    obtain ⟨sent, rfl, hpre, hall⟩ := hsent
    cases r with
    | error e =>
      obtain ⟨e', he'⟩ := herror e
      rw [he']
      refine ⟨sent, rfl, hpre.trans (List.prefix_append _ _), ?_⟩
      intro a ha
      cases ha
    | ok b =>
      obtain ⟨rfl, -⟩ := hall b rfl
      refine (hok b).meets.mono ?_
      intro r slots'' hrest
      obtain ⟨rest, rfl, hrest, hwhole⟩ := hrest
      refine ⟨sent ++ rest, (List.append_assoc _ _ _), ?_, ?_⟩
      · exact (List.prefix_append_right_inj _).2 hrest
      · intro a ha
        obtain ⟨rfl, ha⟩ := hwhole a ha
        exact ⟨rfl, ha⟩
  · intro e slots' hsent
    obtain ⟨sent, rfl, hpre, -⟩ := hsent
    refine ⟨sent, rfl, hpre.trans (List.prefix_append _ _), ?_⟩
    intro a ha
    cases ha

theorem exchangePayload (request : Request) (context : OperationContext) :
    Follows (exchangePayload request context) [.of request] (fun _ => True) slots := by
  refine ⟨exchangePayload_meets ?_ ?_⟩
  · intro e _
    exact nothing fun a ha => by cases ha
  · rintro sent rfl
    refine ⟨trivial, ?_⟩
    rintro reply m rfl
    constructor
    · intro payload _
      exact ⟨_, rfl, List.prefix_rfl, fun _ _ => ⟨rfl, trivial⟩⟩
    · intro _ e
      exact ⟨_, rfl, List.prefix_rfl, fun _ _ => ⟨rfl, trivial⟩⟩

theorem exchangeResponse (cancelled : String) (decode : ByteVector → DecodeResult α)
    (request : Request) (context : OperationContext) :
    Follows (exchangeResponse cancelled decode request context) [.of request] (fun _ => True)
      slots := by
  have hsent : ∀ r : Except Exn (DecodeResult α),
      FollowedBy [.of request] (fun _ => True) slots r (slots ++ [.of request]) := fun r =>
    ⟨_, rfl, List.prefix_rfl, fun _ _ => ⟨rfl, trivial⟩⟩
  refine ⟨tracked_exchangeResponse ?_ ?_ ?_⟩
  · intro _ e
    exact nothing fun a ha => by cases ha
  · intro e _
    rw [looked_slots]
    exact nothing fun a ha => by cases ha
  · rw [looked_slots]
    rintro sent rfl reply
    constructor
    · intro _ _ _
      exact hsent _
    · intro frame _
      simp only [looked_slots]
      exact ⟨fun _ _ => hsent _, fun _ _ => hsent _, fun _ _ => hsent _⟩

end Follows

/-! ## The methods that read and write -/

/-- The calls of a session that send a READ or a WRITE. -/
inductive Transfer where
  | readFileChunk (fileId : FileId) (length : UInt32) (offset : UInt64)
  | readFileOnce (path : ByteVector) (length : UInt32) (offset : UInt64)
  | writeFileOnce (path data : ByteVector) (offset : UInt64)

namespace Transfer

/-- The method of a transfer. -/
def run (context : OperationContext) : Transfer → SessionM (DecodeResult Unit)
  | .readFileChunk fileId length offset => do
    let result ← Session.readFileChunk fileId length offset context
    return result.map fun _ => ()
  | .readFileOnce path length offset => do
    let result ← Session.readFileOnce path length offset context
    return result.map fun _ => ()
  | .writeFileOnce path data offset => do
    let result ← Session.writeFileOnce path data offset context
    return result.map fun _ => ()

/-- The requests of a transfer whose first id is `m`. -/
def plan (m : ℕ) : Transfer → List Slot
  | .readFileChunk _ length _ => [⟨.read, m, creditCharge length.toNat⟩]
  | .readFileOnce _ length _ =>
    [⟨.create, m, 1⟩, ⟨.read, m + 1, creditCharge length.toNat⟩, ⟨.close, m + 2, 1⟩]
  | .writeFileOnce _ data _ =>
    if data = [] then [⟨.create, m, 1⟩, ⟨.close, m + 1, 1⟩]
    else [⟨.create, m, 1⟩, ⟨.write, m + 1, creditCharge data.length⟩, ⟨.close, m + 2, 1⟩]

/-- The first id a transfer leaves to the next method. -/
def next (m : ℕ) : Transfer → ℕ
  | .readFileChunk _ length _ => m + creditChargeForPayload length.toNat
  | .readFileOnce _ _ _ => m + 3
  | .writeFileOnce _ data _ => if data = [] then m + 2 else m + 3

/-- The ids set aside for the request of a plan that begins at `messageId`: those
    up to the next request, or up to the next method. -/
def reserved (m : ℕ) (transfer : Transfer) (messageId : ℕ) : ℕ :=
  (((transfer.plan m).map Slot.messageId).find? (messageId < ·)).getD (transfer.next m) - messageId

/-- The bytes a transfer moves. -/
def size : Transfer → ℕ
  | .readFileChunk _ length _ => length.toNat
  | .readFileOnce _ length _ => length.toNat
  | .writeFileOnce _ data _ => data.length

/-- The sizes for which as many ids are set aside as are charged. -/
def reservedLimit : Transfer → ℕ
  | .readFileChunk _ _ _ => kMaxChargedSize
  | .readFileOnce _ _ _ | .writeFileOnce _ _ _ => 65536

end Transfer

section

variable {slots : List Slot} (m : ℕ) (treeId : UInt32) (sessionId : UInt64)
  (context : OperationContext)

theorem follows_fileReader (path : ByteVector) (length : UInt32) (offset : UInt64) :
    Follows (fileReader m treeId sessionId context path length offset)
      ((Transfer.readFileOnce path length offset).plan m) (fun _ => True) slots := by
  rw [fileReader]
  refine .look rfl ?_
  refine (Follows.exchangePayload _ _).bind ?_ fun e => ⟨_, rfl⟩
  intro createPayload
  refine .look rfl ?_
  cases decodeCreateResponse createPayload with
  | error e => exact .error rfl
  | ok create =>
    refine (Follows.exchangeResponse _ _ _ _).bind ?_ fun e => ⟨_, rfl⟩
    intro read
    refine (Follows.exchangeResponse _ _ _ _).bind ?_ fun e => ⟨_, rfl⟩
    intro closed
    exact .ok trivial

theorem follows_fileWriter (path data : ByteVector) (offset : UInt64) :
    Follows (fileWriter m treeId sessionId context path data offset)
      ((Transfer.writeFileOnce path data offset).plan m)
      (fun result => result.messagesUsed = if data = [] then 2 else 3) slots := by
  rw [fileWriter, Transfer.plan]
  by_cases hdata : data = []
  · simp only [hdata, if_true]
    refine .look rfl ?_
    refine (Follows.exchangePayload _ _).bind ?_ fun e => ⟨_, rfl⟩
    intro createPayload
    refine .look rfl ?_
    cases decodeCreateResponse createPayload with
    | error e => exact .error rfl
    | ok create =>
      refine (Follows.exchangeResponse _ _ _ _).bind ?_ fun e => ⟨_, rfl⟩
      intro closed
      exact .ok rfl
  · simp only [hdata, if_false]
    refine .look rfl ?_
    refine (Follows.exchangePayload _ _).bind ?_ fun e => ⟨_, rfl⟩
    intro createPayload
    refine .look rfl ?_
    cases decodeCreateResponse createPayload with
    | error e => exact .error rfl
    | ok create =>
      refine (Follows.exchangeResponse _ _ _ _).bind ?_ fun e => ⟨_, rfl⟩
      intro write
      refine (Follows.exchangeResponse _ _ _ _).bind ?_ fun e => ⟨_, rfl⟩
      intro closed
      exact .ok rfl

end

/-- A method that sends the requests of a plan as far as it gets, and that leaves
    the session behind the plan if it returns a value. -/
structure FollowsS {α : Type} (p : SessionM (DecodeResult α)) (plan : List Slot) (next : ℕ)
    (session : Session) (slots : List Slot) : Prop where
  meets : MeetsS Slotted p (fun r session' slots' =>
    FollowedBy plan (fun _ => session'.nextMessageId = next) slots r slots') session slots

namespace FollowsS

variable {α β : Type} {plan slots : List Slot} {next : ℕ} {session : Session}

theorem enter {call : SessionCall} {f : Unit → SessionM (DecodeResult α)}
    (h : FollowsS (f ()) plan next session slots) :
    FollowsS (SessionM.enter call >>= f) plan next session slots := by
  refine ⟨meetsS_enter ⟨trivial, ?_⟩⟩
  rintro m rfl
  exact h.meets

theorem get {f : Session → SessionM (DecodeResult α)}
    (h : FollowsS (f session) plan next session slots) :
    FollowsS (MonadState.get >>= f) plan next session slots :=
  ⟨meetsS_sessionGet.2 h.meets⟩

theorem allocateMessageIds {count : ℕ} {f : ℕ → SessionM (DecodeResult α)}
    (h : FollowsS (f session.nextMessageId) plan next
      { session with nextMessageId := session.nextMessageId + count } slots) :
    FollowsS (Native.allocateMessageIds count >>= f) plan next session slots :=
  ⟨meetsS_allocateMessageIds.2 h.meets⟩

/-- A method that runs one helper and turns its result into its own. -/
theorem withIds {messageId : ℕ} {helper : ℕ → UInt32 → UInt64 → Prog (DecodeResult β)}
    {f : DecodeResult β → SessionM (DecodeResult α)} {P : β → Prop}
    (h : Follows (helper messageId session.treeId session.sessionId) plan P slots)
    (hok : ∀ b, P b → ∃ a session', (f (.ok b)).run.run session = pure (.ok (.ok a), session') ∧
      session'.nextMessageId = next)
    (herror : ∀ e, ∃ e' session', (f (.error e)).run.run session =
      pure (.ok (.error e'), session')) :
    FollowsS (SessionM.withIds messageId helper >>= f) plan next session slots := by
  refine ⟨meetsS_bind.2 (meetsS_withIds.2 (MeetsE.mono h.meets ?_))⟩
  intro r slots' hsent
  obtain ⟨sent, rfl, hpre, hall⟩ := hsent
  cases r with
  | error e =>
    refine ⟨sent, rfl, hpre, ?_⟩
    intro a ha
    cases ha
  | ok r =>
    cases r with
    | error e =>
      obtain ⟨e', session', hrun⟩ := herror e
      show Meets Slotted ((f (.error e)).run.run session) _ _
      rw [hrun]
      refine ⟨sent, rfl, hpre, ?_⟩
      intro a ha
      cases ha
    | ok b =>
      obtain ⟨hsent, hb⟩ := hall b rfl
      obtain ⟨a, session', hrun, hnext⟩ := hok b hb
      show Meets Slotted ((f (.ok b)).run.run session) _ _
      rw [hrun]
      exact ⟨sent, rfl, hpre, fun _ _ => ⟨hsent, hnext⟩⟩

/-- Only the value of the result changes. -/
theorem map {p : SessionM (DecodeResult β)} (h : FollowsS p plan next session slots) :
    FollowsS (p >>= fun result => pure (result.map fun _ => ())) plan next session slots := by
  refine ⟨MeetsS.bind h.meets ?_ ?_⟩
  · intro r session' slots' hsent
    obtain ⟨sent, rfl, hpre, hall⟩ := hsent
    refine ⟨sent, rfl, hpre, ?_⟩
    intro a ha
    cases r with
    | error e => cases ha
    | ok b => exact hall b rfl
  · intro e session' slots' hsent
    obtain ⟨sent, rfl, hpre, -⟩ := hsent
    refine ⟨sent, rfl, hpre, ?_⟩
    intro a ha
    cases ha

end FollowsS

/-- **What a transfer sends and what it leaves to the next method.** -/
theorem Transfer.follows (transfer : Transfer) (context : OperationContext) (session : Session) :
    FollowsS (transfer.run context) (transfer.plan session.nextMessageId)
      (transfer.next session.nextMessageId) session [] := by
  cases transfer with
  | readFileChunk fileId length offset =>
    refine .map (.enter (.allocateMessageIds ?_))
    refine .withIds (Follows.exchangeResponse _ _ _ _) ?_ fun e => ⟨_, _, rfl⟩
    intro read _
    exact ⟨_, _, rfl, rfl⟩
  | readFileOnce path length offset =>
    refine .map (.enter (.allocateMessageIds ?_))
    refine .withIds (follows_fileReader _ _ _ _ _ _ _) ?_ fun e => ⟨_, _, rfl⟩
    intro result _
    exact ⟨_, _, rfl, rfl⟩
  | writeFileOnce path data offset =>
    refine .map (.enter (.get ?_))
    refine .withIds (follows_fileWriter _ _ _ _ _ _ _) ?_ fun e => ⟨_, _, rfl⟩
    intro result hused
    refine ⟨_, _, rfl, ?_⟩
    show session.nextMessageId + result.messagesUsed = _
    rw [hused, Transfer.next]
    split <;> rfl

/-! ## Charges and reservations -/

/-- The id after the READ of a chunk is the next method's. -/
theorem Transfer.reserved_chunk (fileId : FileId) (length : UInt32) (offset : UInt64) (m : ℕ) :
    (Transfer.readFileChunk fileId length offset).reserved m m =
      creditChargeForPayload length.toNat := by
  simp [reserved, plan, next]

/-- The id after the READ of a whole file is that of its CLOSE. -/
theorem Transfer.reserved_read (path : ByteVector) (length : UInt32) (offset : UInt64) (m : ℕ) :
    (Transfer.readFileOnce path length offset).reserved m (m + 1) = 1 := by
  simp [reserved, plan]

theorem Transfer.reserved_write (path : ByteVector) {data : ByteVector} (h : data ≠ [])
    (offset : UInt64) (m : ℕ) :
    (Transfer.writeFileOnce path data offset).reserved m (m + 1) = 1 := by
  simp [reserved, plan, h]

/-- A charge that is one id, computed in 16 bits. -/
theorem creditCharge_eq_one_iff {size : ℕ} (hmax : size < 2 ^ 32) :
    (creditCharge size).toNat = 1 ↔ size ≤ 65536 := by
  by_cases hroom : size ≤ kMaxChargedSize
  · rw [toNat_creditCharge hroom, creditChargeForPayload]
    split
    · omega
    · omega
  · have hzero : (creditCharge size).toNat = 0 := by
      rw [creditCharge_eq_zero (by omega) hmax]
      rfl
    rw [kMaxChargedSize] at hroom
    omega

/-- A chunk's charge is what is set aside for it as long as 16 bits hold it. -/
theorem creditCharge_eq_forPayload_iff {size : ℕ} (hmax : size < 2 ^ 32) :
    (creditCharge size).toNat = creditChargeForPayload size ↔ size ≤ kMaxChargedSize := by
  constructor
  · intro h
    by_contra hlt
    have hzero : (creditCharge size).toNat = 0 := by
      rw [creditCharge_eq_zero (by omega) hmax]
      rfl
    rw [hzero, creditChargeForPayload] at h
    split at h
    · exact absurd h (by decide)
    · omega
  · intro h
    exact toNat_creditCharge h

/-- The READ or WRITE of a plan is charged what is set aside for it exactly up to
    the limit of the transfer. -/
theorem Transfer.charge_eq_reserved_iff {transfer : Transfer} {m : ℕ} {slot : Slot}
    (hslot : slot ∈ transfer.plan m) (hkind : slot.command = .read ∨ slot.command = .write)
    (hmax : transfer.size < 2 ^ 32) :
    slot.creditCharge.toNat = transfer.reserved m slot.messageId ↔
      transfer.size ≤ transfer.reservedLimit := by
  have hcreate : ¬ (Command.create = .read ∨ Command.create = .write) := by decide
  have hclose : ¬ (Command.close = .read ∨ Command.close = .write) := by decide
  cases transfer with
  | readFileChunk fileId length offset =>
    obtain rfl := List.mem_singleton.1 hslot
    rw [reserved_chunk]
    exact creditCharge_eq_forPayload_iff hmax
  | readFileOnce path length offset =>
    simp only [plan, List.mem_cons, List.not_mem_nil, or_false] at hslot
    rcases hslot with rfl | rfl | rfl
    · exact absurd hkind hcreate
    · rw [reserved_read]
      exact creditCharge_eq_one_iff hmax
    · exact absurd hkind hclose
  | writeFileOnce path data offset =>
    by_cases hdata : data = []
    · simp only [plan, hdata, if_true, List.mem_cons, List.not_mem_nil, or_false] at hslot
      rcases hslot with rfl | rfl
      · exact absurd hkind hcreate
      · exact absurd hkind hclose
    · simp only [plan, hdata, if_false, List.mem_cons, List.not_mem_nil, or_false] at hslot
      rcases hslot with rfl | rfl | rfl
      · exact absurd hkind hcreate
      · rw [reserved_write path hdata]
        exact creditCharge_eq_one_iff hmax
      · exact absurd hkind hclose

/-- The run of a transfer over a transport that fails every request. -/
def Transfer.failed (transfer : Transfer) (session : Session) :
    List (Event Wire) × (Except Exn (DecodeResult Unit) × Session) :=
  let run := ((transfer.run {}).run.run session).serve playback ([], [])
  (run.1, run.2.1)

theorem Transfer.runs_failed (transfer : Transfer) (session : Session) :
    Program.Runs ((transfer.run {}).run.run session) (transfer.failed session).1
      ((transfer.failed session).2.1, (transfer.failed session).2.2) :=
  Program.runs_serve playback ((transfer.run {}).run.run session) ([], [])

end SmbBrowser.Native
