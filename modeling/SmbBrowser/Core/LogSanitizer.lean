import SmbBrowser.Base.Replacement
import SmbBrowser.Qt.QString

/-!
# Secrets in log messages

`LogSanitizer` (core/LogSanitizer.cpp) registers the values of secrets, and the first loop of
`sanitize` replaces the occurrences of each in a message by a mask, in the order in which they
were registered.  What becomes of a character of the message is followed by the position
that it carries.

Results:
* `map_replaceTracked`: characters with positions are replaced as those without are;
* `registered_eq`: the values that end up registered, whatever is passed in which order;
* `sanitizes_of_separate`: secrets that keep apart are masked whole, in any order.
-/

namespace SmbBrowser.Core

open SmbBrowser.Base SmbBrowser.Qt

/-! ## Model -/

/-- `LogSanitizer` (LogSanitizer.h:8). -/
structure LogSanitizer where
  secretValues : List QString := []

namespace LogSanitizer

/-- `LogSanitizer::Mask` (LogSanitizer.h:10). -/
def mask : QString := qStringLiteral "***"

/-- `LogSanitizer::addSecretValue` (LogSanitizer.cpp:21). -/
def addSecretValue (sanitizer : LogSanitizer) (secretValue : QString) : LogSanitizer :=
  if !secretValue.isEmpty && !sanitizer.secretValues.contains secretValue then
    { sanitizer with secretValues := sanitizer.secretValues ++ [secretValue] }
  else sanitizer

/-- The first loop of `LogSanitizer::sanitize` (LogSanitizer.cpp:30). -/
def replaceSecrets (sanitizer : LogSanitizer) (message : QString) : QString :=
  sanitizer.secretValues.foldl
    (fun sanitized secret =>
      if !secret.isEmpty then sanitized.replaceString secret mask else sanitized)
    message

/-- A sanitizer with which the values were registered one after the other. -/
def registered (values : List QString) : LogSanitizer := values.foldl addSecretValue {}

/-! ## Following the characters -/

/-- A character and its position in the message, if it comes from there. -/
abbrev TrackedChar := QChar × Option ℕ

/-- The characters of a message with their positions. -/
def track (message : QString) : List TrackedChar :=
  message.zipIdx.map fun (c, i) => (c, some i)

/-- The characters of the mask. -/
def trackedMask : List TrackedChar := mask.map fun c => (c, none)

/-- What `replaceSecrets` makes of a message, with the positions of what is left of it. -/
def replaceTracked (sanitizer : LogSanitizer) (message : QString) : List TrackedChar :=
  replaceEach Prod.fst trackedMask sanitizer.secretValues (track message)

/-- Position `i` of the message lies inside an occurrence of a secret. -/
def Covered (sanitizer : LogSanitizer) (message : QString) (i : ℕ) : Prop :=
  ∃ secret ∈ sanitizer.secretValues, ∃ p, secret <+: message.drop p ∧
    p ≤ i ∧ i < p + secret.length

/-- The values are masked as secrets: nothing of an occurrence is left, and it does not matter
    in which order they were registered. -/
structure Sanitizes (values : List QString) : Prop where
  absent : ∀ message i, (registered values).Covered message i →
    ∀ c, (c, some i) ∉ (registered values).replaceTracked message
  order_free : ∀ values', values'.Perm values → ∀ message,
    (registered values').replaceSecrets message = (registered values).replaceSecrets message

theorem mask_ne_nil : mask ≠ [] := by decide

theorem trackedMask_ne_nil : trackedMask ≠ [] := by decide

theorem map_trackedMask : trackedMask.map Prod.fst = mask := by decide

theorem map_track (message : QString) : (track message).map Prod.fst = message := by
  rw [track, List.map_map]
  exact List.zipIdx_map_fst 0 message

theorem getElem?_track {message : QString} {i j : ℕ} {c : QChar}
    (h : (track message)[i]? = some (c, some j)) : i = j := by
  rw [track, List.getElem?_map, Option.map_eq_some_iff] at h
  obtain ⟨⟨c', i'⟩, hget, heq⟩ := h
  rw [List.getElem?_zipIdx, Option.map_eq_some_iff] at hget
  obtain ⟨c'', -, hpair⟩ := hget
  injection heq with _ hsome
  injection hsome with hij
  injection hpair with _ hi
  omega

theorem mem_drop_track {message : QString} {i : ℕ} {c : QChar} (h : message[i]? = some c) :
    (c, some i) ∈ (track message).drop i := by
  refine List.mem_of_getElem? (i := 0) ?_
  rw [List.getElem?_drop, track, List.getElem?_map, Nat.add_zero, List.getElem?_zipIdx, h,
    Nat.zero_add]
  rfl

/-! ## The loop over the secrets -/

theorem replaceWord_eq_replaceFrom {word after s : QString} (hword : word ≠ []) {n : ℕ}
    (hn : s.length ≤ n) : replaceWord id after word s = QString.replaceFrom word after n s := by
  induction n generalizing s with
  | zero =>
    rw [List.length_eq_zero_iff.1 (Nat.le_zero.1 hn)]
    rfl
  | succ n ih =>
    cases s with
    | nil => rfl
    | cons c s =>
      rw [QString.replaceFrom]
      split
      · next hstarts =>
        have hpos := List.length_pos_iff.2 hword
        rw [List.isPrefixOf_iff_prefix] at hstarts
        rw [replaceWord_of_starts hword (by rwa [List.map_id])]
        rw [List.length_cons] at hn
        rw [ih (by rw [List.length_drop, List.length_cons]; omega)]
      · next hstarts =>
        rw [List.isPrefixOf_iff_prefix] at hstarts
        rw [replaceWord_of_not_starts (by rwa [List.map_id])]
        rw [List.length_cons] at hn
        rw [ih (by omega)]

theorem replaceSecrets_eq {sanitizer : LogSanitizer}
    (h : ∀ secret ∈ sanitizer.secretValues, secret ≠ []) (message : QString) :
    sanitizer.replaceSecrets message = replaceEach id mask sanitizer.secretValues message := by
  obtain ⟨secrets⟩ := sanitizer
  rw [replaceSecrets]
  induction secrets generalizing message with
  | nil => rfl
  | cons secret secrets ih =>
    obtain ⟨hsecret, hsecrets⟩ := List.forall_mem_cons.1 h
    have hstep : (if !secret.isEmpty then message.replaceString secret mask else message) =
        replaceWord id mask secret message := by
      rw [if_pos (by simpa using hsecret), QString.replaceString,
        replaceWord_eq_replaceFrom hsecret (le_refl _)]
    rw [List.foldl_cons, hstep]
    exact ih _ hsecrets

/-- Without the positions it is what the code makes of the message. -/
theorem map_replaceTracked {sanitizer : LogSanitizer}
    (h : ∀ secret ∈ sanitizer.secretValues, secret ≠ []) (message : QString) :
    (sanitizer.replaceTracked message).map Prod.fst = sanitizer.replaceSecrets message := by
  rw [replaceTracked, map_replaceEach, map_trackedMask, map_track, replaceSecrets_eq h]

/-! ## Registering -/

variable {values : List QString} {sanitizer : LogSanitizer} {value : QString}

theorem addSecretValue_of_new (hempty : value ≠ []) (hnew : value ∉ sanitizer.secretValues) :
    sanitizer.addSecretValue value = ⟨sanitizer.secretValues ++ [value]⟩ :=
  if_pos (by simp [hempty, hnew])

theorem addSecretValue_of_known (h : value = [] ∨ value ∈ sanitizer.secretValues) :
    sanitizer.addSecretValue value = sanitizer :=
  if_neg (by rcases h with h | h <;> simp [h])

theorem registered_append (values' : List QString) :
    registered (values ++ values') = values'.foldl addSecretValue (registered values) :=
  List.foldl_append

/-- Values that are empty or registered before change nothing. -/
theorem foldl_addSecretValue_of_known
    (h : ∀ value ∈ values, value = [] ∨ value ∈ sanitizer.secretValues) :
    values.foldl addSecretValue sanitizer = sanitizer := by
  induction values with
  | nil => rfl
  | cons value values ih =>
    obtain ⟨hvalue, hvalues⟩ := List.forall_mem_cons.1 h
    rw [List.foldl_cons, addSecretValue_of_known hvalue]
    exact ih hvalues

/-- Values that are not empty and all different are registered as they come. -/
theorem registered_of_nodup (hnodup : values.Nodup) (h : ∀ value ∈ values, value ≠ []) :
    registered values = ⟨values⟩ := by
  induction values using List.reverseRecOn with
  | nil => rfl
  | append_singleton values value ih =>
    have hparts := List.nodup_append.1 hnodup
    rw [registered_append, ih hparts.1 fun v hv => h v (List.mem_append_left _ hv),
      List.foldl_cons, List.foldl_nil]
    exact addSecretValue_of_new (h value (List.mem_append_right _ List.mem_cons_self))
      fun hin => hparts.2.2 value hin value List.mem_cons_self rfl

/-- The values are those registered and some that are empty or repeated. -/
theorem registered_split (values : List QString) :
    (registered values).secretValues.Nodup ∧
      (∀ secret ∈ (registered values).secretValues, secret ≠ []) ∧
      ∃ rest, values.Perm ((registered values).secretValues ++ rest) ∧
        ∀ value ∈ rest, value = [] ∨ value ∈ (registered values).secretValues := by
  induction values using List.reverseRecOn with
  | nil =>
    exact ⟨List.nodup_nil, fun _ h => absurd h List.not_mem_nil, [], List.Perm.refl _,
      fun _ h => absurd h List.not_mem_nil⟩
  | append_singleton values value ih =>
    obtain ⟨hnodup, hne, rest, hperm, hrest⟩ := ih
    rw [registered_append, List.foldl_cons, List.foldl_nil]
    by_cases hknown : value = [] ∨ value ∈ (registered values).secretValues
    · rw [addSecretValue_of_known hknown]
      refine ⟨hnodup, hne, rest ++ [value], ?_, ?_⟩
      · rw [← List.append_assoc]
        exact hperm.append_right _
      · intro v hv
        rcases List.mem_append.1 hv with hv | hv
        · exact hrest v hv
        · rw [List.mem_singleton.1 hv]
          exact hknown
    · rw [not_or] at hknown
      rw [addSecretValue_of_new hknown.1 hknown.2]
      refine ⟨?_, ?_, rest, ?_, ?_⟩
      · rw [List.nodup_append]
        refine ⟨hnodup, List.nodup_singleton _, fun a ha b hb hab => ?_⟩
        rw [← List.mem_singleton.1 hb, ← hab] at hknown
        exact hknown.2 ha
      · intro secret hsecret
        rcases List.mem_append.1 hsecret with hsecret | hsecret
        · exact hne secret hsecret
        · rw [List.mem_singleton.1 hsecret]
          exact hknown.1
      · refine (hperm.append_right _).trans ?_
        rw [List.append_assoc, List.append_assoc]
        exact List.perm_append_comm.append_left _
      · exact fun v hv => (hrest v hv).imp_right (List.mem_append_left _)

theorem registered_ne_nil {secret : QString} (h : secret ∈ (registered values).secretValues) :
    secret ≠ [] := (registered_split values).2.1 secret h

/-- A permutation of the values registers the same secrets, in some order. -/
theorem registered_perm {values' : List QString} (hperm : values'.Perm values) :
    (registered values').secretValues.Perm (registered values).secretValues := by
  obtain ⟨hnodup, hne, rest, hvalues, hrest⟩ := registered_split values
  obtain ⟨hnodup', hne', rest', hvalues', hrest'⟩ := registered_split values'
  rw [List.perm_ext_iff_of_nodup hnodup' hnodup]
  intro secret
  constructor
  · intro hsecret
    have hin := (hvalues.mem_iff.1 (hperm.mem_iff.1
      (hvalues'.mem_iff.2 (List.mem_append_left _ hsecret))))
    exact (List.mem_append.1 hin).elim id fun hin =>
      (hrest secret hin).resolve_left (hne' secret hsecret)
  · intro hsecret
    have hin := (hvalues'.mem_iff.1 (hperm.mem_iff.2
      (hvalues.mem_iff.2 (List.mem_append_left _ hsecret))))
    exact (List.mem_append.1 hin).elim id fun hin =>
      (hrest' secret hin).resolve_left (hne secret hsecret)

/-- Every order of the secrets comes from an order of the values. -/
theorem exists_registered {secrets : List QString}
    (hperm : secrets.Perm (registered values).secretValues) :
    ∃ values', values'.Perm values ∧ registered values' = ⟨secrets⟩ := by
  obtain ⟨hnodup, hne, rest, hvalues, hrest⟩ := registered_split values
  refine ⟨secrets ++ rest, (hperm.append_right _).trans hvalues.symm, ?_⟩
  rw [registered_append, registered_of_nodup (hperm.nodup_iff.2 hnodup) fun secret hsecret =>
    hne secret (hperm.mem_iff.1 hsecret)]
  exact foldl_addSecretValue_of_known fun value hvalue =>
    (hrest value hvalue).imp_right hperm.mem_iff.2

/-! ## Secrets that keep apart -/

/-- No two secrets overlap, and where there is more than one none overlaps the mask. -/
def KeepApart (secrets : List QString) : Prop :=
  Separate secrets ∧ (secrets.length ≤ 1 ∨ ∀ secret ∈ secrets, OverlapFree secret mask)

theorem sanitizes_of_keepApart (h : KeepApart (registered values).secretValues) :
    Sanitizes values where
  absent message i hcovered c hc := by
    obtain ⟨secret, hsecret, p, hstarts, hp, hi⟩ := hcovered
    rw [replaceTracked, replaceEach_eq trackedMask_ne_nil h.1 (fun _ => registered_ne_nil)
      (by rw [map_trackedMask]; exact h.2), ← List.drop_zero (l := track message)] at hc
    rcases uncovered_of_mem h.1 (fun _ => registered_ne_nil)
      (fun _ _ p hp => absurd hp (Nat.not_lt_zero p)) hc with hmask | ⟨j, hget, huncovered⟩
    · obtain ⟨_, -, heq⟩ := List.mem_map.1 hmask
      injection heq with _ hnone
      cases hnone
    · have hij := getElem?_track hget
      subst hij
      have hends := huncovered secret hsecret p hp (by rwa [map_track])
      omega
  order_free values' hperm message := by
    have hsecrets := registered_perm hperm
    have h' : KeepApart (registered values').secretValues :=
      ⟨h.1.subset hsecrets.subset, h.2.imp (hsecrets.length_eq.trans_le ·) fun hapart _ hin =>
        hapart _ (hsecrets.mem_iff.1 hin)⟩
    rw [replaceSecrets_eq (fun _ => registered_ne_nil),
      replaceSecrets_eq (fun _ => registered_ne_nil),
      replaceEach_eq mask_ne_nil h'.1 (fun _ => registered_ne_nil)
        (by rw [List.map_id]; exact h'.2),
      replaceEach_eq mask_ne_nil h.1 (fun _ => registered_ne_nil)
        (by rw [List.map_id]; exact h.2),
      replaceAny_perm h'.1 (fun _ => registered_ne_nil) hsecrets]

end LogSanitizer

end SmbBrowser.Core
