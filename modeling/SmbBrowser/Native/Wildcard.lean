import SmbBrowser.Base.Glob
import SmbBrowser.Native.Composite
import SmbBrowser.Native.Listing

/-!
# Wildcard delete

`wildcardMatches` compares letters before it looks for a star, so a star of the
pattern that meets a star of the name is read as this letter and is not
remembered.

Results:
* `wildcardLoop_iff`: what the loop decides from every state it reaches;
* `wildcardMatches_iff`: the names it selects, `NarrowGlob`;
* `deleteWildcard_deletes`: the entries a wildcard delete deletes.
-/

namespace SmbBrowser.Native.Session

open SmbBrowser.Base

/-! ## The matcher -/

theorem lowerAscii_eq_star {c : UInt8} (h : lowerAscii 0x2A = lowerAscii c) : c = 0x2A := by
  have hall : ∀ n : Fin 256, lowerAscii 0x2A = lowerAscii (UInt8.ofNat n) →
      UInt8.ofNat n = 0x2A := by decide +kernel
  have hc := hall ⟨c.toNat, c.toNat_lt⟩
  rw [UInt8.ofNat_toNat] at hc
  exact hc h

/-- The letters of a wildcard pattern: `*`, `?`, and the others up to their case. -/
def wildcardLetters : GlobLetters UInt8 where
  star := 0x2A
  one := 0x3F
  same p c := lowerAscii p = lowerAscii c
  one_ne_star := by decide
  same_star c := by
    constructor
    · exact lowerAscii_eq_star
    · rintro rfl
      rfl

instance (p c : UInt8) : Decidable (wildcardLetters.Reads p c) :=
  inferInstanceAs (Decidable (p = 0x3F ∨ lowerAscii p = lowerAscii c))

/-- The letters between the remembered star and the current position were read
    one by one. -/
def Remembers (pattern text : ByteVector) : Option (ByteVector × ByteVector) → Prop
  | none => True
  | some (afterStar, retryText) => ∃ w v, afterStar = w ++ pattern ∧ retryText = v ++ text ∧
      List.Forall₂ wildcardLetters.Reads w v

/-- The remembered star leads to a match further on. -/
def Retries : Option (ByteVector × ByteVector) → Prop
  | none => False
  | some (afterStar, retryText) =>
    ∃ s, s <:+ retryText.tail ∧ NarrowGlob wildcardLetters afterStar s

/-- How much of the text the remembered star may still skip. -/
def skippable (text : ByteVector) : Option (ByteVector × ByteVector) → ℕ
  | none => text.length
  | some (_, retryText) => retryText.length

/-- The loop from the next letter after the one the remembered star was tried at. -/
def retryLoop (fuel : ℕ) : Option (ByteVector × ByteVector) → Bool
  | none => false
  | some (afterStar, retryText) =>
    wildcardLoop fuel afterStar retryText.tail (some (afterStar, retryText.tail))

theorem wildcardLoop_nil (fuel : ℕ) (ch : UInt8) (text : ByteVector)
    (star : Option (ByteVector × ByteVector)) :
    wildcardLoop (fuel + 1) [] (ch :: text) star = retryLoop fuel star := by
  cases star <;> rfl

theorem wildcardLoop_cons (fuel : ℕ) (p ch : UInt8) (pattern text : ByteVector)
    (star : Option (ByteVector × ByteVector)) :
    wildcardLoop (fuel + 1) (p :: pattern) (ch :: text) star =
      if wildcardLetters.Reads p ch then wildcardLoop fuel pattern text star
      else if p = 0x2A then wildcardLoop fuel pattern (ch :: text) (some (pattern, ch :: text))
      else retryLoop fuel star := by
  cases star <;> rfl

theorem retries_suffix {pattern text : ByteVector} :
    NarrowGlob wildcardLetters pattern text ∨ Retries (some (pattern, text)) ↔
      ∃ s, s <:+ text ∧ NarrowGlob wildcardLetters pattern s := by
  constructor
  · rintro (hmatch | ⟨s, hs, hmatch⟩)
    · exact ⟨text, List.suffix_refl _, hmatch⟩
    · exact ⟨s, hs.trans (List.tail_suffix _), hmatch⟩
  · rintro ⟨s, hs, hmatch⟩
    cases text with
    | nil => exact .inr ⟨s, hs, hmatch⟩
    | cons d text =>
      obtain rfl | hs := List.suffix_cons_iff.1 hs
      · exact .inl hmatch
      · exact .inr ⟨s, hs, hmatch⟩

/-- What the retry of a state with fewer letters to skip decides. -/
theorem retries_iff {afterStar : ByteVector} {ch : UInt8} {retryText : ByteVector} {matched : Bool}
    (h : matched = true ↔ NarrowGlob wildcardLetters afterStar retryText ∨
      Retries (some (afterStar, retryText))) :
    matched = true ↔ Retries (some (afterStar, ch :: retryText)) := by
  rw [h, retries_suffix]
  rfl

theorem Remembers.suffix {pattern text q u : ByteVector}
    (h : Remembers pattern text (some (q, u))) : text <:+ u := by
  obtain ⟨w, v, -, rfl, -⟩ := h
  exact List.suffix_append v text

/-- A later match of the remembered star also matches from here on. -/
theorem Remembers.catch_up {pattern text : ByteVector} {star : Option (ByteVector × ByteVector)}
    (h : Remembers pattern text star) (hretries : Retries star) :
    ∃ s, s <:+ text ∧ NarrowGlob wildcardLetters pattern s := by
  cases star with
  | none => cases hretries
  | some state =>
    obtain ⟨w, v, hq, hu, hread⟩ := h
    obtain ⟨s, hs, hmatch⟩ := hretries
    rw [hu] at hs
    rw [hq] at hmatch
    exact NarrowGlob.catch_up hread (hs.trans (List.tail_suffix _)) hmatch

theorem Remembers.read {p c : UInt8} {pattern text : ByteVector}
    {star : Option (ByteVector × ByteVector)} (h : Remembers (p :: pattern) (c :: text) star)
    (hread : wildcardLetters.Reads p c) : Remembers pattern text star := by
  cases star with
  | none => trivial
  | some state =>
    obtain ⟨w, v, hq, hu, hall⟩ := h
    refine ⟨w ++ [p], v ++ [c], by rw [hq, List.append_assoc]; rfl,
      by rw [hu, List.append_assoc]; rfl, ?_⟩
    exact List.rel_append hall (.cons hread .nil)

/-- A letter is read the same way whether the pattern has a star there or not. -/
theorem narrowGlob_read {p c : UInt8} {pattern text : ByteVector}
    (hread : wildcardLetters.Reads p c) :
    NarrowGlob wildcardLetters (p :: pattern) (c :: text) ↔
      NarrowGlob wildcardLetters pattern text := by
  by_cases hstar : p = wildcardLetters.star
  · subst hstar
    obtain rfl : c = wildcardLetters.star := by
      obtain hone | hsame := hread
      · exact absurd hone.symm wildcardLetters.one_ne_star
      · exact (wildcardLetters.same_star c).1 hsame
    exact NarrowGlob.star_star_iff
  · rw [NarrowGlob, GlobMatches.letter_iff hstar]
    exact and_iff_right hread

/-- What the loop decides: a match from here, or one after the remembered star.
    Every retry skips one more letter of the text, and `turns` bounds the turns
    between two of them. -/
theorem wildcardLoop_iff {turns fuel : ℕ} {pattern text : ByteVector}
    {star : Option (ByteVector × ByteVector)} (hstar : Remembers pattern text star)
    (hturns : pattern.length + text.length ≤ turns)
    (hstarTurns : ∀ q u, star = some (q, u) → q.length + u.length ≤ turns)
    (hfuel : skippable text star * turns + pattern.length + text.length < fuel) :
    wildcardLoop fuel pattern text star = true ↔
      NarrowGlob wildcardLetters pattern text ∨ Retries star := by
  induction fuel generalizing pattern text star with
  | zero => omega
  | succ fuel ih =>
    cases text with
    | nil =>
      -- the end of the text: a later match would match here already
      show pattern.all (· == 0x2A) = true ↔ _
      have hall : pattern.all (· == 0x2A) = true ↔ NarrowGlob wildcardLetters pattern [] := by
        rw [NarrowGlob.nil_right_iff, List.all_eq_true]
        simp only [beq_iff_eq]
        rfl
      rw [hall]
      refine ⟨.inl, ?_⟩
      rintro (h | hretries)
      · exact h
      · obtain ⟨s, hs, h⟩ := hstar.catch_up hretries
        rwa [List.suffix_nil.1 hs] at h
    | cons ch text =>
      have hretry : retryLoop fuel star = true ↔ Retries star := by
        cases star with
        | none => simp [retryLoop, Retries]
        | some state =>
          obtain ⟨q, u⟩ := state
          have hlong := hstar.suffix.length_le
          have hq := hstarTurns q u rfl
          cases u with
          | nil => simp at hlong
          | cons d u =>
            simp only [List.length_cons, skippable, Nat.add_mul, Nat.one_mul] at hq hfuel
            refine retries_iff (ih ⟨[], [], rfl, rfl, .nil⟩ (by simp only [List.tail_cons]; omega)
              ?_ (by simp only [skippable, List.tail_cons]; omega))
            rintro q' u' ⟨⟩
            simp only [List.tail_cons]
            omega
      cases pattern with
      | nil =>
        rw [wildcardLoop_nil, hretry, NarrowGlob, GlobMatches.nil_left_iff]
        simp
      | cons p pattern =>
        simp only [List.length_cons] at hturns hfuel
        rw [wildcardLoop_cons]
        by_cases hread : wildcardLetters.Reads p ch
        · -- a letter: nothing is remembered, also where it is a star
          have hskip : skippable text star ≤ skippable (ch :: text) star := by
            cases star <;> simp [skippable]
          have hmul := Nat.mul_le_mul_right turns hskip
          rw [if_pos hread, narrowGlob_read hread]
          exact ih (hstar.read hread) (by omega) hstarTurns (by omega)
        by_cases hp : p = 0x2A
        · -- a new star takes the place of the remembered one
          subst hp
          have hskip : (ch :: text).length ≤ skippable (ch :: text) star := by
            cases star with
            | none => exact le_rfl
            | some state => exact hstar.suffix.length_le
          have hmul := Nat.mul_le_mul_right turns hskip
          have hhead : (ch :: text).head? ≠ some wildcardLetters.star := by
            intro hstarch
            cases hstarch
            exact hread (.inr rfl)
          have hnew : wildcardLoop fuel pattern (ch :: text) (some (pattern, ch :: text)) = true ↔
              NarrowGlob wildcardLetters pattern (ch :: text) ∨
                Retries (some (pattern, ch :: text)) := by
            refine ih ⟨[], [], rfl, rfl, .nil⟩ (by simp only [List.length_cons]; omega) ?_ ?_
            · rintro q u ⟨⟩
              simp only [List.length_cons]
              omega
            · have hlength : (ch :: text).length = text.length + 1 := rfl
              show (ch :: text).length * turns + pattern.length + (ch :: text).length < fuel
              omega
          have hnarrow : NarrowGlob wildcardLetters (0x2A :: pattern) (ch :: text) ↔
              ∃ s, s <:+ ch :: text ∧ NarrowGlob wildcardLetters pattern s :=
            NarrowGlob.star_iff_of_head hhead
          rw [if_neg hread, if_pos rfl, hnew, retries_suffix, hnarrow]
          refine ⟨.inl, ?_⟩
          rintro (h | hretries)
          · exact h
          · -- what the old star leads to, the new one takes as well
            obtain ⟨s, hs, h⟩ := hstar.catch_up hretries
            obtain ⟨taken, rest, rfl, -, h⟩ := GlobMatches.star_iff.1 h
            exact ⟨rest, (List.suffix_append taken rest).trans hs, h⟩
        · rw [if_neg hread, if_neg hp, hretry, NarrowGlob, GlobMatches.letter_iff hp]
          simp [hread]

/-- The turns the matcher needs at most. -/
def wildcardTurns (pattern name : ByteVector) : ℕ :=
  (name.length + 1) * (name.length + pattern.length + 2)

/-- The loop ends, and selects the names the pattern matches when a star at a star
    of the name takes just this letter. -/
theorem wildcardLoop_narrow {fuel : ℕ} {pattern name : ByteVector}
    (hfuel : wildcardTurns pattern name ≤ fuel) :
    wildcardLoop fuel pattern name none = true ↔ NarrowGlob wildcardLetters pattern name := by
  have hturns : name.length * (pattern.length + name.length) + pattern.length + name.length <
      wildcardTurns pattern name := by
    unfold wildcardTurns
    nlinarith
  have hstar : Remembers pattern name none := trivial
  have hloop := wildcardLoop_iff hstar le_rfl (fun q u h => by cases h)
    (lt_of_lt_of_le hturns hfuel)
  rw [hloop]
  exact or_iff_left id

/-- The names `wildcardMatches` selects. -/
theorem wildcardMatches_iff (pattern name : ByteVector) :
    wildcardMatches pattern name = true ↔ NarrowGlob wildcardLetters pattern name :=
  wildcardLoop_narrow le_rfl

/-! ## The delete -/

/-- One entry of the loop of `deleteWildcard` (NativeSmbSession.cpp:580). -/
def deleteEntry (fuel : ℕ) (parent : ByteVector) (context : OperationContext)
    (entry : NativeRemoteEntry) : SessionM (DecodeResult NativeObjectMutationResult) :=
  let child := joinRemotePath parent entry.name
  if entry.directory && ¬ entry.reparsePoint then deleteTreeInternal fuel context fuel child
  else deleteObject child entry.directory context

/-- The looks and the listing before the first delete (NativeSmbSession.cpp:557–569). -/
def wildcardListing (fuel : ℕ) (parentPath pattern : ByteVector) (context : OperationContext) :
    SessionM (DecodeResult (List NativeRemoteEntry)) := do
  if pattern = [] then
    return failure .invalidPath "SMB wildcard delete pattern is empty."
  if ← SessionM.cancelled context then
    return failure .cancelled "SMB wildcard delete was cancelled."
  match ← listDirectory fuel parentPath context with
  | .error e => return failureFrom e
  | .ok entries => return .ok entries

/-- The entries are deleted one after the other, until all are or one is not. -/
inductive Deletes (delete : NativeRemoteEntry → SessionM (DecodeResult NativeObjectMutationResult))
    (context : OperationContext) :
    List NativeRemoteEntry → Session → List (Event Wire) → Session → Bool → Prop where
  | nil (session : Session) : Deletes delete context [] session [] session true
  | cancelled {entry : NativeRemoteEntry} {entries : List NativeRemoteEntry}
      {session session' : Session} {looks : List (Event Wire)}
      (hlook : Program.Runs ((SessionM.cancelled context).run.run session) looks
        (.ok true, session')) :
      Deletes delete context (entry :: entries) session looks session' false
  | failed {entry : NativeRemoteEntry} {entries : List NativeRemoteEntry}
      {session session₁ session' : Session} {looks es : List (Event Wire)}
      {r : Except Exn (DecodeResult NativeObjectMutationResult)}
      (hlook : Program.Runs ((SessionM.cancelled context).run.run session) looks
        (.ok false, session₁))
      (hdelete : Program.Runs ((delete entry).run.run session₁) es (r, session'))
      (hr : ∀ result, r ≠ .ok (.ok result)) :
      Deletes delete context (entry :: entries) session (looks ++ es) session' false
  | deleted {entry : NativeRemoteEntry} {entries : List NativeRemoteEntry}
      {session session₁ session₂ session' : Session} {looks es rest : List (Event Wire)}
      {done : Bool} (result : NativeObjectMutationResult)
      (hlook : Program.Runs ((SessionM.cancelled context).run.run session) looks
        (.ok false, session₁))
      (hdelete : Program.Runs ((delete entry).run.run session₁) es (.ok (.ok result), session₂))
      (hrest : Deletes delete context entries session₂ rest session' done) :
      Deletes delete context (entry :: entries) session (looks ++ (es ++ rest)) session' done

/-- A look at the cancellation token throws nothing. -/
theorem not_throws_cancelled {context : OperationContext} {session session' : Session}
    {es : List (Event Wire)} {e : Exn} :
    ¬ Program.Runs ((SessionM.cancelled context).run.run session) es (.error e, session') := by
  have hlook : MeetsS .history (SessionM.cancelled context)
      (fun r _ _ => ∃ b, r = .ok b) session [] := by
    refine meetsS_ofProg.2 (tracked_isCancelled ?_ ?_)
    · exact ⟨false, rfl⟩
    · intro _
      exact ⟨true, rfl⟩
  intro hrun
  obtain ⟨b, hb⟩ := Meets.history hlook hrun
  cases hb

section

variable {fuel : ℕ} {parentPath pattern : ByteVector} {context : OperationContext}
  {session session' : Session} {es : List (Event Wire)}

/-- One turn of the loop, for an entry that is selected. -/
theorem deleteEntries_selected {select : NativeRemoteEntry → Bool} {text : String}
    {entry : NativeRemoteEntry} {entries : List NativeRemoteEntry}
    (hdot : isDotEntry entry.name = false) (hselect : select entry = true) :
    deleteEntries select text parentPath context (deleteTreeInternal fuel context fuel)
        (entry :: entries) =
      SessionM.cancelled context >>= fun b =>
        if b = true then pure (some (deleteCancelled text))
        else deleteEntry fuel parentPath context entry >>= fun result =>
          match result with
          | .error e => pure (some (.error e))
          | .ok _ => deleteEntries select text parentPath context
              (deleteTreeInternal fuel context fuel) entries := by
  rw [deleteEntries, if_neg (by simp [hselect, hdot])]
  congr 1
  funext b
  cases b with
  | true => rfl
  | false =>
    unfold deleteEntry
    dsimp only
    rw [if_neg Bool.false_ne_true, if_neg Bool.false_ne_true]
    split
    · rfl
    · rfl

/-- The loop deletes the selected entries, in the order of the listing. -/
theorem deletes_of_runs {select : NativeRemoteEntry → Bool} {text : String}
    {entries : List NativeRemoteEntry}
    {r : Except Exn (Option (DecodeResult NativeObjectMutationResult))}
    (hdots : ∀ entry ∈ entries, isDotEntry entry.name = false)
    (hrun : Program.Runs ((deleteEntries select text parentPath context
      (deleteTreeInternal fuel context fuel) entries).run.run session) es (r, session')) :
    ∃ done, Deletes (deleteEntry fuel parentPath context) context (entries.filter select) session es
      session' done ∧ (done = true ↔ r = .ok none) ∧
      ∀ result, r = .ok (some result) → ∀ a, result ≠ .ok a := by
  induction entries generalizing session es with
  | nil =>
    obtain ⟨rfl, hr⟩ := Program.runs_pure.1 hrun
    obtain ⟨rfl, rfl⟩ := Prod.mk.inj hr
    exact ⟨true, .nil _, by simp, by rintro result ⟨⟩⟩
  | cons entry entries ih =>
    have hdot := hdots entry List.mem_cons_self
    have hrest := fun e he => hdots e (List.mem_cons_of_mem entry he)
    by_cases hselect : select entry = true
    · rw [List.filter_cons_of_pos hselect]
      rw [deleteEntries_selected hdot hselect] at hrun
      obtain ⟨e, -, hlook⟩ | ⟨looks, b, session₁, es₁, rfl, hlook, hrun⟩ := runsS_bind.1 hrun
      · exact absurd hlook not_throws_cancelled
      cases b with
      | true =>
        obtain ⟨rfl, hr⟩ := Program.runs_pure.1 hrun
        obtain ⟨rfl, rfl⟩ := Prod.mk.inj hr
        rw [List.append_nil]
        refine ⟨false, .cancelled hlook, by simp, ?_⟩
        rintro result ⟨⟩ a ⟨⟩
      | false =>
        rw [if_neg Bool.false_ne_true] at hrun
        obtain ⟨e, rfl, hdelete⟩ | ⟨es₁, result, session₂, rest, rfl, hdelete, hrun⟩ :=
          runsS_bind.1 hrun
        · refine ⟨false, .failed hlook hdelete (by rintro a ⟨⟩), by simp, ?_⟩
          rintro result ⟨⟩
        cases result with
        | error e =>
          obtain ⟨rfl, hr⟩ := Program.runs_pure.1 hrun
          obtain ⟨rfl, rfl⟩ := Prod.mk.inj hr
          rw [List.append_nil]
          refine ⟨false, .failed hlook hdelete (by rintro a ⟨⟩), by simp, ?_⟩
          rintro result ⟨⟩ a ⟨⟩
        | ok result =>
          obtain ⟨done, hdeletes, hdone, hstop⟩ := ih hrest hrun
          exact ⟨done, .deleted result hlook hdelete hdeletes, hdone, hstop⟩
    · rw [List.filter_cons_of_neg hselect]
      rw [deleteEntries, if_pos (by simp [hselect])] at hrun
      exact ih hrest hrun

theorem runs_listDirectory_dots {entries : List NativeRemoteEntry}
    (hrun : Program.Runs ((listDirectory fuel parentPath context).run.run session) es
      (.ok (.ok entries), session')) : ∀ entry ∈ entries, isDotEntry entry.name = false := by
  obtain ⟨pages, -, rfl, -⟩ := (establishes_listDirectory session context fuel parentPath).run hrun
  intro entry hentry
  obtain ⟨listed, hlisted, rfl⟩ := List.mem_map.1 hentry
  have hdot := (List.mem_filter.1 hlisted).2
  show isDotEntry listed.name = false
  simpa using hdot

/-- What `wildcardListing` lists has no dot entries. -/
theorem runs_wildcardListing_dots {entries : List NativeRemoteEntry}
    (hrun : Program.Runs ((wildcardListing fuel parentPath pattern context).run.run session) es
      (.ok (.ok entries), session')) : ∀ entry ∈ entries, isDotEntry entry.name = false := by
  unfold wildcardListing at hrun
  by_cases hpattern : pattern = []
  · rw [if_pos hpattern] at hrun
    obtain ⟨-, hr⟩ := Program.runs_pure.1 hrun
    cases hr
  rw [if_neg hpattern] at hrun
  obtain ⟨e, he, -⟩ | ⟨looks, b, session₁, es₁, rfl, -, hrun⟩ := runsS_bind.1 hrun
  · cases he
  cases b with
  | true =>
    obtain ⟨-, hr⟩ := Program.runs_pure.1 hrun
    cases hr
  | false =>
    obtain ⟨e, he, -⟩ | ⟨es₂, listed, session₂, rest, rfl, hlisting, hrun⟩ := runsS_bind.1 hrun
    · cases he
    cases listed with
    | error e =>
      obtain ⟨-, hr⟩ := Program.runs_pure.1 hrun
      cases hr
    | ok listed =>
      obtain ⟨-, hr⟩ := Program.runs_pure.1 hrun
      cases hr
      exact runs_listDirectory_dots hlisting

/-- A wildcard delete lists the directory, and then deletes the selected entries. -/
theorem deleteWildcard_eq : deleteWildcard fuel parentPath pattern context =
    wildcardListing fuel parentPath pattern context >>= fun listed =>
      match listed with
      | .error e => pure (.error e)
      | .ok entries =>
        deleteEntries (fun entry => wildcardMatches pattern entry.name)
            "SMB wildcard delete was cancelled." parentPath context
            (deleteTreeInternal fuel context fuel) entries >>= fun stopped =>
          match stopped with
          | some result => pure result
          | none => pure (.ok { path := joinRemotePath parentPath pattern }) := by
  unfold deleteWildcard wildcardListing
  by_cases hpattern : pattern = []
  · rw [if_pos hpattern, if_pos hpattern]
    rfl
  rw [if_neg hpattern, if_neg hpattern, bind_assoc]
  congr 1
  funext b
  cases b with
  | true => rfl
  | false =>
    rw [if_neg Bool.false_ne_true, if_neg Bool.false_ne_true, bind_assoc]
    congr 1
    funext listed
    cases listed with
    | error e => rfl
    | ok entries =>
      refine Eq.trans ?_ (pure_bind _ _).symm
      rfl

/-- Every run of a wildcard delete lists the directory, and deletes nothing or the
    selected entries in order. -/
theorem deleteWildcard_deletes {r : Except Exn (DecodeResult NativeObjectMutationResult)}
    (hrun : Program.Runs ((deleteWildcard fuel parentPath pattern context).run.run session) es
      (r, session')) :
    ∃ es₁ listed session₁ es₂, es = es₁ ++ es₂ ∧
      Program.Runs ((wildcardListing fuel parentPath pattern context).run.run session) es₁
        (listed, session₁) ∧
      ((∀ entries, listed ≠ .ok (.ok entries)) ∧ es₂ = [] ∧ (∀ a, r ≠ .ok (.ok a)) ∨
        ∃ entries done, listed = .ok (.ok entries) ∧
          Deletes (deleteEntry fuel parentPath context) context
            (entries.filter fun entry => wildcardMatches pattern entry.name) session₁ es₂ session'
            done ∧
          (done = true ↔ ∃ a, r = .ok (.ok a))) := by
  rw [deleteWildcard_eq] at hrun
  obtain ⟨e, rfl, hlisting⟩ | ⟨es₁, listed, session₁, es₂, rfl, hlisting, hrun⟩ :=
    runsS_bind.1 hrun
  · refine ⟨es, .error e, session', [], (List.append_nil es).symm, hlisting, .inl ⟨?_, rfl, ?_⟩⟩
    · rintro entries ⟨⟩
    · rintro a ⟨⟩
  cases listed with
  | error e =>
    obtain ⟨rfl, hr⟩ := Program.runs_pure.1 hrun
    obtain ⟨rfl, rfl⟩ := Prod.mk.inj hr
    refine ⟨es₁, _, _, [], rfl, hlisting, .inl ⟨?_, rfl, ?_⟩⟩
    · rintro entries ⟨⟩
    · rintro a ⟨⟩
  | ok entries =>
    refine ⟨es₁, _, _, es₂, rfl, hlisting, .inr ⟨entries, ?_⟩⟩
    have hdots := runs_wildcardListing_dots hlisting
    obtain ⟨e, rfl, hloop⟩ | ⟨es₃, stopped, session₂, rest, rfl, hloop, hrun⟩ :=
      runsS_bind.1 hrun
    · obtain ⟨done, hdeletes, hdone, -⟩ := deletes_of_runs hdots hloop
      refine ⟨done, rfl, hdeletes, ?_⟩
      rw [hdone]
      simp
    obtain ⟨done, hdeletes, hdone, hstop⟩ := deletes_of_runs hdots hloop
    cases stopped with
    | none =>
      obtain ⟨rfl, hr⟩ := Program.runs_pure.1 hrun
      obtain ⟨rfl, rfl⟩ := Prod.mk.inj hr
      rw [List.append_nil]
      refine ⟨done, rfl, hdeletes, ?_⟩
      rw [hdone]
      exact iff_of_true rfl ⟨_, rfl⟩
    | some result =>
      obtain ⟨rfl, hr⟩ := Program.runs_pure.1 hrun
      obtain ⟨rfl, rfl⟩ := Prod.mk.inj hr
      rw [List.append_nil]
      refine ⟨done, rfl, hdeletes, ?_⟩
      rw [hdone]
      refine iff_of_false (by simp) ?_
      rintro ⟨a, ha⟩
      exact hstop result rfl a (Except.ok.inj ha)

end

/-! ## Results -/

/-- The pattern matches the name in no way, or in one where every star that stands
    at a star of the name takes just this letter. -/
def StarsMeetPlainly (pattern name : ByteVector) : Prop :=
  Glob wildcardLetters pattern name → NarrowGlob wildcardLetters pattern name

/-- The matcher is right about a name if and only if stars meet plainly. -/
theorem wildcardMatches_glob_iff (pattern name : ByteVector) :
    (wildcardMatches pattern name = true ↔ Glob wildcardLetters pattern name) ↔
      StarsMeetPlainly pattern name := by
  rw [wildcardMatches_iff]
  constructor
  · intro h
    exact h.2
  · intro h
    exact ⟨NarrowGlob.glob, h⟩

/-- In particular about every name without a star. -/
theorem starsMeetPlainly_of_not_mem {name : ByteVector} (h : 0x2A ∉ name) (pattern : ByteVector) :
    StarsMeetPlainly pattern name :=
  NarrowGlob.of_star_not_mem h

/-- What is chosen from a listing is what the pattern matches if and only if stars
    meet plainly in every name. -/
theorem chosen_iff (pattern : ByteVector) (entries : List NativeRemoteEntry) :
    (∀ entry ∈ entries, entry ∈ entries.filter (fun entry => wildcardMatches pattern entry.name) ↔
        Glob wildcardLetters pattern entry.name) ↔
      ∀ entry ∈ entries, StarsMeetPlainly pattern entry.name := by
  constructor
  · intro h entry hentry
    rw [← wildcardMatches_glob_iff, ← h entry hentry, List.mem_filter]
    exact (and_iff_right hentry).symm
  · intro h entry hentry
    rw [← (wildcardMatches_glob_iff pattern entry.name).2 (h entry hentry), List.mem_filter]
    exact and_iff_right hentry

/-- `wildcardMatches` ends for every pattern and name and agrees with the usual
    meaning of patterns exactly where stars meet plainly; a wildcard delete deletes
    the names it selects from the listing, in order and all of them when it
    succeeds, so exactly the matching ones where stars meet plainly. -/
theorem wildcard_glob_iff (pattern : ByteVector) :
    (∀ name, (∀ fuel, wildcardTurns pattern name ≤ fuel →
        wildcardLoop fuel pattern name none = wildcardMatches pattern name) ∧
      ((wildcardMatches pattern name = true ↔ Glob wildcardLetters pattern name) ↔
        StarsMeetPlainly pattern name)) ∧
    ∀ (fuel : ℕ) (parentPath : ByteVector) (context : OperationContext) (session session' : Session)
      (es : List (Event Wire)) (r : Except Exn (DecodeResult NativeObjectMutationResult)),
      Program.Runs ((deleteWildcard fuel parentPath pattern context).run.run session) es
        (r, session') →
      ∃ es₁ listed session₁ es₂, es = es₁ ++ es₂ ∧
        Program.Runs ((wildcardListing fuel parentPath pattern context).run.run session) es₁
          (listed, session₁) ∧
        ((∀ entries, listed ≠ .ok (.ok entries)) ∧ es₂ = [] ∧ (∀ a, r ≠ .ok (.ok a)) ∨
          ∃ entries chosen done, listed = .ok (.ok entries) ∧
            chosen = entries.filter (fun entry => wildcardMatches pattern entry.name) ∧
            Deletes (deleteEntry fuel parentPath context) context chosen session₁ es₂ session'
              done ∧
            (done = true ↔ ∃ a, r = .ok (.ok a)) ∧
            ((∀ entry ∈ entries, entry ∈ chosen ↔ Glob wildcardLetters pattern entry.name) ↔
              ∀ entry ∈ entries, StarsMeetPlainly pattern entry.name)) := by
  refine ⟨?_, ?_⟩
  · intro name
    refine ⟨?_, wildcardMatches_glob_iff pattern name⟩
    intro fuel hfuel
    rw [Bool.eq_iff_iff, wildcardLoop_narrow hfuel, wildcardMatches_iff]
  · intro fuel parentPath context session session' es r hrun
    obtain ⟨es₁, listed, session₁, es₂, hes, hlisting, hnothing | ⟨entries, done, hlisted, hdeletes,
      hdone⟩⟩ := deleteWildcard_deletes hrun
    · exact ⟨es₁, listed, session₁, es₂, hes, hlisting, .inl hnothing⟩
    · exact ⟨es₁, listed, session₁, es₂, hes, hlisting, .inr ⟨entries, _, done, hlisted, rfl,
        hdeletes, hdone, chosen_iff pattern entries⟩⟩

/-- A wildcard delete against the server. -/
def wildcardRun (pattern : ByteVector) (pages : List ByteVector) :
    List (Event Wire) × (Except Exn (DecodeResult NativeObjectMutationResult) × Session) ×
      List ByteVector :=
  ((deleteWildcard 2 (ascii "docs") pattern {}).run.run (.new 1 1 1)).serve pagedServer pages

theorem runs_wildcardRun (pattern : ByteVector) (pages : List ByteVector) :
    Program.Runs ((deleteWildcard 2 (ascii "docs") pattern {}).run.run (.new 1 1 1))
      (wildcardRun pattern pages).1 ((wildcardRun pattern pages).2.1.1,
        (wildcardRun pattern pages).2.1.2) := by
  unfold wildcardRun
  generalize (deleteWildcard 2 (ascii "docs") pattern {}).run.run (.new 1 1 1) = p
  exact Program.runs_serve pagedServer p pages

/-- The pattern `*` on a directory with the file `a`: the delete succeeds, with what
    was listed and chosen as in every run. -/
theorem wildcard_glob_iff_letter :
    (wildcardRun (ascii "*") [listingMessage 0 [0x61, 0]]).2.1.1 =
        .ok (.ok { path := joinRemotePath (ascii "docs") (ascii "*") }) ∧
      ∃ es₁ listed session₁ es₂,
        (wildcardRun (ascii "*") [listingMessage 0 [0x61, 0]]).1 = es₁ ++ es₂ ∧
        Program.Runs ((wildcardListing 2 (ascii "docs") (ascii "*") {}).run.run (.new 1 1 1)) es₁
          (listed, session₁) ∧ ∃ entries, listed = .ok (.ok entries) := by
  have hend : (wildcardRun (ascii "*") [listingMessage 0 [0x61, 0]]).2.1.1 =
      .ok (.ok { path := joinRemotePath (ascii "docs") (ascii "*") }) := by
    decide +kernel
  refine ⟨hend, ?_⟩
  obtain ⟨es₁, listed, session₁, es₂, hes, hlisting, ⟨-, -, hnone⟩ | ⟨entries, chosen, done, hlisted,
    -⟩⟩ := (wildcard_glob_iff (ascii "*")).2 _ _ _ _ _ _ _ (runs_wildcardRun (ascii "*")
      [listingMessage 0 [0x61, 0]])
  · exact absurd hend (hnone _)
  · exact ⟨es₁, listed, session₁, es₂, hes, hlisting, entries, hlisted⟩

/-- The pattern `*` does not select the name `*a`. -/
theorem wildcardMatches_misses_star :
    ¬ (wildcardMatches (ascii "*") (ascii "*a") = true ↔
      Glob wildcardLetters (ascii "*") (ascii "*a")) := by
  have hglob : Glob wildcardLetters (ascii "*") (ascii "*a") := .star (ascii "*a") [] trivial .nil
  have hmisses : wildcardMatches (ascii "*") (ascii "*a") = false := by decide
  intro h
  rw [← h, hmisses] at hglob
  cases hglob

end SmbBrowser.Native.Session
