import SmbBrowser.Dfs.PathSegments
import SmbBrowser.Dfs.Resolver

/-!
# The consumed prefix of a path

`resolvePathTargets` takes the prefix of the requested path that the server says a
referral covers.  The server says it in bytes of the path it was asked for.

Results:
* `wholeNames_normalizeRemotePath`: when a normalised part of a path ends with a name of it;
* `consumedOriginalPrefix_eq`: what is kept of the path asked for;
* `originalPathPrefix_wholeNames_iff`: when a returned prefix ends with a name of the path.
-/

namespace SmbBrowser.Dfs

open SmbBrowser.Base SmbBrowser.Qt

/-! ## Whole names -/

/-- The text is the path, or the part of it before one of its slashes, or `/`. -/
def WholeNames (start path : QString) : Prop :=
  start = root ∨ start = path ∨ start ++ [slash] <+: path

/-- Without the white space at its end the part of the path is empty, all of the path, or
    ends before or behind a slash. -/
def EndsWithName (path part : QString) : Prop :=
  let n := (part.rdropWhile QChar.isSpace).length
  n = 0 ∨ n = path.length ∨ path[n]? = some slash ∨ path[n - 1]? = some slash

instance (start path : QString) : Decidable (WholeNames start path) :=
  inferInstanceAs (Decidable (_ ∨ _ ∨ _))

instance (path part : QString) : Decidable (EndsWithName path part) :=
  inferInstanceAs (Decidable (_ ∨ _ ∨ _ ∨ _))

section

variable {path part t : QString} {l : List QString}

/-- Starts with a slash, and has neither backslashes nor double slashes. -/
structure Normal (path : QString) : Prop where
  start : ∀ c ∈ path.head?, c = slash
  backslash : backslash ∉ path
  double : hasDouble path = false

theorem Normal.starts (h : Normal path) (hpart : part <+: path) : Normal part where
  start := by
    intro c hc
    refine h.start c ?_
    obtain ⟨rest, rfl⟩ := hpart
    cases part with
    | nil => cases hc
    | cons d part => exact hc
  backslash hmem := h.backslash (hpart.subset hmem)
  double := not_hasDouble_of_within hpart.isInfix h.double

theorem normal_root : Normal root where
  start := by
    intro c hc
    exact (Option.some.inj hc).symm
  backslash := by decide
  double := by decide

theorem normal_render (hl : Names l) : Normal (render l) := by
  by_cases hne : l = []
  · rw [hne]
    exact normal_root
  · rw [render_of_ne hne]
    refine ⟨head_below l, backslash_not_mem_below hl, ?_⟩
    rw [← List.append_nil (below l), hasDouble_below hl]
    rfl

/-- White space at the end of a part that starts with a slash. -/
theorem trimmed_of_normal (h : Normal part) : part.trimmed = part.rdropWhile QChar.isSpace := by
  cases part with
  | nil => rfl
  | cons c part =>
    obtain rfl := h.start c rfl
    rw [QString.trimmed, List.dropWhile_cons_of_neg (by rw [isSpace_slash]; decide)]

/-- A part of a path is normalised by trimming its end and dropping a last slash. -/
theorem normalizeRemotePath_part (h : Normal part) :
    normalizeRemotePath part =
      if part.rdropWhile QChar.isSpace = [] then root
      else chopSlashes (part.rdropWhile QChar.isSpace).length (part.rdropWhile QChar.isSpace) := by
  have ht := h.starts (List.rdropWhile_prefix QChar.isSpace part)
  have htrimmed := trimmed_of_normal h
  generalize part.rdropWhile QChar.isSpace = t at ht htrimmed ⊢
  cases t with
  | nil =>
    rw [normalizeRemotePath, htrimmed]
    decide
  | cons c t =>
    obtain rfl := ht.start c rfl
    rw [if_neg (List.cons_ne_nil _ _)]
    exact normalizeRemotePath_of htrimmed ht.backslash ht.double

/-- A path without double slashes loses one slash at its end. -/
theorem chopSlashes_append_slash (h : hasDouble (t ++ [slash]) = false) (hne : t ≠ []) {n : ℕ}
    (hn : 0 < n) : chopSlashes n (t ++ [slash]) = t := by
  obtain ⟨n, rfl⟩ := Nat.exists_eq_add_one_of_ne_zero hn.ne'
  obtain ⟨t, c, rfl⟩ := (List.eq_nil_or_concat t).resolve_left hne
  rw [List.concat_eq_append] at h ⊢
  have hc : c ≠ slash := by
    rintro rfl
    have htwice : hasDouble [slash, slash] = false :=
      not_hasDouble_of_within ⟨t, [], by simp⟩ h
    exact absurd htwice (by decide)
  rw [chopSlashes, if_pos ⟨by simp, by simp [QString.endsWithChar]⟩, List.dropLast_concat,
    chopSlashes_of_not]
  rw [List.getLast?_concat, Ne, Option.some.injEq]
  exact hc

/-- **A normalised part of a path** ends with a name of the path exactly when the part does,
    apart from the white space at its end. -/
theorem wholeNames_normalizeRemotePath (hpath : Normal path) (hpart : part <+: path) :
    WholeNames (normalizeRemotePath part) path ↔ EndsWithName path part := by
  rw [normalizeRemotePath_part (hpath.starts hpart), EndsWithName]
  have ht := (List.rdropWhile_prefix QChar.isSpace part).trans hpart
  generalize part.rdropWhile QChar.isSpace = t at ht ⊢
  have htnormal := hpath.starts ht
  obtain ⟨rest, rfl⟩ := ht
  by_cases hnil : t = []
  · rw [if_pos hnil, hnil]
    exact iff_of_true (.inl rfl) (.inl rfl)
  rw [if_neg hnil]
  have hpos : 0 < t.length := List.length_pos_iff.2 hnil
  have hlast : (t ++ rest)[t.length - 1]? = t.getLast? := by
    rw [List.getElem?_append_left (by omega), List.getLast?_eq_getElem?]
  by_cases hslash : t.getLast? = some slash
  · refine iff_of_true ?_ (.inr (.inr (.inr (hlast.trans hslash))))
    obtain ⟨t, rfl⟩ := List.getLast?_eq_some_iff.1 hslash
    by_cases hroot : t = []
    · rw [hroot]
      exact .inl rfl
    · rw [chopSlashes_append_slash htnormal.double hroot hpos]
      exact .inr (.inr (List.prefix_append _ _))
  · rw [chopSlashes_of_not hslash, hlast]
    have hroot : t ≠ root := by
      rintro rfl
      exact hslash rfl
    have hall : t = t ++ rest ↔ t.length = (t ++ rest).length := by
      rw [List.self_eq_append_right, List.length_append, ← List.length_eq_zero_iff]
      omega
    have hnext : t ++ [slash] <+: t ++ rest ↔ (t ++ rest)[t.length]? = some slash := by
      rw [List.prefix_append_right_inj, List.getElem?_append_right le_rfl, Nat.sub_self]
      cases rest with
      | nil => simp
      | cons c rest => simp [List.cons_prefix_cons, eq_comm]
    unfold WholeNames
    rw [hall, hnext]
    constructor
    · rintro (h | h | h)
      · exact absurd h hroot
      · exact .inr (.inl h)
      · exact .inr (.inr (.inl h))
    · rintro (h | h | h | h)
      · exact absurd h hpos.ne'
      · exact .inr (.inl h)
      · exact .inr (.inr h)
      · exact absurd h hslash

end

/-! ## What is kept of a path -/

/-- Case tables that compare character by character: a text is the same as itself, and
    slashes, which have no case, are the same as slashes alone. -/
structure ComparesCharacters (tables : CaseTables) : Prop where
  refl : ∀ s, tables.sameIgnoringCase s s = true
  slashes : ∀ s t, tables.sameIgnoringCase s t = true →
    s.map (fun c => decide (c = slash)) = t.map fun c => decide (c = slash)

/-- The path of a request below the share. -/
def belowShare (path : QString) : QString :=
  if normalizeRemotePath path = root then [] else normalizeRemotePath path

/-- What the server keeps of a prefix it was asked for: all of it where it states nothing
    behind the share, or the share cannot be found again in the path asked for. -/
def keptPath (shareRoot start : QString) (pathConsumedBytes : UInt16) : QString :=
  if pathConsumedBytes = 0 ∨ pathConsumedBytes.toNat / 2 < shareRoot.length ∨ slash ∈ shareRoot then
    start
  else
    (belowShare start).take (pathConsumedBytes.toNat / 2 - shareRoot.length)

section

variable {tables : CaseTables} {connection : Core.Connection} {server start base s t : QString}

theorem ComparesCharacters.length_eq (h : ComparesCharacters tables)
    (hsame : tables.sameIgnoringCase s t = true) : s.length = t.length := by
  have hmap := congrArg List.length (h.slashes s t hsame)
  rwa [List.length_map, List.length_map] at hmap

theorem ComparesCharacters.slash_mem (h : ComparesCharacters tables)
    (hsame : tables.sameIgnoringCase s t = true) (hmem : slash ∈ t) : slash ∈ s := by
  have htrue : true ∈ t.map fun c => decide (c = slash) :=
    List.mem_map.2 ⟨slash, hmem, decide_eq_true rfl⟩
  rw [← h.slashes s t hsame] at htrue
  obtain ⟨c, hc, heq⟩ := List.mem_map.1 htrue
  rwa [of_decide_eq_true heq] at hc

theorem slash_not_mem_replaceChar : slash ∉ QString.replaceChar slash backslash s := by
  rw [QString.replaceChar, List.mem_map]
  rintro ⟨c, -, hc⟩
  split at hc
  · exact slash_ne_backslash hc.symm
  · contradiction

theorem replaceChar_self (h : slash ∉ s) : QString.replaceChar slash backslash s = s := by
  rw [QString.replaceChar]
  conv_rhs => rw [← List.map_id s]
  refine List.map_congr_left fun c hc => if_neg ?_
  rintro rfl
  exact h hc

/-- Backslashes back to slashes, in a path without backslashes. -/
theorem replaceChar_back (h : backslash ∉ s) :
    QString.replaceChar backslash slash (QString.replaceChar slash backslash s) = s := by
  rw [QString.replaceChar, QString.replaceChar, List.map_map]
  conv_rhs => rw [← List.map_id s]
  refine List.map_congr_left fun c hc => ?_
  show (if (if c = slash then backslash else c) = backslash then slash
    else if c = slash then backslash else c) = c
  by_cases hslash : c = slash
  · rw [if_pos hslash, if_pos rfl, hslash]
  · rw [if_neg hslash, if_neg]
    rintro rfl
    exact h hc

theorem backslash_not_mem_normalizeRemotePath (path : QString) :
    backslash ∉ normalizeRemotePath path := by
  obtain ⟨l, hl, hpath⟩ := exists_names path
  rw [hpath]
  exact (normal_render hl).backslash

theorem requestUncPath_eq (connection : Core.Connection) (server start : QString) :
    requestUncPath connection server start =
      shareRoot server connection.share ++ (belowShare start).replaceChar slash backslash := by
  have hroot : QString.replaceChar slash backslash (normalizeRemotePath start) = [backslash] ↔
      normalizeRemotePath start = root := by
    constructor
    · intro h
      have hback := congrArg (QString.replaceChar backslash slash) h
      rwa [replaceChar_back (backslash_not_mem_normalizeRemotePath start)] at hback
    · intro h
      rw [h]
      rfl
  rw [requestUncPath, belowShare]
  by_cases h : normalizeRemotePath start = root
  · rw [if_pos (hroot.2 h), if_pos h]
    rfl
  · rw [if_neg (fun h' => h (hroot.1 h')), if_neg h]

theorem normal_belowShare (path : QString) : Normal (belowShare path) := by
  rw [belowShare]
  split
  · refine ⟨?_, List.not_mem_nil, rfl⟩
    rintro c ⟨⟩
  · obtain ⟨l, hl, hpath⟩ := exists_names path
    rw [hpath]
    exact normal_render hl

/-- The path the server consumed, from the share on. -/
theorem replaceChar_take {k : ℕ} (hmem : slash ∉ base) (hlong : base.length ≤ k) :
    QString.replaceChar slash backslash ((base ++ s.replaceChar slash backslash).take k) =
      base ++ QString.replaceChar slash backslash (s.take (k - base.length)) := by
  have hself : QString.replaceChar slash backslash (base ++ s.replaceChar slash backslash) =
      base ++ s.replaceChar slash backslash := by
    refine replaceChar_self fun h => ?_
    rcases List.mem_append.1 h with h | h
    · exact hmem h
    · exact slash_not_mem_replaceChar h
  calc QString.replaceChar slash backslash ((base ++ s.replaceChar slash backslash).take k)
      = (QString.replaceChar slash backslash (base ++ s.replaceChar slash backslash)).take k :=
        List.map_take
    _ = (base ++ s.replaceChar slash backslash).take k := by rw [hself]
    _ = base ++ (s.replaceChar slash backslash).take (k - base.length) := by
      rw [List.take_append, List.take_of_length_le hlong]
    _ = base ++ QString.replaceChar slash backslash (s.take (k - base.length)) := by
      rw [QString.replaceChar, QString.replaceChar, List.map_take]

/-- What is kept is normalised. -/
theorem consumedOriginalPrefix_eq (h : ComparesCharacters tables) (pathConsumedBytes : UInt16) :
    consumedOriginalPrefix tables (requestUncPath connection server start) server connection.share
      pathConsumedBytes start =
        normalizeRemotePath (keptPath (shareRoot server connection.share) start
          pathConsumedBytes) := by
  unfold consumedOriginalPrefix keptPath
  by_cases hzero : pathConsumedBytes = 0
  · rw [if_pos hzero, if_pos (.inl hzero)]
  rw [if_neg hzero, requestUncPath_eq]
  dsimp only
  rw [← List.take_eq_take_min]
  generalize shareRoot server connection.share = base
  generalize pathConsumedBytes.toNat / 2 = k
  by_cases hshort : k < base.length
  · -- Too short to be compared with the share.
    have hlen : (QString.replaceChar slash backslash
        ((base ++ (belowShare start).replaceChar slash backslash).take k)).length ≤ k := by
      rw [QString.replaceChar, List.length_map]
      exact List.length_take_le k _
    have hkept : pathConsumedBytes = 0 ∨ k < base.length ∨ slash ∈ base := .inr (.inl hshort)
    rw [if_pos hkept, if_neg, if_neg]
    · intro hstart
      have := (of_decide_eq_true hstart).1
      rw [List.length_append] at this
      omega
    · intro hsame
      have := h.length_eq hsame
      omega
  by_cases hmem : slash ∈ base
  · -- The slashes of the share are not found again.
    have hkept : pathConsumedBytes = 0 ∨ k < base.length ∨ slash ∈ base := .inr (.inr hmem)
    rw [if_pos hkept, if_neg, if_neg]
    · intro hstart
      have htake := h.slash_mem (of_decide_eq_true hstart).2 (List.mem_append_left _ hmem)
      exact slash_not_mem_replaceChar (List.mem_of_mem_take htake)
    · intro hsame
      exact slash_not_mem_replaceChar (h.slash_mem hsame hmem)
  have hcut : ¬ (pathConsumedBytes = 0 ∨ k < base.length ∨ slash ∈ base) := by
    rw [not_or, not_or]
    exact ⟨hzero, hshort, hmem⟩
  rw [if_neg hcut, replaceChar_take hmem (not_lt.1 hshort)]
  have hnormal := (normal_belowShare start).starts (List.take_prefix (k - base.length) _)
  generalize (belowShare start).take (k - base.length) = kept at hnormal ⊢
  have hdrop : (base ++ QString.replaceChar slash backslash kept).drop base.length =
      QString.replaceChar slash backslash kept := List.drop_left
  cases kept with
  | nil =>
    have hnil : base ++ QString.replaceChar slash backslash [] = base := List.append_nil base
    rw [hnil, if_pos (h.refl base)]
    decide
  | cons c kept =>
    obtain rfl := hnormal.start c rfl
    have hcons : QString.replaceChar slash backslash (slash :: kept) =
        backslash :: QString.replaceChar slash backslash kept := rfl
    rw [if_neg, if_pos, hdrop, replaceChar_back hnormal.backslash]
    · rw [hcons, startsWithIgnoringCase, decide_eq_true_iff, List.length_append, List.length_append]
      have htake : (base ++ backslash :: QString.replaceChar slash backslash kept).take
          (base.length + [backslash].length) = base ++ [backslash] := by
        rw [List.take_length_add_append]
        rfl
      rw [htake]
      exact ⟨by simp, h.refl _⟩
    · intro hsame
      have := h.length_eq hsame
      rw [hcons, List.length_append, List.length_cons] at this
      omega

end

/-! ## The prefixes of a path -/

section

variable {remotePath : QString} {l : List QString} {count : ℕ}

theorem joinedPath_eq (hne : l ≠ []) : joinedPath l = below l := by
  induction l with
  | nil => exact absurd rfl hne
  | cons x l ih =>
    cases l with
    | nil => simp [joinedPath, List.intercalate]
    | cons y l =>
      have hrest := ih (List.cons_ne_nil y l)
      rw [joinedPath] at hrest ⊢
      rw [List.intercalate_cons_cons, below_cons, ← hrest]
      simp

theorem pathFromSegments_eq (hcount : count ≤ l.length) :
    pathFromSegments l count = render (l.take count) := by
  rw [pathFromSegments, render]
  by_cases hzero : count = 0
  · rw [if_pos hzero, if_pos (by rw [hzero, List.take_zero])]
  · have hne : l.take count ≠ [] := by
      rw [← List.length_pos_iff, List.length_take]
      omega
    rw [if_neg hzero, if_neg hne, joinedPath_eq hne]

theorem remotePathSegments_eq (hl : Names l) (hpath : normalizeRemotePath remotePath = render l) :
    remotePathSegments remotePath = l := by
  rw [remotePathSegments, hpath]
  by_cases hne : l = []
  · rw [hne]
    rfl
  · have hroot : render l ≠ root := fun h => hne ((render_eq_root hl).1 h)
    rw [if_neg hroot, render_of_ne hne, ← joinedPath_eq hne, joinedPath, List.drop_one,
      List.tail_cons, List.splitOn_intercalate slash hl.slash hne, List.filter_eq_self]
    exact fun x hx => decide_eq_true (hl.ne_nil x hx)

theorem below_settle_starts : below (settle QChar.isSpace l) <+: below l := by
  rcases List.eq_nil_or_concat l with rfl | ⟨l, x, rfl⟩
  · exact List.prefix_rfl
  rw [List.concat_eq_append, settle_append (by simp), below_append, below_append, settle]
  refine (List.prefix_append_right_inj _).2 ?_
  split
  · exact List.nil_prefix
  · obtain ⟨rest, hrest⟩ := List.rdropWhile_prefix QChar.isSpace x
    refine ⟨rest, ?_⟩
    simpa using hrest

theorem belowShare_render (hl : Names l) : belowShare (render l) = below (settle QChar.isSpace l) := by
  rw [belowShare, normalizeRemotePath_render hl]
  split
  · rename_i h
    rw [(render_eq_root (names_settle hl)).1 h, below_nil]
  · rename_i h
    refine render_of_ne fun hnil => h ?_
    rw [hnil, render_nil]

theorem root_starts (hl : Names l) : root <+: render l := by
  by_cases hne : l = []
  · rw [hne]
    exact List.prefix_rfl
  · obtain ⟨x, l, rfl⟩ := List.exists_cons_of_ne_nil hne
    rw [render_of_ne hne, below_cons]
    exact ⟨_, rfl⟩

theorem below_prefix_render : below l <+: render l := by
  rw [render]
  split
  · rename_i hnil
    rw [hnil]
    exact List.nil_prefix
  · exact List.prefix_rfl

theorem below_take_starts (n : ℕ) : below (l.take n) <+: below l := by
  refine ⟨below (l.drop n), ?_⟩
  rw [← below_append, List.take_append_drop]

/-- What is kept of a prefix is a part of the path. -/
theorem keptPath_starts (hl : Names l) (hcount : count ≤ l.length) (shareRoot : QString)
    (pathConsumedBytes : UInt16) :
    keptPath shareRoot (pathFromSegments l count) pathConsumedBytes <+: render l := by
  have htake : Names (l.take count) := by
    have hsplit := hl
    rw [← List.take_append_drop count l] at hsplit
    exact (names_append.1 hsplit).1
  have hbelow : below (l.take count) <+: render l :=
    (below_take_starts count).trans below_prefix_render
  rw [pathFromSegments_eq hcount, keptPath]
  split
  · by_cases hnil : l.take count = []
    · rw [hnil, render_nil]
      exact root_starts hl
    · rw [render_of_ne hnil]
      exact hbelow
  · rw [belowShare_render htake]
    exact ((List.take_prefix _ _).trans below_settle_starts).trans hbelow

end

/-! ## The returned prefixes -/

section

variable {texts : ResolverTexts} {tables : CaseTables} {connection : Core.Connection}
  {es : List (Event ResolverWire)} {r : Core.Result (List Core.DfsResolvedPath)}

/-- An answer to the question for the referrals of a path. -/
def answered (texts : ResolverTexts) (connection : Core.Connection) (start : QString)
    (referrals : Native.NativeDfsReferralResult) : Event ResolverWire :=
  ⟨.getDfsReferrals (texts.toStdString
    (requestUncPath connection (serverForUnc texts connection.server) start)), .ok referrals⟩

/-- The paths of an answer have the prefix it states. -/
theorem of_mem_resolvedPaths {segments : List QString} {count : ℕ}
    {referrals : Native.NativeDfsReferralResult} {path : Core.DfsResolvedPath}
    (h : path ∈ resolvedPaths texts tables connection segments count referrals) :
    path.originalPathPrefix = consumedOriginalPrefix tables
      (requestUncPath connection (serverForUnc texts connection.server)
        (pathFromSegments segments count))
      (serverForUnc texts connection.server) connection.share
      referrals.response.pathConsumedBytes (pathFromSegments segments count) := by
  rw [resolvedPaths, List.mem_filterMap] at h
  obtain ⟨entry, -, hentry⟩ := h
  obtain ⟨target, -, rfl⟩ := Option.map_eq_some_iff.1 hentry
  rfl

/-- A run of the loop that returns paths ends with the answer they are from. -/
theorem runs_resolvePathLoop {segments : List QString} {n : ℕ}
    (h : Program.Runs (resolvePathLoop texts tables connection segments n) es r)
    (hpaths : r.value ≠ []) : ∃ earlier count referrals, count < n ∧
      es = earlier ++ [answered texts connection (pathFromSegments segments count) referrals] ∧
      r.value = resolvedPaths texts tables connection segments count referrals := by
  induction n generalizing es with
  | zero =>
    obtain ⟨-, rfl⟩ := Program.runs_pure.1 h
    exact absurd rfl hpaths
  | succ count ih =>
    rw [resolvePathLoop, Program.bind_eq, Program.perform_bind, Program.runs_ask] at h
    obtain ⟨answer, rest, rfl, h⟩ := h
    have hshorter : ∀ {rest}, Program.Runs (resolvePathLoop texts tables connection segments count)
        rest r → ∃ earlier count' referrals, count' < count + 1 ∧
          ⟨_, answer⟩ :: rest = earlier ++
            [answered texts connection (pathFromSegments segments count') referrals] ∧
          r.value = resolvedPaths texts tables connection segments count' referrals := by
      intro rest hrest
      obtain ⟨earlier, count', referrals, hlt, rfl, hvalue⟩ := ih hrest
      exact ⟨_ :: earlier, count', referrals, by omega, rfl, hvalue⟩
    cases answer with
    | error e =>
      dsimp only at h
      split at h
      · exact hshorter h
      · obtain ⟨-, rfl⟩ := Program.runs_pure.1 h
        exact absurd rfl hpaths
    | ok referrals =>
      dsimp only at h
      split at h
      · exact hshorter h
      · obtain ⟨rfl, rfl⟩ := Program.runs_pure.1 h
        exact ⟨[], count, referrals, Nat.lt_succ_self count, rfl, rfl⟩

/-- A run that returns paths ends with the answer they are from. -/
theorem runs_resolvePathTargets {remotePath : QString} {context : Native.OperationContext}
    (h : Program.Runs (resolvePathTargets texts tables connection remotePath context) es r)
    (hpaths : r.value ≠ []) : ∃ earlier count referrals,
      count ≤ (remotePathSegments remotePath).length ∧
      es = earlier ++ [answered texts connection
        (pathFromSegments (remotePathSegments remotePath) count) referrals] ∧
      r.value = resolvedPaths texts tables connection (remotePathSegments remotePath) count
        referrals := by
  obtain ⟨before, opened, after, rfl, -, hafter⟩ := Program.runs_bind.1 h
  cases opened with
  | error e =>
    obtain ⟨-, rfl⟩ := Program.runs_pure.1 hafter
    exact absurd rfl hpaths
  | ok state =>
    obtain ⟨earlier, count, referrals, hcount, rfl, hvalue⟩ := runs_resolvePathLoop hafter hpaths
    exact ⟨before ++ earlier, count, referrals, Nat.lt_succ_iff.1 hcount,
      (List.append_assoc ..).symm, hvalue⟩

/-- **The returned prefix** ends with a name of the requested path exactly when the part of
    the path asked for that the server states does. -/
theorem originalPathPrefix_wholeNames_iff (htables : ComparesCharacters tables)
    {remotePath : QString} {context : Native.OperationContext}
    (hrun : Program.Runs (resolvePathTargets texts tables connection remotePath context) es r) :
    ∀ path ∈ r.value, ∃ earlier count referrals,
      count ≤ (remotePathSegments remotePath).length ∧
      es = earlier ++ [answered texts connection
        (pathFromSegments (remotePathSegments remotePath) count) referrals] ∧
      (WholeNames path.originalPathPrefix (normalizeRemotePath remotePath) ↔
        EndsWithName (normalizeRemotePath remotePath)
          (keptPath (shareRoot (serverForUnc texts connection.server) connection.share)
            (pathFromSegments (remotePathSegments remotePath) count)
            referrals.response.pathConsumedBytes)) := by
  intro path hmem
  obtain ⟨earlier, count, referrals, hcount, hes, hvalue⟩ :=
    runs_resolvePathTargets hrun (List.ne_nil_of_mem hmem)
  obtain ⟨l, hl, hnormalized⟩ := exists_names remotePath
  have hsegments := remotePathSegments_eq hl hnormalized
  refine ⟨earlier, count, referrals, hcount, hes, ?_⟩
  rw [hvalue] at hmem
  rw [of_mem_resolvedPaths hmem, consumedOriginalPrefix_eq htables, hnormalized]
  refine wholeNames_normalizeRemotePath (normal_render hl) ?_
  rw [hsegments] at hcount ⊢
  exact keptPath_starts hl hcount _ _

end

namespace PlainResolver

/-- Conversions for texts of ASCII characters. -/
def texts : ResolverTexts where
  toStdString text := text.map fun c => UInt8.ofNat c.toNat
  fromStdString text := text.map fun c => UInt16.ofNat c.toNat
  details _ _ := []
  toUShort _ := none

def lowerAscii (c : QChar) : QChar := if 0x41 ≤ c ∧ c ≤ 0x5A then c + 0x20 else c

/-- The case tables on ASCII letters. -/
def tables : CaseTables where
  toLower s := s.map lowerAscii
  sameIgnoringCase s t := s.map lowerAscii = t.map lowerAscii

theorem comparesCharacters_tables : ComparesCharacters tables := by
  refine ⟨fun s => decide_eq_true rfl, fun s t h => ?_⟩
  have hslash : ∀ c, decide (c = slash) = decide (lowerAscii c = slash) := by
    intro c
    rw [lowerAscii]
    split
    · rename_i hupper
      have hne : c ≠ slash := by
        rintro rfl
        exact absurd hupper.1 (by decide)
      have hne' : c + 0x20 ≠ slash := by
        intro heq
        have hle := UInt16.le_iff_toNat_le.1 hupper.2
        have hlt := UInt16.le_iff_toNat_le.1 hupper.1
        have hsum := congrArg UInt16.toNat heq
        rw [UInt16.toNat_add] at hsum
        change c.toNat ≤ 90 at hle
        change 65 ≤ c.toNat at hlt
        change (c.toNat + 32) % 2 ^ 16 = 47 at hsum
        omega
      rw [decide_eq_false hne, decide_eq_false hne']
    · rfl
  have hcomp : (fun c => decide (c = slash)) ∘ lowerAscii = fun c => decide (c = slash) :=
    funext fun c => (hslash c).symm
  have hlower := congrArg (List.map fun c => decide (c = slash)) (of_decide_eq_true h)
  rwa [List.map_map, List.map_map, hcomp] at hlower

/-- A server that states so many bytes consumed of any path, and one target. -/
def referralServer (pathConsumedBytes : UInt16) : Handler ResolverWire Unit
  | _, .isCancelled => (false, ())
  | _, .connect _ =>
    (.ok { connection := .new 1 1 1, negotiated := {}, session := {}, tree := {} }, ())
  | _, .getDfsReferrals _ =>
    (.ok { response := {
             pathConsumedBytes
             entries := [{ networkAddress := ascii "\\\\t\\d" }] }
           messagesUsed := 1 }, ())

def connection : Core.Connection :=
  { server := qStringLiteral "s", share := qStringLiteral "h" }

/-- The resolution of `/ab/c`. -/
def resolved (pathConsumedBytes : UInt16) :
    List (Event ResolverWire) × Core.Result (List Core.DfsResolvedPath) × Unit :=
  (resolvePathTargets texts tables connection (qStringLiteral "/ab/c") {}).serve
    (referralServer pathConsumedBytes) ()

theorem runs_resolved (pathConsumedBytes : UInt16) :
    Program.Runs (resolvePathTargets texts tables connection (qStringLiteral "/ab/c") {})
      (resolved pathConsumedBytes).1 (resolved pathConsumedBytes).2.1 :=
  Program.runs_serve ..

/-- The bytes an event states as consumed. -/
def statedBytes : Event ResolverWire → Option UInt16
  | ⟨.getDfsReferrals _, .ok referrals⟩ => some referrals.response.pathConsumedBytes
  | _ => none

/-- The one path of an answer. -/
theorem exists_resolved {pathConsumedBytes : UInt16} {start : QString}
    (h : (resolved pathConsumedBytes).2.1.value.map (·.originalPathPrefix) = [start]) :
    ∃ path ∈ (resolved pathConsumedBytes).2.1.value, path.originalPathPrefix = start := by
  have hmem : start ∈ (resolved pathConsumedBytes).2.1.value.map (·.originalPathPrefix) := by
    rw [h]
    exact List.mem_singleton_self _
  exact List.mem_map.1 hmem

end PlainResolver

open PlainResolver in
/-- `/ab` of `/ab/c`, where the server states all of it. -/
theorem originalPathPrefix_wholeNames_ab :
    ∃ path ∈ (resolved 16).2.1.value, path.originalPathPrefix = qStringLiteral "/ab" ∧
      WholeNames path.originalPathPrefix (normalizeRemotePath (qStringLiteral "/ab/c")) := by
  obtain ⟨path, hpath, hstart⟩ :=
    @exists_resolved 16 (qStringLiteral "/ab") (by decide)
  refine ⟨path, hpath, hstart, ?_⟩
  obtain ⟨earlier, count, referrals, hcount, hes, hiff⟩ :=
    originalPathPrefix_wholeNames_iff comparesCharacters_tables (runs_resolved 16) path hpath
  have hlast := congrArg (fun es => es.getLast?.bind statedBytes) hes
  have hbytes : (resolved 16).1.getLast?.bind statedBytes = some 16 := by decide
  rw [hbytes, List.getLast?_concat] at hlast
  have hconsumed : referrals.response.pathConsumedBytes = 16 := (Option.some.inj hlast).symm
  rw [hiff, hconsumed]
  have hlength : (remotePathSegments (qStringLiteral "/ab/c")).length = 2 := by decide
  rw [hlength] at hcount
  obtain rfl | rfl | rfl : count = 0 ∨ count = 1 ∨ count = 2 := by omega
  · decide
  · decide
  · decide

open PlainResolver in
/-- Where it states one letter less, the returned prefix is `/a`. -/
theorem originalPathPrefix_cut :
    ∃ es r, Program.Runs
        (resolvePathTargets texts tables connection (qStringLiteral "/ab/c") {}) es r ∧
      ∃ path ∈ r.value, path.originalPathPrefix = qStringLiteral "/a" ∧
        ¬ WholeNames path.originalPathPrefix (normalizeRemotePath (qStringLiteral "/ab/c")) := by
  obtain ⟨path, hpath, hstart⟩ :=
    @exists_resolved 14 (qStringLiteral "/a") (by decide)
  refine ⟨_, _, runs_resolved 14, path, hpath, hstart, ?_⟩
  rw [hstart]
  decide

end SmbBrowser.Dfs
