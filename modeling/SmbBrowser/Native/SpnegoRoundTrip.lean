import SmbBrowser.Native.SpnegoToken

/-!
# Unwrapping the tokens the client wraps

A string of whole elements is walked element by element (`visits_elements`), so
the walk of a built token can be read off its construction: the mechanism list
has no octet string, and the mechanism token is the first visit.

Result: `unwrap_build`, for both tokens.
-/

namespace SmbBrowser.Native

open SmbBrowser.Base

/-- Elements one after another. -/
def derElements (elements : List (UInt8 × ByteVector)) : ByteVector :=
  elements.flatMap fun e => derElement e.1 e.2

@[simp] theorem derElements_nil : derElements [] = [] := rfl

@[simp] theorem derElements_cons (tag : UInt8) (content : ByteVector)
    (elements : List (UInt8 × ByteVector)) :
    derElements ((tag, content) :: elements) = derElement tag content ++ derElements elements := rfl

theorem length_derElement (tag : UInt8) (content : ByteVector) :
    (derElement tag content).length = 1 + (derLength content.length).length + content.length := by
  rw [derElement, List.length_cons, List.length_append]
  omega

theorem length_content_lt (tag : UInt8) (content : ByteVector) :
    content.length < (derElement tag content).length := by
  rw [length_derElement]
  omega

theorem length_elements_le (elements : List (UInt8 × ByteVector)) :
    elements.length ≤ (derElements elements).length := by
  induction elements with
  | nil => exact le_rfl
  | cons e elements ih =>
    obtain ⟨tag, content⟩ := e
    have := length_content_lt tag content
    rw [derElements_cons, List.length_append, List.length_cons]
    omega

/-- The elements are found one after another. -/
theorem derItems_elements (elements : List (UInt8 × ByteVector)) :
    ∀ {fuel offset : ℕ}, elements.length ≤ fuel →
      offset + (derElements elements).length < 2 ^ 64 →
      derItems fuel offset (derElements elements) =
        elements.map fun e => DerItem.value e.1 e.2 := by
  induction elements with
  | nil =>
    intro fuel offset _ _
    cases fuel with
    | zero => rfl
    | succ fuel => rfl
  | cons e elements ih =>
    intro fuel offset hfuel hoffset
    obtain ⟨tag, content⟩ := e
    obtain ⟨fuel, rfl⟩ : ∃ n, fuel = n + 1 := ⟨fuel - 1, by simp at hfuel; omega⟩
    rw [derElements_cons, List.length_append] at hoffset
    have hlength := length_derElement tag content
    have hheader := derHeader_derElement tag (derElements elements) (by omega :
      content.length < 2 ^ 64)
    generalize hsize : 1 + (derLength content.length).length = size at hheader hlength
    have hwhole : derElement tag content ++ derElements elements =
        (tag :: derLength content.length) ++ (content ++ derElements elements) := by
      simp [derElement]
    have hskip : (tag :: derLength content.length).length = size := by
      rw [List.length_cons]
      omega
    have hvalue : ((derElement tag content ++ derElements elements).drop size).take
        content.length = content := by
      rw [hwhole, List.drop_left' hskip, List.take_left' rfl]
    have hnext : (derElement tag content ++ derElements elements).drop (size + content.length) =
        derElements elements := List.drop_left' hlength
    have hover : ¬ 2 ^ 64 ≤ offset + size + content.length := by omega
    have hcut : ¬ (derElement tag content ++ derElements elements).length <
        size + content.length := by
      rw [List.length_append]
      omega
    rw [derElements_cons, derItems, hheader]
    dsimp only
    rw [if_neg hover, if_neg hcut, hvalue, hnext, ih (by simp at hfuel; omega) (by omega)]
    rfl

theorem not_startsWithNtlmSignature {tag : UInt8} (rest : ByteVector) (h : tag ≠ 0x4E) :
    ¬ startsWithNtlmSignature (tag :: rest) = true := by
  intro hsignature
  have hhead : ((tag :: rest).take 8).head? = ntlmSignature.head? :=
    congrArg List.head? (of_decide_eq_true hsignature)
  have heq : some tag = some (0x4E : UInt8) := hhead
  exact h (Option.some.inj heq)

/-- The walk of a string of elements, the first of which is no signature. -/
theorem visits_elements {levels : ℕ} {tag : UInt8} {content : ByteVector}
    {elements : List (UInt8 × ByteVector)} (htag : tag ≠ 0x4E)
    (h : (derElements ((tag, content) :: elements)).length < 2 ^ 64) :
    visits (levels + 1) (derElements ((tag, content) :: elements)) =
      ((tag, content) :: elements).flatMap fun e =>
        (DerItem.value e.1 e.2).visits (visits levels) := by
  have hfirst : ¬ startsWithNtlmSignature (derElements ((tag, content) :: elements)) = true :=
    not_startsWithNtlmSignature _ htag
  have hle := length_elements_le ((tag, content) :: elements)
  rw [visits, if_neg hfirst, derItems_elements _ (by omega) (by omega), List.flatMap_map]

/-- A constructed value is walked a level down. -/
theorem visits_constructed {below : ByteVector → List Visit} {tag : UInt8}
    (content : ByteVector) (htag : tag ≠ kDerOctetString ∧ tag &&& 0x20 ≠ 0) :
    (DerItem.value tag content).visits below = below content := by
  rw [DerItem.visits, if_neg (fun hoctet => htag.1 hoctet.1), if_pos (Or.inl htag.2)]

theorem visits_one {levels : ℕ} {tag : UInt8} {content : ByteVector} (htag : tag ≠ 0x4E)
    (h : (derElement tag content).length < 2 ^ 64) :
    visits (levels + 1) (derElement tag content) =
      (DerItem.value tag content).visits (visits levels) := by
  have hone : derElement tag content = derElements [(tag, content)] := by simp
  rw [hone] at h ⊢
  rw [visits_elements htag h, List.flatMap_cons, List.flatMap_nil, List.append_nil]

theorem visits_two {levels : ℕ} {tag tag' : UInt8} {content content' : ByteVector}
    (htag : tag ≠ 0x4E)
    (h : (derElement tag content ++ derElement tag' content').length < 2 ^ 64) :
    visits (levels + 1) (derElement tag content ++ derElement tag' content') =
      (DerItem.value tag content).visits (visits levels) ++
        (DerItem.value tag' content').visits (visits levels) := by
  have htwo : derElement tag content ++ derElement tag' content' =
      derElements [(tag, content), (tag', content')] := by simp
  rw [htwo] at h ⊢
  rw [visits_elements htag h, List.flatMap_cons, List.flatMap_cons, List.flatMap_nil,
    List.append_nil]

/-! ## Built tokens -/

/-- The mechanism token is the only visit of its context element. -/
theorem visits_mechToken {levels : ℕ} {token : ByteVector}
    (hsignature : startsWithNtlmSignature token = true)
    (h : (derElement kDerOctetString token).length < 2 ^ 64) :
    (DerItem.value kDerContext2 (derElement kDerOctetString token)).visits (visits (levels + 1)) =
      [.token token] := by
  rw [visits_constructed _ (by decide), visits_one (by decide) h, DerItem.visits,
    if_pos ⟨rfl, hsignature⟩]

/-- The mechanism list holds an identifier only. -/
theorem visits_mechTypes {levels : ℕ} :
    (DerItem.value kDerContext0 (derElement kDerSequence
      (derElement kDerObjectIdentifier kNtlmOid))).visits (visits (levels + 2)) = [] := by
  rw [visits_constructed _ (by decide), visits_one (by decide) (by decide),
    visits_constructed _ (by decide), visits_one (by decide) (by decide)]
  rfl

theorem visits_buildSpnegoNegTokenResp {levels : ℕ} {token : ByteVector}
    (hsignature : startsWithNtlmSignature token = true)
    (h : (buildSpnegoNegTokenResp token).length < 2 ^ 64) :
    visits (levels + 4) (buildSpnegoNegTokenResp token) = [.token token] := by
  rw [buildSpnegoNegTokenResp] at h ⊢
  dsimp only [derContext, derSequence, derOctetString, derTlv] at h ⊢
  have hsequence := length_content_lt kDerContext1
    (derElement kDerSequence (derElement kDerContext2 (derElement kDerOctetString token)))
  have hcontext := length_content_lt kDerSequence
    (derElement kDerContext2 (derElement kDerOctetString token))
  have htoken := length_content_lt kDerContext2 (derElement kDerOctetString token)
  rw [visits_one (by decide) h, visits_constructed _ (by decide),
    visits_one (by decide) (by omega), visits_constructed _ (by decide),
    visits_one (by decide) (by omega), visits_mechToken hsignature (by omega)]

/-- The application element is walked through to its inner sequence. -/
theorem visits_application {levels : ℕ} {content : ByteVector}
    (h : (derElement kDerApplication0 (derElement kDerObjectIdentifier kSpnegoOid ++
      derElement kDerContext0 (derElement kDerSequence content))).length < 2 ^ 64) :
    visits (levels + 3) (derElement kDerApplication0 (derElement kDerObjectIdentifier kSpnegoOid ++
      derElement kDerContext0 (derElement kDerSequence content))) = visits levels content := by
  have hboth := length_content_lt kDerApplication0 (derElement kDerObjectIdentifier
    kSpnegoOid ++ derElement kDerContext0 (derElement kDerSequence content))
  have hsequence := length_content_lt kDerContext0 (derElement kDerSequence content)
  have hidentifier : (DerItem.value kDerObjectIdentifier kSpnegoOid).visits
      (visits (levels + 1)) = [] := by
    rw [DerItem.visits, if_neg (by decide), if_neg (by decide)]
  rw [visits_one (by decide) h, visits_constructed _ (by decide),
    visits_two (by decide) (by omega), hidentifier, List.nil_append,
    visits_constructed _ (by decide)]
  rw [List.length_append] at hboth
  rw [visits_one (by decide) (by omega), visits_constructed _ (by decide)]

theorem visits_buildSpnegoNegTokenInit {levels : ℕ} {token : ByteVector}
    (hsignature : startsWithNtlmSignature token = true)
    (h : (buildSpnegoNegTokenInit token).length < 2 ^ 64) :
    visits (levels + 6) (buildSpnegoNegTokenInit token) = [.token token] := by
  rw [buildSpnegoNegTokenInit] at h ⊢
  dsimp only [derContext, derSequence, derOctetString, derOid, derTlv] at h ⊢
  rw [visits_application h]
  generalize hlist : derElement kDerContext0
      (derElement kDerSequence (derElement kDerObjectIdentifier kNtlmOid)) ++
    derElement kDerContext2 (derElement kDerOctetString token) = initSequence at h ⊢
  have happlication := length_content_lt kDerApplication0 (derElement kDerObjectIdentifier
    kSpnegoOid ++ derElement kDerContext0 (derElement kDerSequence initSequence))
  have hnegotiation := length_content_lt kDerContext0 (derElement kDerSequence initSequence)
  have hsequence := length_content_lt kDerSequence initSequence
  have htoken := length_content_lt kDerContext2 (derElement kDerOctetString token)
  rw [List.length_append] at happlication
  have hlength : initSequence.length < 2 ^ 64 := by omega
  rw [← hlist] at hlength ⊢
  rw [visits_two (by decide) hlength, visits_mechTypes, List.nil_append]
  rw [List.length_append] at hlength
  rw [visits_mechToken hsignature (by omega)]

/-- The first visit is the parser's result. -/
theorem unwrap_of_visits {bytes token : ByteVector} (hbytes : bytes.length < 2 ^ 63)
    (hvisits : visits 17 bytes = [.token token]) :
    unwrapSpnegoNtlmToken bytes = .ok (.ok token) := by
  have hscan := findNtlmOctetString_scan 17 bytes hbytes
  rw [hvisits] at hscan
  exact hscan

/-- Both wrapped tokens are unwrapped, as far as they fit into a `std::vector`. -/
theorem unwrap_build (token : ByteVector) (hsignature : startsWithNtlmSignature token = true)
    (hinit : (buildSpnegoNegTokenInit token).length < 2 ^ 63)
    (hresp : (buildSpnegoNegTokenResp token).length < 2 ^ 63) :
    unwrapSpnegoNtlmToken (buildSpnegoNegTokenInit token) = .ok (.ok token) ∧
      unwrapSpnegoNtlmToken (buildSpnegoNegTokenResp token) = .ok (.ok token) :=
  ⟨unwrap_of_visits hinit (visits_buildSpnegoNegTokenInit hsignature (by omega)),
    unwrap_of_visits hresp (visits_buildSpnegoNegTokenResp hsignature (by omega))⟩

/-- A token of the signature and one more byte. -/
theorem unwrap_build_short :
    unwrapSpnegoNtlmToken (buildSpnegoNegTokenInit (ntlmSignature ++ [1])) =
        .ok (.ok (ntlmSignature ++ [1])) ∧
      unwrapSpnegoNtlmToken (buildSpnegoNegTokenResp (ntlmSignature ++ [1])) =
        .ok (.ok (ntlmSignature ++ [1])) :=
  unwrap_build (ntlmSignature ++ [1]) (by decide) (by decide) (by decide)

end SmbBrowser.Native
