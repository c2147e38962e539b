import Mathlib.Data.List.Basic
import Mathlib.Data.Rat.Lemmas
import SmbBrowser.Qt.QString

/-!
# JSON documents of Qt

`QJsonValue`, `QJsonObject` and the members of them that the program calls.  An object
keeps its entries sorted by key.  Reading and writing a document, and Base64, are a
parameter (`Codec`).

Results:
* `JsonObject.value_insert`, `JsonObject.value_remove`: an object is a finite map;
* `JsonObject.Sorted.insert`, `JsonObject.Sorted.remove`: every change keeps its order.
-/

namespace SmbBrowser.Qt

/-- `QByteArray`. -/
abbrev QByteArray := List UInt8

/-- `QJsonValue`, less `Undefined`. -/
inductive JsonValue where
  | null
  | bool (b : Bool)
  | number (n : ℚ)
  | string (s : QString)
  | array (items : List JsonValue)
  | object (entries : List (QString × JsonValue))

/-- `QJsonObject`: its entries, sorted by key. -/
abbrev JsonObject := List (QString × JsonValue)

instance : Inhabited JsonValue := ⟨.null⟩

/-! ## Values

The members below take what `QJsonObject::value` returns: `none` is `Undefined`. -/

namespace JsonValue

/-- `QJsonValue::isObject`. -/
def isObject : JsonValue → Bool
  | .object _ => true
  | _ => false

/-- `QJsonValue::isString`. -/
def isString : Option JsonValue → Bool
  | some (.string _) => true
  | _ => false

/-- `QJsonValue::toString`. -/
def toString (v : Option JsonValue) (defaultValue : QString := []) : QString :=
  match v with
  | some (.string s) => s
  | _ => defaultValue

/-- `QJsonValue::toBool`. -/
def toBool : Option JsonValue → Bool
  | some (.bool b) => b
  | _ => false

/-- The range of an `int`. -/
def IsInt (n : ℤ) : Prop := -2 ^ 31 ≤ n ∧ n < 2 ^ 31

instance (n : ℤ) : Decidable (IsInt n) := inferInstanceAs (Decidable (_ ∧ _))

/-- `QJsonValue::toInt`: a number that is not an `int` is the default. -/
def toInt : Option JsonValue → ℤ
  | some (.number n) => if n.den = 1 ∧ IsInt n.num then n.num else 0
  | _ => 0

/-- `QJsonValue::toArray`. -/
def toArray : Option JsonValue → List JsonValue
  | some (.array items) => items
  | _ => []

/-- `QJsonValue::toObject`. -/
def toObject : Option JsonValue → JsonObject
  | some (.object entries) => entries
  | _ => []

@[simp] theorem toString_string (s d : QString) : toString (some (.string s)) d = s := rfl
@[simp] theorem toString_none (d : QString) : toString none d = d := rfl
@[simp] theorem toBool_bool (b : Bool) : toBool (some (.bool b)) = b := rfl
@[simp] theorem toArray_array (items : List JsonValue) : toArray (some (.array items)) = items := rfl
@[simp] theorem toObject_object (o : JsonObject) : toObject (some (.object o)) = o := rfl

@[simp] theorem toInt_intCast {n : ℤ} (h : IsInt n) : toInt (some (.number n)) = n := by
  rw [toInt, if_pos ⟨Rat.den_intCast n, h⟩, Rat.num_intCast]

end JsonValue

/-! ## Objects -/

namespace JsonObject

/-- `QJsonObject::value`. -/
def value (o : JsonObject) (key : QString) : Option JsonValue :=
  (o.find? (·.1 = key)).map (·.2)

/-- `QJsonObject::contains`. -/
def contains (o : JsonObject) (key : QString) : Bool := (o.value key).isSome

/-- `QJsonObject::insert`. -/
def insert (o : JsonObject) (key : QString) (v : JsonValue) : JsonObject :=
  match o with
  | [] => [(key, v)]
  | entry :: rest =>
    if entry.1 = key then (key, v) :: rest
    else if key < entry.1 then (key, v) :: entry :: rest
    else entry :: insert rest key v

/-- `QJsonObject::remove`. -/
def remove (o : JsonObject) (key : QString) : JsonObject := o.filter (·.1 ≠ key)

section

variable {o : JsonObject} {key key' : QString} {v : JsonValue}

@[simp] theorem value_nil : value [] key = none := rfl

theorem value_cons (entry : QString × JsonValue) (rest : JsonObject) :
    value (entry :: rest) key = if entry.1 = key then some entry.2 else value rest key := by
  unfold value
  by_cases h : entry.1 = key
  · rw [if_pos h, List.find?_cons_of_pos (by simpa using h), Option.map_some]
  · rw [if_neg h, List.find?_cons_of_neg (by simpa using h)]

/-- What an object has under a key after an insertion. -/
theorem value_insert :
    (insert o key v).value key' = if key = key' then some v else o.value key' := by
  induction o with
  | nil => rw [insert, value_cons]
  | cons entry rest ih =>
    unfold insert
    by_cases hentry : entry.1 = key
    · rw [if_pos hentry, value_cons, value_cons, hentry]
      split <;> rfl
    · rw [if_neg hentry]
      split
      · rw [value_cons]
      · rw [value_cons, value_cons, ih]
        by_cases hkey : entry.1 = key'
        · rw [if_pos hkey, if_neg fun h => hentry (hkey.trans h.symm), if_pos hkey]
        · rw [if_neg hkey, if_neg hkey]

/-- What an object has under a key after a removal. -/
theorem value_remove : (remove o key).value key' = if key = key' then none else o.value key' := by
  induction o with
  | nil => split <;> rfl
  | cons entry rest ih =>
    unfold remove at ih ⊢
    by_cases hentry : entry.1 = key
    · rw [List.filter_cons_of_neg (by simpa using hentry), ih, value_cons, hentry]
      split <;> rfl
    · rw [List.filter_cons_of_pos (by simpa using hentry), value_cons, value_cons, ih]
      by_cases hkey : entry.1 = key'
      · rw [if_pos hkey, if_neg fun h => hentry (hkey.trans h.symm), if_pos hkey]
      · rw [if_neg hkey, if_neg hkey]

end

/-- The keys are in order, and none occurs twice. -/
def Sorted (o : JsonObject) : Prop := o.Pairwise fun entry entry' => entry.1 < entry'.1

theorem mem_insert {o : JsonObject} {key : QString} {v : JsonValue} {entry : QString × JsonValue}
    (h : entry ∈ insert o key v) : entry = (key, v) ∨ entry ∈ o := by
  induction o with
  | nil => exact Or.inl (List.mem_singleton.1 h)
  | cons first rest ih =>
    unfold insert at h
    split at h
    · rcases List.mem_cons.1 h with h | h
      · exact Or.inl h
      · exact Or.inr (List.mem_cons_of_mem _ h)
    · split at h
      · exact List.mem_cons.1 h
      · rcases List.mem_cons.1 h with h | h
        · exact Or.inr (h ▸ List.mem_cons_self)
        · exact (ih h).imp (fun h => h) (List.mem_cons_of_mem _)

theorem Sorted.insert {o : JsonObject} (h : Sorted o) (key : QString) (v : JsonValue) :
    Sorted (insert o key v) := by
  induction o with
  | nil => exact List.pairwise_singleton _ _
  | cons entry rest ih =>
    obtain ⟨hentry, hrest⟩ := List.pairwise_cons.1 h
    unfold JsonObject.insert
    split
    · next hkey =>
      refine List.pairwise_cons.2 ⟨?_, hrest⟩
      intro entry' hmem
      exact hkey ▸ hentry entry' hmem
    · next hkey =>
      split
      · next hlt =>
        refine List.pairwise_cons.2 ⟨?_, h⟩
        intro entry' hmem
        rcases List.mem_cons.1 hmem with rfl | hmem
        · exact hlt
        · exact List.lt_trans hlt (hentry entry' hmem)
      · next hlt =>
        refine List.pairwise_cons.2 ⟨?_, ih hrest⟩
        intro entry' hmem
        rcases mem_insert hmem with rfl | hmem
        · exact Std.lt_of_le_of_ne (List.not_lt.1 hlt) hkey
        · exact hentry entry' hmem

theorem Sorted.remove {o : JsonObject} (h : Sorted o) (key : QString) : Sorted (remove o key) :=
  h.filter _

end JsonObject

/-! ## Documents -/

/-- `QJsonDocument::Compact` and `QJsonDocument::Indented`. -/
inductive JsonFormat where
  | compact
  | indented

/-- `QJsonDocument` and Base64: a document is written from an object, and read with the
    text of the error, if there is one. -/
structure Codec where
  toJson : JsonFormat → JsonObject → QByteArray
  fromJson : QByteArray → Except QString JsonValue
  /-- `QString::fromLatin1` after `QByteArray::toBase64`. -/
  toBase64 : QByteArray → QString
  /-- `QByteArray::fromBase64` after `QString::toLatin1`. -/
  fromBase64 : QString → QByteArray

/-- The documents of a kind, and Base64, are read as they were written. -/
structure Codec.Faithful (codec : Codec) (documents : JsonObject → Prop) : Prop where
  fromJson : ∀ o, documents o → codec.fromJson (codec.toJson .compact o) = .ok (.object o)
  fromBase64 : ∀ bytes, codec.fromBase64 (codec.toBase64 bytes) = bytes

/-- A document of a kind that breaks off is no object. -/
def Codec.RejectsParts (codec : Codec) (documents : JsonObject → Prop) : Prop :=
  ∀ o, documents o → ∀ bytes, bytes <+: codec.toJson .compact o →
    bytes ≠ codec.toJson .compact o → ∀ o', codec.fromJson bytes ≠ .ok (.object o')

end SmbBrowser.Qt
