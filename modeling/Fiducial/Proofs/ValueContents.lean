import Fiducial.Tensor
import Fiducial.Value.Items
import Fiducial.Value.Name
import Mathlib.Tactic

/-!
# What stands in a value

A value is read from data as a tree.  What a conversion finds in it, by field, by member or leaf by
leaf, stands somewhere in the tree.  Two kinds of whole numbers matter there: those beyond the
doubles, which no conversion to a double can take, and those with too many digits to be written.
-/

namespace Fiducial
namespace Value

/-! ## Values in values -/

/-- A value stands somewhere in another, or is the other. -/
inductive Contains : Value → Value → Prop
  | refl (v : Value) : Contains v v
  | list {xs : List Value} {x v : Value} (hmem : x ∈ xs) (hx : Contains x v) :
      Contains (.list xs) v
  | set {xs : List Value} {x v : Value} (hmem : x ∈ xs) (hx : Contains x v) :
      Contains (.set xs) v
  | key {es : List (Value × Value)} {k w v : Value} (hmem : (k, w) ∈ es) (hk : Contains k v) :
      Contains (.map es) v
  | entry {es : List (Value × Value)} {k w v : Value} (hmem : (k, w) ∈ es) (hw : Contains w v) :
      Contains (.map es) v

/-- A value holds a whole number that is beyond the doubles. -/
def HoldsHuge (v : Value) : Prop := ∃ n, Contains v (.int n) ∧ Binary.ofInt? n = none

/-- A value holds a whole number that has too many digits to be written. -/
def HoldsLong (v : Value) : Prop :=
  ∃ n : Int, Contains v (.int n) ∧ Nat.pow 10 Decimal.maxDigits ≤ n.natAbs

/-- What stands in some entries stands in more of them. -/
theorem Contains.cons_entries {e : Value × Value} {es : List (Value × Value)} {n : Int}
    (hn : Contains (.map es) (.int n)) : Contains (.map (e :: es)) (.int n) := by
  cases hn with
  | key hmem hk => exact .key (List.mem_cons_of_mem _ hmem) hk
  | entry hmem hw => exact .entry (List.mem_cons_of_mem _ hmem) hw

theorem Contains.trans {u v w : Value} (huv : Contains u v) (hvw : Contains v w) :
    Contains u w := by
  induction huv with
  | refl v => exact hvw
  | list hmem _ ih => exact .list hmem (ih hvw)
  | set hmem _ ih => exact .set hmem (ih hvw)
  | key hmem _ ih => exact .key hmem (ih hvw)
  | entry hmem _ ih => exact .entry hmem (ih hvw)

theorem HoldsHuge.of_contains {u v : Value} (huv : Contains u v) (hv : v.HoldsHuge) :
    u.HoldsHuge := by
  obtain ⟨n, hn, hhuge⟩ := hv
  exact ⟨n, huv.trans hn, hhuge⟩

theorem contains_of_lookup {field : String} {es : List (Value × Value)} {v : Value}
    (hlookup : lookup field es = some v) : Contains (.map es) v := by
  have hmem : ∃ k, (k, v) ∈ es := by
    induction es with
    | nil => cases hlookup
    | cons e es ih =>
        obtain ⟨k, w⟩ := e
        have hrest (hr : lookup field es = some v) : ∃ k', (k', v) ∈ (k, w) :: es := by
          obtain ⟨k', hk'⟩ := ih hr
          exact ⟨k', List.mem_cons_of_mem _ hk'⟩
        cases k with
        | str s =>
            simp only [lookup] at hlookup
            split at hlookup
            · cases hlookup
              exact ⟨_, List.mem_cons_self⟩
            · exact hrest hlookup
        | _ => exact hrest hlookup
  obtain ⟨k, hk⟩ := hmem
  exact .entry hk (.refl v)

mutual

theorem contains_of_mem_leaves : ∀ (v u : Value), u ∈ leaves v → Contains v u
  | .list xs, u, hu => by
      obtain ⟨x, hx, hxu⟩ := contains_of_mem_leavesOf xs u hu
      exact .list hx hxu
  | .null, u, hu | .bool _, u, hu | .int _, u, hu | .float _, u, hu | .str _, u, hu
  | .map _, u, hu | .bytes _, u, hu | .date .., u, hu | .moment _, u, hu | .set _, u, hu
  | .again _, u, hu => by
      rw [List.mem_singleton.mp hu]
      exact .refl _

theorem contains_of_mem_leavesOf : ∀ (xs : List Value) (u : Value), u ∈ leavesOf xs →
    ∃ x ∈ xs, Contains x u
  | [], u, hu => by cases hu
  | x :: xs, u, hu => by
      rcases List.mem_append.mp hu with hu | hu
      · exact ⟨x, List.mem_cons_self, contains_of_mem_leaves x u hu⟩
      · obtain ⟨y, hy, hyu⟩ := contains_of_mem_leavesOf xs u hu
        exact ⟨y, List.mem_cons_of_mem _ hy, hyu⟩

end

theorem holdsLong_int {n : Int} (hn : isWritable (.int n) = false) : HoldsLong (.int n) := by
  rw [isWritable] at hn
  exact ⟨n, .refl _, Nat.le_of_not_lt (of_decide_eq_false hn)⟩

mutual

theorem holdsLong_of_not_isWritable : ∀ v : Value, isWritable v = false → v.HoldsLong
  | .int _ => holdsLong_int
  | .list xs => fun hxs => by
      rw [isWritable] at hxs
      obtain ⟨x, hx, n, hn, hlong⟩ := holdsLong_of_not_areWritable xs hxs
      exact ⟨n, .list hx hn, hlong⟩
  | .set xs => fun hxs => by
      rw [isWritable] at hxs
      obtain ⟨x, hx, n, hn, hlong⟩ := holdsLong_of_not_areWritable xs hxs
      exact ⟨n, .set hx hn, hlong⟩
  | .map es => fun hes => by
      rw [isWritable] at hes
      exact holdsLong_of_not_entriesAreWritable es hes
  | .null | .bool _ | .float _ | .str _ | .bytes _ | .date .. | .moment _ | .again _ => by
      simp [isWritable]

theorem holdsLong_of_not_areWritable : ∀ xs : List Value, areWritable xs = false →
    ∃ x ∈ xs, x.HoldsLong
  | [], hxs => by cases hxs
  | x :: xs, hxs => by
      rcases Bool.and_eq_false_iff.mp hxs with hx | hxs
      · exact ⟨x, List.mem_cons_self, holdsLong_of_not_isWritable x hx⟩
      · obtain ⟨y, hy, hlong⟩ := holdsLong_of_not_areWritable xs hxs
        exact ⟨y, List.mem_cons_of_mem _ hy, hlong⟩

theorem holdsLong_of_not_entriesAreWritable : ∀ es : List (Value × Value),
    entriesAreWritable es = false → (Value.map es).HoldsLong
  | [], hes => by cases hes
  | (k, w) :: es, hes => by
      rcases Bool.and_eq_false_iff.mp hes with hentry | hes
      · rcases Bool.and_eq_false_iff.mp hentry with hk | hw
        · obtain ⟨n, hn, hlong⟩ := holdsLong_of_not_isWritable k hk
          exact ⟨n, .key List.mem_cons_self hn, hlong⟩
        · obtain ⟨n, hn, hlong⟩ := holdsLong_of_not_isWritable w hw
          exact ⟨n, .entry List.mem_cons_self hn, hlong⟩
      · obtain ⟨n, hn, hlong⟩ := holdsLong_of_not_entriesAreWritable es hes
        exact ⟨n, hn.cons_entries, hlong⟩

end

theorem eq_text_of_name {v : Value} {name : String} (hname : v.name = .ok name) :
    name = v.text := by
  unfold Value.name at hname
  split at hname
  · cases hname
    rfl
  · cases hname

theorem name_of_isWritable {v : Value} (hwritable : v.isWritable = true) : v.name = .ok v.text :=
  if_pos hwritable

/-! ## Members -/

theorem ofInt_byte : ∀ n < 256, (Binary.ofInt? (Int.ofNat n)).isSome = true := by
  decide +kernel

theorem not_holdsHuge_byte (b : UInt8) : ¬ HoldsHuge (.int b.toNat) := by
  rintro ⟨n, hn, hhuge⟩
  cases hn
  have hsome := ofInt_byte b.toNat b.toNat_lt
  rw [Int.ofNat_eq_natCast, hhuge] at hsome
  cases hsome

/-- A huge number in a member of a value is one in the value. -/
theorem holdsHuge_of_mem_items {v u : Value} {vs : List Value} (hitems : v.items = .ok vs)
    (hmem : u ∈ vs) (hu : u.HoldsHuge) : v.HoldsHuge := by
  cases v with
  | list xs =>
      cases hitems
      exact hu.of_contains (.list hmem (.refl u))
  | set xs =>
      cases hitems
      exact hu.of_contains (.set hmem (.refl u))
  | map es =>
      cases hitems
      obtain ⟨⟨k, w⟩, hentry, rfl⟩ := List.mem_map.mp hmem
      exact hu.of_contains (.key hentry (.refl k))
  | str s =>
      cases hitems
      obtain ⟨c, _, rfl⟩ := List.mem_map.mp hmem
      obtain ⟨n, hn, _⟩ := hu
      cases hn
  | bytes d =>
      cases hitems
      obtain ⟨b, _, rfl⟩ := List.mem_map.mp hmem
      exact absurd hu (not_holdsHuge_byte b)
  | _ => cases hitems

theorem holdsHuge_of_mem_itemsOrNone {v u : Value} {vs : List Value}
    (hitems : v.itemsOrNone = .ok vs) (hmem : u ∈ vs) (hu : u.HoldsHuge) : v.HoldsHuge := by
  unfold itemsOrNone at hitems
  split at hitems
  · exact holdsHuge_of_mem_items hitems hmem hu
  · cases hitems
    cases hmem

/-- A huge number in a field of a mapping is one in the mapping, also where a missing field has
some value without one. -/
theorem holdsHuge_of_field {field : String} {es : List (Value × Value)} {default : Value}
    (hdefault : ¬ default.HoldsHuge) (hv : ((lookup field es).getD default).HoldsHuge) :
    (Value.map es).HoldsHuge := by
  cases hlookup : lookup field es with
  | none =>
      rw [hlookup] at hv
      exact absurd hv hdefault
  | some v =>
      rw [hlookup] at hv
      exact HoldsHuge.of_contains (contains_of_lookup hlookup) hv

theorem not_holdsHuge_null : ¬ HoldsHuge .null := by
  rintro ⟨n, hn, _⟩
  cases hn

end Value

end Fiducial
