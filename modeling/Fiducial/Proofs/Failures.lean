import Fiducial.Fault
import Mathlib.Tactic

/-!
# How computations fail

`FailsWith P x` says that `x` fails only with faults of which `P` holds.  It passes through the
operations of which computations are made, so for a function it follows from what its parts fail
with.  Several conversions in a row return exactly if each of them does, with their results in
order.
-/

namespace Fiducial

theorem exists_of_bind_ok {ε β γ : Type} {x : Except ε β} {g : β → Except ε γ} {c : γ}
    (hbind : (x >>= g) = .ok c) : ∃ b, x = .ok b ∧ g b = .ok c := by
  cases x with
  | error f => cases hbind
  | ok b => exact ⟨b, rfl, hbind⟩

theorem bind_ok_iff {β γ : Type} {x : Except Fault β} {g : β → Except Fault γ} {c : γ} :
    (x >>= g) = .ok c ↔ ∃ b, x = .ok b ∧ g b = .ok c := by
  constructor
  · exact exists_of_bind_ok
  · rintro ⟨b, rfl, hg⟩
    exact hg

theorem exists_of_isOk {ε β : Type} {x : Except ε β} (hok : x.isOk = true) : ∃ b, x = .ok b := by
  cases x with
  | error f => cases hok
  | ok b => exact ⟨b, rfl⟩

theorem bind_error_iff {β γ : Type} {x : Except Fault β} {g : β → Except Fault γ} {f : Fault} :
    (x >>= g) = .error f ↔ x = .error f ∨ ∃ b, x = .ok b ∧ g b = .error f := by
  cases x with
  | error e => simp [bind, Except.bind]
  | ok b => simp [bind, Except.bind]

theorem mapError_ok_iff {β : Type} {x : Except Fault β} {g : Fault → Fault} {b : β} :
    x.mapError g = .ok b ↔ x = .ok b := by
  cases x <;> simp [Except.mapError]

/-! ## Results of several conversions -/

section Results

variable {β γ δ : Type} {g : β → Except Fault γ} {bs : List β} {cs : List γ}

theorem mapM_ok_iff : bs.mapM g = .ok cs ↔ bs.map g = cs.map .ok := by
  induction bs generalizing cs with
  | nil => cases cs <;> simp [pure, Except.pure]
  | cons b bs ih =>
      rw [List.mapM_cons, List.map_cons]
      constructor
      · intro hall
        obtain ⟨c, hc, hrest⟩ := exists_of_bind_ok hall
        obtain ⟨rest, htail, hcs⟩ := exists_of_bind_ok hrest
        cases hcs
        rw [hc, ih.mp htail, List.map_cons]
      · intro hall
        cases cs with
        | nil => cases hall
        | cons c cs =>
            obtain ⟨hc, hrest⟩ := List.cons.inj hall
            rw [hc, ih.mpr hrest]
            rfl

theorem mem_iff_of_mapM_ok (hall : bs.mapM g = .ok cs) (c : γ) :
    c ∈ cs ↔ ∃ b ∈ bs, g b = .ok c := by
  have hok : c ∈ cs ↔ .ok c ∈ cs.map (Except.ok (ε := Fault)) := by simp
  rw [hok, ← mapM_ok_iff.mp hall, List.mem_map]

theorem forall_of_mapM_ok {P : γ → Prop} (hconverted : ∀ b ∈ bs, ∀ c, g b = .ok c → P c)
    (hall : bs.mapM g = .ok cs) : ∀ c ∈ cs, P c := by
  intro c hc
  obtain ⟨b, hb, hread⟩ := (mem_iff_of_mapM_ok hall c).mp hc
  exact hconverted b hb c hread

theorem exists_of_mem_of_mapM_ok (hall : bs.mapM g = .ok cs) {b : β} (hb : b ∈ bs) :
    ∃ c ∈ cs, g b = .ok c := by
  have hmem : g b ∈ cs.map .ok := mapM_ok_iff.mp hall ▸ List.mem_map_of_mem hb
  obtain ⟨c, hc, hread⟩ := List.mem_map.mp hmem
  exact ⟨c, hc, hread.symm⟩

theorem exists_mapM_error_iff : (∃ f, bs.mapM g = .error f) ↔ ∃ b ∈ bs, ∃ f, g b = .error f := by
  induction bs with
  | nil => simp [pure, Except.pure]
  | cons b bs ih =>
      rw [List.mapM_cons, List.exists_mem_cons_iff, ← ih]
      cases g b with
      | error e => simp [bind, Except.bind]
      | ok c => cases bs.mapM g <;> simp [bind, Except.bind, pure, Except.pure]

/-- What results have in common with what they were made of stands in the same order. -/
theorem map_eq_of_results {p : γ → δ} {q : β → δ} (hsame : ∀ b c, g b = .ok c → p c = q b)
    (hall : bs.map g = cs.map .ok) : cs.map p = bs.map q := by
  induction bs generalizing cs with
  | nil =>
      cases cs with
      | nil => rfl
      | cons c cs => cases hall
  | cons b bs ih =>
      cases cs with
      | nil => cases hall
      | cons c cs =>
          obtain ⟨hc, hrest⟩ := List.cons.inj hall
          rw [List.map_cons, List.map_cons, hsame b c hc, ih hrest]

end Results

/-! ## Faults of a computation -/

/-- The computation fails only with faults of which `P` holds. -/
def FailsWith {β : Type} (P : Fault → Prop) (x : Except Fault β) : Prop := ∀ f, x = .error f → P f

namespace FailsWith

variable {β γ : Type} {P Q : Fault → Prop}

theorem ok (b : β) : FailsWith P (.ok b) := by
  rintro f ⟨⟩

theorem pure (b : β) : FailsWith P (Pure.pure b : Except Fault β) := ok b

theorem error {f : Fault} (hf : P f) : FailsWith P (.error f : Except Fault β) := by
  rintro _ ⟨⟩
  exact hf

theorem any {x : Except Fault β} : FailsWith (fun _ => True) x := fun _ _ => trivial

theorem mono {x : Except Fault β} (hx : FailsWith P x) (himp : ∀ f, P f → Q f) :
    FailsWith Q x :=
  fun f hf => himp f (hx f hf)

theorem ite {c : Prop} [Decidable c] {x y : Except Fault β} (hx : FailsWith P x)
    (hy : FailsWith P y) : FailsWith P (if c then x else y) := by
  split
  · exact hx
  · exact hy

theorem bind {x : Except Fault β} {g : β → Except Fault γ} (hx : FailsWith P x)
    (hg : ∀ b, x = .ok b → FailsWith P (g b)) : FailsWith P (x >>= g) := by
  cases x with
  | error e =>
      intro f hf
      cases hf
      exact hx e rfl
  | ok b => exact hg b rfl

theorem map {x : Except Fault β} (hx : FailsWith P x) (g : β → γ) : FailsWith P (x.map g) := by
  cases x with
  | error e =>
      intro f hf
      cases hf
      exact hx e rfl
  | ok b => exact ok (g b)

theorem mapM {g : β → Except Fault γ} {bs : List β} (hg : ∀ b ∈ bs, FailsWith P (g b)) :
    FailsWith P (bs.mapM g) := by
  induction bs with
  | nil => exact ok []
  | cons b bs ih =>
      rw [List.mapM_cons]
      apply bind (hg b List.mem_cons_self)
      intro c _
      apply bind (ih fun b' hb' => hg b' (List.mem_cons_of_mem _ hb'))
      intro cs _
      exact ok _

theorem foldlM {g : γ → β → Except Fault γ} {bs : List β}
    (hg : ∀ c, ∀ b ∈ bs, FailsWith P (g c b)) (c : γ) : FailsWith P (bs.foldlM g c) := by
  induction bs generalizing c with
  | nil => exact ok c
  | cons b bs ih =>
      rw [List.foldlM_cons]
      apply bind (hg c b List.mem_cons_self)
      intro c' _
      exact ih (fun c b' hb' => hg c b' (List.mem_cons_of_mem _ hb')) c'

/-- Every fault is replaced by one of which `Q` holds. -/
theorem mapError {x : Except Fault β} {g : Fault → Fault} (hx : FailsWith P x)
    (hg : ∀ f, P f → Q (g f)) : FailsWith Q (x.mapError g) := by
  cases x with
  | error e =>
      intro f hf
      cases hf
      exact hg e (hx e rfl)
  | ok b => exact ok b

end FailsWith

end Fiducial
