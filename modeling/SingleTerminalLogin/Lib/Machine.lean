import Mathlib

/-!
# Machines that answer every input

A machine takes an input and a state to an output and the next state.  What a
single step preserves, a run preserves; what relates two machines step by step
relates their runs.

* `Machine.run`, `Machine.Along` — a run, and a condition that every step of a run
  meets in the state it is taken in;
* `Machine.run_invariant` — an invariant of the steps that meet the condition is an
  invariant of the runs that do;
* `Machine.forall_prefix_iff` — and where only these steps keep it, only these runs do;
* `Machine.run_simulates` — two machines that answer alike from related states do
  so in whole runs, as long as the first stays in states nothing went wrong in.
-/

/-- A machine that answers every input. -/
def Machine (ι ο σ : Type) := ι → σ → ο × σ

namespace Machine

section

variable {ι ο σ : Type}

/-- Take the inputs one after the other and collect the outputs. -/
def run (f : Machine ι ο σ) : List ι → σ → List ο × σ
  | [], s => ([], s)
  | i :: is, s =>
    let r := f i s
    let rs := run f is r.2
    (r.1 :: rs.1, rs.2)

/-- Every step of the run meets the condition in the state it is taken in. -/
def Along (f : Machine ι ο σ) (ok : ι → σ → Prop) : List ι → σ → Prop
  | [], _ => True
  | i :: is, s => ok i s ∧ Along f ok is (f i s).2

variable {f : Machine ι ο σ} {ok : ι → σ → Prop}

instance decidableAlong [∀ i s, Decidable (ok i s)] :
    (is : List ι) → (s : σ) → Decidable (f.Along ok is s)
  | [], _ => isTrue trivial
  | i :: is, s =>
    have := decidableAlong is (f i s).2
    inferInstanceAs (Decidable (ok i s ∧ f.Along ok is (f i s).2))

@[simp] theorem run_nil (s : σ) : f.run [] s = ([], s) := rfl

@[simp] theorem run_cons (i : ι) (is : List ι) (s : σ) :
    f.run (i :: is) s = ((f i s).1 :: (f.run is (f i s).2).1, (f.run is (f i s).2).2) := rfl

theorem run_append (is js : List ι) (s : σ) :
    f.run (is ++ js) s =
      ((f.run is s).1 ++ (f.run js (f.run is s).2).1, (f.run js (f.run is s).2).2) := by
  induction is generalizing s with
  | nil => rfl
  | cons i is ih => rw [List.cons_append, run_cons, ih, run_cons, List.cons_append]

/-- What every step preserves that meets the condition, a run preserves whose steps
all do. -/
theorem run_invariant {Inv : σ → Prop} (step : ∀ i s, ok i s → Inv s → Inv (f i s).2)
    {is : List ι} {s : σ} (h : f.Along ok is s) (hs : Inv s) : Inv (f.run is s).2 := by
  induction is generalizing s with
  | nil => exact hs
  | cons i is ih =>
    obtain ⟨hi, h⟩ := h
    rw [run_cons]
    exact ih h (step i s hi hs)

/-- What every step answers from a state of the invariant, all of a run is answered with. -/
theorem forall_output {Inv : σ → Prop} {P : ο → Prop} (step : ∀ i s, Inv s → P (f i s).1 ∧ Inv (f i s).2)
    {is : List ι} {s : σ} (hs : Inv s) : ∀ o ∈ (f.run is s).1, P o := by
  induction is generalizing s with
  | nil => exact nofun
  | cons i is ih =>
    rw [run_cons]
    exact List.forall_mem_cons.2 ⟨(step i s hs).1, ih (step i s hs).2⟩

/-- A condition on the inputs alone holds along every run over such inputs. -/
theorem along_of_forall {p : ι → Prop} {is : List ι} (h : ∀ i ∈ is, p i) (s : σ) :
    f.Along (fun i _ => p i) is s := by
  induction is generalizing s with
  | nil => trivial
  | cons i is ih =>
    exact ⟨h i List.mem_cons_self, ih (fun j hj => h j (List.mem_cons_of_mem i hj)) _⟩

/-- Where an invariant survives exactly the steps that meet the condition, it holds all
along exactly the runs whose steps all do. -/
theorem forall_prefix_iff {Inv : σ → Prop} (step : ∀ i s, Inv s → (Inv (f i s).2 ↔ ok i s))
    {is : List ι} {s : σ} (hs : Inv s) :
    (∀ js, js <+: is → Inv (f.run js s).2) ↔ f.Along ok is s := by
  induction is generalizing s with
  | nil =>
    refine ⟨fun _ => trivial, fun _ js hjs => ?_⟩
    rw [List.prefix_nil.1 hjs]
    exact hs
  | cons i is ih =>
    constructor
    · intro h
      have hi : Inv (f i s).2 := h [i] (List.prefix_append [i] is)
      refine ⟨(step i s hs).1 hi, (ih hi).1 fun js hjs => ?_⟩
      exact h (i :: js) ((List.prefix_cons_inj i).2 hjs)
    · rintro ⟨hi, h⟩ js hjs
      have hi := (step i s hs).2 hi
      cases js with
      | nil => exact hs
      | cons j js =>
        obtain ⟨rfl, hrest⟩ := List.cons_prefix_cons.1 hjs
        exact (ih hi).2 h js hrest

theorem Along.imp {ok' : ι → σ → Prop} (himp : ∀ i s, ok i s → ok' i s) {is : List ι} {s : σ}
    (h : f.Along ok is s) : f.Along ok' is s := by
  induction is generalizing s with
  | nil => trivial
  | cons i is ih => exact ⟨himp i s h.1, ih h.2⟩

end

section

variable {ι ο ο' ω σ τ : Type} {f : Machine ι ο σ} {g : Machine ι ο' τ}

/-- If nothing has gone wrong by the end, nothing had gone wrong before. -/
theorem good_of_run {ok : ι → σ → Prop} {Inv Good : σ → Prop}
    (keep : ∀ i s, ok i s → Inv s → Inv (f i s).2)
    (good : ∀ i s, ok i s → Inv s → Good (f i s).2 → Good s) {is : List ι} {s : σ}
    (hok : f.Along ok is s) (hs : Inv s) (h : Good (f.run is s).2) : Good s := by
  induction is generalizing s with
  | nil => exact h
  | cons i is ih =>
    obtain ⟨hi, hok⟩ := hok
    exact good i s hi hs (ih hok (keep i s hi hs) h)

/-- Two machines that answer alike from related states answer alike in a run.  Only
steps after which nothing has gone wrong have to be related. -/
theorem run_simulates {ok : ι → σ → Prop} {Inv Good : σ → Prop} {R : σ → τ → Prop}
    {observe : ο → ω} {observe' : ο' → ω} (keep : ∀ i s, ok i s → Inv s → Inv (f i s).2)
    (good : ∀ i s, ok i s → Inv s → Good (f i s).2 → Good s)
    (step : ∀ i s t, ok i s → Inv s → R s t → Good (f i s).2 →
      observe (f i s).1 = observe' (g i t).1 ∧ R (f i s).2 (g i t).2)
    {is : List ι} {s : σ} {t : τ} (hok : f.Along ok is s) (hs : Inv s) (hR : R s t)
    (h : Good (f.run is s).2) :
    (f.run is s).1.map observe = (g.run is t).1.map observe' ∧
      R (f.run is s).2 (g.run is t).2 := by
  induction is generalizing s t with
  | nil => exact ⟨rfl, hR⟩
  | cons i is ih =>
    obtain ⟨hi, hok⟩ := hok
    have hs' := keep i s hi hs
    rw [run_cons] at h
    obtain ⟨hout, hR'⟩ := step i s t hi hs hR (good_of_run keep good hok hs' h)
    obtain ⟨houts, hRs⟩ := ih hok hs' hR' h
    rw [run_cons, run_cons, List.map_cons, List.map_cons, hout, houts]
    exact ⟨rfl, hRs⟩

end

end Machine
