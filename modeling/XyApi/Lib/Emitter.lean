import Mathlib.Data.List.Basic

/-!
Programs that change a state and emit events, and observers of what they emit.
An observer is an automaton that may refuse an event. A program is simulated by
it when, from related states, the observer accepts everything the program emits
and ends in a related state again.
-/

namespace XyApi.Lib

variable {σ τ ε α : Type*}

/-- A program: the new state, and the events emitted on the way. -/
abbrev Emit (σ ε : Type*) := σ → σ × List ε

namespace Emit

def skip : Emit σ ε := fun s => (s, [])

def modify (f : σ → σ) : Emit σ ε := fun s => (f s, [])

def andThen (f g : Emit σ ε) : Emit σ ε := fun s =>
  let (s, first) := f s
  let (s, second) := g s
  (s, first ++ second)

def forEach (f : α → Emit σ ε) : List α → Emit σ ε
  | [] => skip
  | a :: rest => (f a).andThen (forEach f rest)

theorem andThen_fst (f g : Emit σ ε) (s : σ) : (f.andThen g s).1 = (g (f s).1).1 := rfl

theorem andThen_snd (f g : Emit σ ε) (s : σ) :
    (f.andThen g s).2 = (f s).2 ++ (g (f s).1).2 := rfl

theorem andThen_skip (f : Emit σ ε) : f.andThen skip = f := by
  funext s
  simp only [andThen, skip, List.append_nil]

theorem andThen_assoc (f g h : Emit σ ε) :
    (f.andThen g).andThen h = f.andThen (g.andThen h) := by
  funext s
  simp only [andThen, List.append_assoc]

theorem forEach_append (f : α → Emit σ ε) (first second : List α) (s : σ) :
    forEach f (first ++ second) s = ((forEach f first).andThen (forEach f second)) s := by
  induction first generalizing s with
  | nil => rfl
  | cons a rest ih =>
    have hRest := ih (f a s).1
    simp only [List.cons_append, forEach, andThen] at hRest ⊢
    rw [hRest, List.append_assoc]

end Emit

/-! ### Observers -/

def watch (observe : τ → ε → Option τ) (t : τ) (events : List ε) : Option τ :=
  events.foldlM observe t

section

variable {observe : τ → ε → Option τ}

@[simp] theorem watch_nil (t : τ) : watch observe t [] = some t := rfl

@[simp] theorem watch_cons (t : τ) (e : ε) (events : List ε) :
    watch observe t (e :: events) = (observe t e).bind fun t => watch observe t events := rfl

theorem watch_append (t : τ) (first second : List ε) :
    watch observe t (first ++ second) =
      (watch observe t first).bind fun t => watch observe t second :=
  List.foldlM_append

end

/-- From states related by `R`, the observer accepts what `f` emits and the
states are related by `R'` afterwards. -/
def Emit.Sim (observe : τ → ε → Option τ) (R : σ → τ → Prop) (f : Emit σ ε)
    (R' : σ → τ → Prop) : Prop :=
  ∀ s t, R s t → ∃ t', watch observe t (f s).2 = some t' ∧ R' (f s).1 t'

namespace Emit.Sim

theorem skip : Emit.Sim observe R Emit.skip R := fun _ t h => ⟨t, rfl, h⟩

theorem modify (h : ∀ s t, R s t → R' (u s) t) :
    Emit.Sim observe R (Emit.modify u) R' := fun s t hR => ⟨t, rfl, h s t hR⟩

theorem andThen (hf : Emit.Sim observe R f R₁) (hg : Emit.Sim observe R₁ g R') :
    Emit.Sim observe R (f.andThen g) R' := fun s t hR => by
  obtain ⟨t₁, hFirst, h₁⟩ := hf s t hR
  obtain ⟨t₂, hSecond, h₂⟩ := hg _ t₁ h₁
  refine ⟨t₂, ?_, h₂⟩
  rw [Emit.andThen_snd, watch_append, hFirst, Option.bind_some, hSecond]

/-- A loop, with a relation that may speak of the inputs still to come. -/
theorem forEach {f : α → Emit σ ε} {R : List α → σ → τ → Prop}
    (h : ∀ a rest, Emit.Sim observe (R (a :: rest)) (f a) (R rest)) (inputs : List α) :
    Emit.Sim observe (R inputs) (Emit.forEach f inputs) (R []) := by
  induction inputs with
  | nil => exact Emit.Sim.skip
  | cons a rest ih => exact (h a rest).andThen ih

end Emit.Sim

end XyApi.Lib
